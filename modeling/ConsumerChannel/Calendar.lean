import ConsumerChannel.Text.Digits
import ConsumerChannel.Number.Numeral
import ConsumerChannel.Number.Shortest

/-!
Dates and times of the Gregorian calendar, from year 1 to 9999, and their standard texts.
-/
namespace ConsumerChannel

/-- Whether a year has a 29th of February. -/
def isLeapYear (year : Nat) : Bool :=
  year % 4 == 0 && (year % 100 != 0 || year % 400 == 0)

/-- The number of days of a month. -/
def daysInMonth (year month : Nat) : Nat :=
  if month = 2 then (if isLeapYear year then 29 else 28)
  else if month ∈ [4, 6, 9, 11] then 30
  else 31

/-- A day of the calendar. -/
structure Date where
  year : Nat
  month : Nat
  day : Nat
  deriving DecidableEq, Repr

/-- A time of day on a date, with an offset from universal time in seconds if one is known. -/
structure DateTime where
  date : Date
  hour : Nat
  minute : Nat
  second : Nat
  microsecond : Nat
  offset : Option Int
  deriving DecidableEq, Repr

/-- A number in at least the given count of decimal digits. -/
def paddedText (width n : Nat) : List Char :=
  Binary64.padZeros width (Text.decimalText n)

namespace Date

/-- The day, if the calendar has it. -/
def ofParts? (year month day : Nat) : Option Date :=
  if 1 ≤ year ∧ year ≤ 9999 ∧ 1 ≤ month ∧ month ≤ 12 ∧ 1 ≤ day ∧ day ≤ daysInMonth year month then
    some ⟨year, month, day⟩
  else none

/-- The text `YYYY-MM-DD`. -/
def text (d : Date) : String :=
  String.ofList (paddedText 4 d.year ++ '-' :: paddedText 2 d.month ++ '-' :: paddedText 2 d.day)

/-- The text of a date as a clock with an unpadded year shows it. -/
def clockText (d : Date) : String :=
  String.ofList (Text.decimalText d.year ++ '-' :: paddedText 2 d.month ++ '-' :: paddedText 2 d.day)

/-- Days before the first of March of a year that starts with March. -/
def daysBeforeMonth (year month : Nat) : Nat :=
  (List.range (month - 1)).foldl (fun days m => days + daysInMonth year (m + 1)) 0

/-- The number of days since the day before 1 January of year 1. -/
def ordinal (d : Date) : Nat :=
  let y := d.year - 1
  y * 365 + y / 4 - y / 100 + y / 400 + daysBeforeMonth d.year d.month + d.day

/-- Reads `YYYY-MM-DD`. -/
def ofText? (s : String) : Option Date :=
  match s.toList with
  | [a, b, c, d, '-', e, f, '-', g, h] =>
    let number? (cs : List Char) : Option Nat :=
      if cs.all Text.isPlainDigit then some (Numeral.ofPlainDigits cs) else none
    do ofParts? (← number? [a, b, c, d]) (← number? [e, f]) (← number? [g, h])
  | _ => none

end Date

namespace DateTime

/-- The time, if the calendar and the clock have it. -/
def ofParts? (date : Date) (hour minute second microsecond : Nat) (offset : Option Int) :
    Option DateTime :=
  if hour < 24 ∧ minute < 60 ∧ second < 60 ∧ microsecond < 1000000 then
    some ⟨date, hour, minute, second, microsecond, offset⟩
  else none

/-- The time of day with microseconds only if there are any. -/
def timeText (t : DateTime) : List Char :=
  paddedText 2 t.hour ++ ':' :: paddedText 2 t.minute ++ ':' :: paddedText 2 t.second ++
    (if t.microsecond = 0 then [] else '.' :: paddedText 6 t.microsecond)

/-- An offset `±HH:MM`, with seconds only if there are any. -/
def offsetText (offset : Int) : List Char :=
  let n := offset.natAbs
  (if offset < 0 then '-' else '+') :: paddedText 2 (n / 3600) ++ ':' :: paddedText 2 (n / 60 % 60) ++
    (if n % 60 = 0 then [] else ':' :: paddedText 2 (n % 60))

/-- The standard text with the given mark between day and time. -/
def text (mark : Char) (t : DateTime) : String :=
  String.ofList (t.date.text.toList ++ mark :: t.timeText ++ (t.offset.map offsetText).getD [])

/-- The text in request bodies, where an offset of zero is written `Z`. -/
def wireText (t : DateTime) : String :=
  if t.offset = some 0 then
    String.ofList (t.date.text.toList ++ 'T' :: t.timeText ++ ['Z'])
  else t.text 'T'

/-- The text `YYYY-MM-DDTHH:MM:SS.mmmZ` of a time of the universal clock, without the padding of the
year; milliseconds are cut, not rounded. -/
def universalStamp (t : DateTime) : String :=
  String.ofList (t.date.clockText.toList ++ 'T' :: paddedText 2 t.hour ++ ':' :: paddedText 2 t.minute ++
    ':' :: paddedText 2 t.second ++ '.' :: paddedText 3 (t.microsecond / 1000) ++ ['Z'])

/-- The text `YYYY-MM-DD HH:MM:SS` of a time of the local clock, without the padding of the year. -/
def localStamp (t : DateTime) : String :=
  String.ofList (t.date.clockText.toList ++ ' ' :: paddedText 2 t.hour ++ ':' :: paddedText 2 t.minute ++
    ':' :: paddedText 2 t.second)

/-- Microseconds since the start of the calendar in universal time. -/
def instant (t : DateTime) : Int :=
  (((t.date.ordinal : Int) * 86400 + t.hour * 3600 + t.minute * 60 + t.second - t.offset.getD 0) *
    1000000) + t.microsecond

/-- Two digits as a number. -/
def twoDigits? : List Char → Option (Nat × List Char)
  | a :: b :: rest =>
    if Text.isPlainDigit a && Text.isPlainDigit b then some (Numeral.ofPlainDigits [a, b], rest) else none
  | _ => none

/-- A clock time `HH[:MM[:SS[.fraction]]]` as seconds, microseconds and the rest. -/
def clock? (s : List Char) : Option (Nat × Nat × Nat × Nat × List Char) := do
  let (hour, rest) ← twoDigits? s
  match rest with
  | ':' :: more =>
    let (minute, rest) ← twoDigits? more
    match rest with
    | ':' :: more =>
      let (second, rest) ← twoDigits? more
      match rest with
      | '.' :: more =>
        let (digits, rest) := Numeral.spanDigits more
        let six := (digits ++ List.replicate (6 - digits.length) '0').take 6
        if digits.isEmpty then none
        else return (hour, minute, second, Numeral.ofPlainDigits six, rest)
      | other => return (hour, minute, second, 0, other)
    | other => return (hour, minute, 0, 0, other)
  | other => return (hour, 0, 0, 0, other)

/-- An offset text at the end of a time: nothing, `Z`, or a signed clock time. -/
def offset? : List Char → Option (Option Int)
  | [] => some none
  | ['Z'] => some (some 0)
  | sign :: rest => do
    let (hour, minute, second, _, tail) ← clock? rest
    let size : Int := hour * 3600 + minute * 60 + second
    if !tail.isEmpty then none
    else if sign == '+' then some (some size)
    else if sign == '-' then some (some (-size))
    else none

/-- Reads `YYYY-MM-DD`, alone or with any one character and a clock time after it. -/
def ofText? (s : String) : Option DateTime :=
  let cs := s.toList
  match Date.ofText? (String.ofList (cs.take 10)), cs.drop 10 with
  | some date, [] => some ⟨date, 0, 0, 0, 0, none⟩
  | some date, _ :: time => do
    let (hour, minute, second, microsecond, rest) ← clock? time
    ofParts? date hour minute second microsecond (← offset? rest)
  | none, _ => none

end DateTime

end ConsumerChannel
