import ConsumerChannel.Calendar

/-!
Points in time as YAML writes them: a day, or a day and a time of day with an optional fraction of a
second and an optional offset from universal time.
-/
namespace ConsumerChannel.Yaml

/-- The parts of a time of day. -/
structure ClockParts where
  hour : Nat
  minute : Nat
  second : Nat
  microsecond : Nat
  /-- The offset in seconds, if one is written. -/
  offset : Option Int

/-- A point in time as it is written, whether the calendar has it or not. -/
structure Timestamp where
  year : Nat
  month : Nat
  day : Nat
  clock : Option ClockParts
  /-- Whether month and day have two digits each. -/
  isPadded : Bool

namespace Timestamp

/-- A number of one digit or two, and how many there were. -/
def oneOrTwo : List Char → Option (Nat × Nat × List Char)
  | a :: b :: rest =>
    if !Text.isPlainDigit a then none
    else if Text.isPlainDigit b then some (Numeral.ofPlainDigits [a, b], 2, rest)
    else some (Numeral.ofPlainDigits [a], 1, b :: rest)
  | [a] => if Text.isPlainDigit a then some (Numeral.ofPlainDigits [a], 1, []) else none
  | [] => none

/-- What follows a character, if it comes next. -/
def after? (c : Char) : List Char → Option (List Char)
  | d :: rest => if d == c then some rest else none
  | [] => none

/-- A space or a tab. -/
def isBlank (c : Char) : Bool := c == ' ' || c == '\t'

/-- An offset at the end: nothing, a mark for none, or hours and perhaps minutes with a sign. -/
def offset? (s : List Char) : Option (Option Int) :=
  if s.isEmpty then some none
  else
    match s.dropWhile isBlank with
    | ['Z'] => some (some 0)
    | sign :: rest =>
      if sign != '+' && sign != '-' then none
      else do
        let (hours, _, rest) ← oneOrTwo rest
        let minutes ← match rest with
          | [] => some 0
          | ':' :: [a, b] =>
            if Text.isPlainDigit a && Text.isPlainDigit b then some (Numeral.ofPlainDigits [a, b]) else none
          | _ => none
        let size : Int := hours * 3600 + minutes * 60
        return some (if sign == '-' then -size else size)
    | [] => none

/-- A fraction of a second as microseconds; further digits are cut. -/
def microseconds (digits : List Char) : Nat :=
  Numeral.ofPlainDigits ((digits ++ List.replicate 6 '0').take 6)

/-- A time of day up to the end of a text. -/
def clock? (s : List Char) : Option ClockParts := do
  let (hour, _, rest) ← oneOrTwo s
  let (minute, rest) ← DateTime.twoDigits? (← after? ':' rest)
  let (second, rest) ← DateTime.twoDigits? (← after? ':' rest)
  let (fraction, rest) := match rest with
    | '.' :: more => Numeral.spanDigits more
    | other => ([], other)
  return ⟨hour, minute, second, microseconds fraction, ← offset? rest⟩

/-- The time of day behind a day, if anything follows the day. -/
def clockAfterDay? : List Char → Option (Option ClockParts)
  | [] => some none
  | c :: rest =>
    if c == 'T' || c == 't' then (clock? rest).map some
    else if isBlank c then (clock? (rest.dropWhile isBlank)).map some
    else none

/-- The point in time that a text writes. -/
def read? (s : List Char) : Option Timestamp := do
  let (century, rest) ← DateTime.twoDigits? s
  let (year, rest) ← DateTime.twoDigits? rest
  let (month, monthWidth, rest) ← oneOrTwo (← after? '-' rest)
  let (day, dayWidth, rest) ← oneOrTwo (← after? '-' rest)
  return ⟨century * 100 + year, month, day, ← clockAfterDay? rest, monthWidth == 2 && dayWidth == 2⟩

/-- Whether a plain text of this form is a point in time: a day alone needs two digits for month and
for day. -/
def isStandard (t : Timestamp) : Bool := t.clock.isSome || t.isPadded

/-- The largest offset, in seconds. -/
def offsetLimit : Nat := 86400

end Timestamp

end ConsumerChannel.Yaml
