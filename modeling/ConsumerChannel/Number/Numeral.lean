import ConsumerChannel.Number.Binary64
import ConsumerChannel.Text.Blank
import ConsumerChannel.Text.Digits

/-!
Reading numbers from text. White space around a number is ignored, digits of any script count, and a
single underscore may stand between two digits.
-/
namespace ConsumerChannel.Numeral
open Text

/-- The longest integer text that is read or written. -/
def digitLimit : Nat := 4300

/-- A character of a number text in the plain alphabet: a digit of any script becomes the plain
digit of its value. -/
def plainChar (c : Char) : Char :=
  match digitValue? c with
  | some n => digitChar n
  | none => c

/-- The characters of a number text: trimmed, digits plain. -/
def normalize (s : String) : List Char :=
  (trim isSpace s.toList).map plainChar

/-- An optional sign at the front; true for a minus. -/
def takeSign : List Char → Bool × List Char
  | '-' :: rest => (true, rest)
  | '+' :: rest => (false, rest)
  | s => (false, s)

/-- A digit row in which single underscores separate digits, without them; nothing for any other
text. `afterDigit` tells whether a digit came just before. -/
def digitRow? : (afterDigit : Bool) → List Char → Option (List Char)
  | afterDigit, [] => if afterDigit then some [] else none
  | afterDigit, c :: rest =>
    if isPlainDigit c then (digitRow? true rest).map (c :: ·)
    else if c == '_' && afterDigit then digitRow? false rest
    else none

/-- The number written by plain digits. -/
def ofPlainDigits (s : List Char) : Nat :=
  ofDigits 10 (s.map fun c => c.toNat - 0x30)

/-- An integer with its sign. -/
def signed (negative : Bool) (n : Nat) : Int :=
  if negative then -(n : Int) else n

/-- How many characters a whole number is written with: its digits, and a minus if it has one. -/
def writtenLength (negative : Bool) (digits : Nat) : Nat := if negative then digits + 1 else digits

/-- The integer that a text writes; nothing if it is malformed or too long. -/
def int? (s : String) : Option Int :=
  let (negative, body) := takeSign (normalize s)
  match digitRow? false body with
  | some digits => if digitLimit < digits.length then none else some (signed negative (ofPlainDigits digits))
  | none => none

/-- The text after a mark of the base of a number, `0b`, `0o` or `0x` in either case, if it starts with
the mark of the base. -/
def dropBaseMark (base : Nat) : List Char → List Char
  | '0' :: c :: rest =>
    if (base, smallLetter c) ∈ [(2, 'b'), (8, 'o'), (16, 'x')] then rest else '0' :: c :: rest
  | s => s

/-- The integer that a text writes in a base of at most sixteen, without separators between digits. -/
def intInBase? (base : Nat) (s : String) : Option Int := do
  let (negative, body) := takeSign (normalize s)
  let digits ← (dropBaseMark base body).mapM fun c => (hexValue? c).filter (· < base)
  if digits.isEmpty then none else return signed negative (ofDigits base digits)

/-- Removes underscores that stand between two digits; nothing if one stands elsewhere. -/
def dropSeparators? : (previous : Char) → List Char → Option (List Char)
  | previous, [] => if previous == '_' then none else some []
  | previous, c :: rest =>
    if c == '_' then
      if isPlainDigit previous then dropSeparators? '_' rest else none
    else if previous == '_' && !isPlainDigit c then none
    else (dropSeparators? c rest).map (c :: ·)

/-- The leading plain digits of a text and what follows them. -/
def spanDigits (s : List Char) : List Char × List Char :=
  (s.takeWhile isPlainDigit, s.dropWhile isPlainDigit)

/-- The exponent part of a decimal text: empty, or a mark, an optional sign and digits. -/
def exponent? : List Char → Option Int
  | [] => some 0
  | e :: rest =>
    if e == 'e' || e == 'E' then
      let (negative, digits) := takeSign rest
      if digits.isEmpty || !digits.all isPlainDigit then none
      else some (signed negative (ofPlainDigits digits))
    else none

/-- A decimal text without a sign: digits with at most one point, at least one digit, and an
optional exponent, as the digits read as one number and the power of ten they are scaled by. -/
def decimal? (s : List Char) : Option (Nat × Int) :=
  let (whole, rest) := spanDigits s
  let (fraction, rest) := match rest with
    | '.' :: more => spanDigits more
    | other => ([], other)
  if whole.isEmpty && fraction.isEmpty then none
  else (exponent? rest).map fun e => (ofPlainDigits (whole ++ fraction), e - fraction.length)

/-- A floating-point text without white space around it. -/
def floatBody? (s : List Char) : Option Binary64 :=
  let (negative, body) := takeSign s
  let word := String.ofList (body.map smallLetter)
  if word == "inf" || word == "infinity" then some (.infinity negative)
  else if word == "nan" then some .nan
  else (decimal? body).map fun (digits, exponent) => Binary64.ofDecimal negative digits exponent

/-- The floating-point number that a text writes. -/
def float? (s : String) : Option Binary64 :=
  (dropSeparators? ' ' (normalize s)).bind floatBody?

end ConsumerChannel.Numeral
