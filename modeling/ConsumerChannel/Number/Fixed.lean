import ConsumerChannel.Number.Shortest
import ConsumerChannel.Text.Digits

/-!
Floating-point numbers with a given count of digits: a count after the point, or a count of leading
digits. Both round to the nearest, a tie to the even last digit. A full form keeps the point even if no
digit follows it, and the zeros at the end.
-/
namespace ConsumerChannel.Binary64

/-- A whole number of units of `10 ^ -places`, with the point put in. -/
def pointed (full : Bool) (places units : Nat) : List Char :=
  if places = 0 then Text.decimalText units ++ (if full then ['.'] else [])
  else
    let digits := padZeros (places + 1) (Text.decimalText units)
    digits.take (digits.length - places) ++ '.' :: digits.drop (digits.length - places)

/-- A fraction with the given count of digits after the point. -/
def fixedText (full : Bool) (places num den : Nat) : List Char :=
  pointed full places (roundDiv (num * Nat.pow 10 places) den)

/-- The leading digits of a positive fraction as a whole number, and the power of ten of the first. -/
def leading (count num den : Nat) : Nat × Int :=
  let guess : Int := ((num.log2 : Int) - den.log2 - 1) * 30103 / 100000 - 1
  let power := tenPower num den 5 guess - 1
  let scale : Int := power - count + 1
  let units := if 0 ≤ scale then roundDiv num (den * Nat.pow 10 scale.natAbs)
    else roundDiv (num * Nat.pow 10 scale.natAbs) den
  if units = Nat.pow 10 count then (Nat.pow 10 (count - 1), power + 1) else (units, power)

/-- An exponent with its sign and at least two digits. -/
def exponentText (power : Int) : List Char :=
  'e' :: (if power < 0 then '-' else '+') :: padZeros 2 (Text.decimalText power.natAbs)

/-- A fraction in scientific notation with the given count of digits after the point. -/
def scientificText (full : Bool) (places num den : Nat) : List Char :=
  let (units, power) := if num = 0 then (0, 0) else leading (places + 1) num den
  pointed full places units ++ exponentText power

/-- Drops the zeros at the end of a fraction, and the point if nothing follows it. -/
def dropFractionZeros (digits : List Char) : List Char :=
  if digits.contains '.' then
    let kept := (digits.reverse.dropWhile (· == '0'))
    (match kept with
      | '.' :: rest => rest
      | other => other).reverse
  else digits

/-- A fraction with the given count of leading digits, in whichever notation is shorter. -/
def generalText (full : Bool) (count num den : Nat) : List Char :=
  let count := max count 1
  let short (digits : List Char) := if full then digits else dropFractionZeros digits
  let (units, power) := if num = 0 then (0, 0) else leading count num den
  if -4 ≤ power ∧ power < count then
    let places := ((count : Int) - 1 - power).toNat
    short (fixedText full places num den)
  else short (pointed full (count - 1) units) ++ exponentText power

end ConsumerChannel.Binary64
