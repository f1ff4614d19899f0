import ConsumerChannel.Number.Numeral

/-!
Decimal numbers of any precision: a coefficient and a power of ten, kept as they were written.
-/
namespace ConsumerChannel

/-- A decimal number. -/
inductive Decimal where
  /-- The number `± coefficient · 10 ^ exponent`. -/
  | finite (negative : Bool) (coefficient : Nat) (exponent : Int)
  /-- Beyond every number. -/
  | infinity (negative : Bool)
  /-- No number; a signaling one may not be converted. -/
  | nan (negative : Bool) (signaling : Bool)
  deriving DecidableEq, Repr

namespace Decimal

/-- The decimal number that a text writes. -/
def ofText? (s : String) : Option Decimal :=
  let cs := (Numeral.normalize s).filter (· != '_')
  let (negative, body) := Numeral.takeSign cs
  let word := String.ofList (body.map Text.smallLetter)
  if word == "inf" || word == "infinity" then some (.infinity negative)
  else if word == "nan" then some (.nan negative false)
  else if word == "snan" then some (.nan negative true)
  else (Numeral.decimal? body).map fun (digits, exponent) => .finite negative digits exponent

/-- The text of a decimal: positional unless the exponent is positive or the number is below
a millionth, and then scientific. -/
def text : Decimal → String
  | .nan negative signaling => (if negative then "-" else "") ++ (if signaling then "sNaN" else "NaN")
  | .infinity negative => (if negative then "-" else "") ++ "Infinity"
  | .finite negative coefficient exponent =>
    let digits := Text.decimalText coefficient
    let left : Int := exponent + digits.length
    let place : Int := if exponent ≤ 0 ∧ -6 < left then left else 1
    let body :=
      if place ≤ 0 then '0' :: '.' :: List.replicate place.natAbs '0' ++ digits
      else if digits.length ≤ place.natAbs then
        digits ++ List.replicate (place.natAbs - digits.length) '0'
      else digits.take place.natAbs ++ '.' :: digits.drop place.natAbs
    let power := left - place
    let tail := if power = 0 then []
      else 'E' :: (if power < 0 then '-' else '+') :: Text.decimalText power.natAbs
    String.ofList ((if negative then ['-'] else []) ++ body ++ tail)

/-- The nearest floating-point number; nothing for a signaling value. -/
def toBinary64? : Decimal → Option Binary64
  | .finite negative coefficient exponent => some (Binary64.ofDecimal negative coefficient exponent)
  | .infinity negative => some (.infinity negative)
  | .nan _ signaling => if signaling then none else some .nan

/-- The integer part, rounded toward zero; nothing for what is not finite. -/
def truncate? : Decimal → Option Int
  | .finite negative coefficient exponent =>
    let size := if 0 ≤ exponent then coefficient * Nat.pow 10 exponent.natAbs
      else coefficient / Nat.pow 10 exponent.natAbs
    some (Numeral.signed negative size)
  | _ => none

/-- The sign against zero; no number has none. -/
def sign? : Decimal → Option Int
  | .finite negative coefficient _ =>
    some (if coefficient = 0 then 0 else if negative then -1 else 1)
  | .infinity negative => some (if negative then -1 else 1)
  | .nan _ _ => none

/-- A finite number as a fraction of whole numbers. -/
def toRatio? : Decimal → Option (Int × Nat)
  | .finite negative coefficient exponent =>
    some (if 0 ≤ exponent then (Numeral.signed negative (coefficient * Nat.pow 10 exponent.natAbs), 1)
      else (Numeral.signed negative coefficient, Nat.pow 10 exponent.natAbs))
  | _ => none

/-- Whether the value is zero; no number is not. -/
def isZero : Decimal → Bool
  | .finite _ coefficient _ => coefficient == 0
  | _ => false

end Decimal

end ConsumerChannel
