/-!
Floating-point numbers of 64 bits: a sign, a significand below 2^53 and a power of two, with the two
infinities and a value that is no number. Everything is exact arithmetic on whole numbers; the one
rounding is to the nearest, a tie to the even significand.
-/
namespace ConsumerChannel

/-- The parts that a finite number has: a significand of 53 bits, or fewer at the least exponent. -/
def Canonical (significand : Nat) (exponent : Int) : Prop :=
  significand < Nat.pow 2 53 ∧ -1074 ≤ exponent ∧ exponent ≤ 971 ∧
    (Nat.pow 2 52 ≤ significand ∨ exponent = -1074)

instance (significand : Nat) (exponent : Int) : Decidable (Canonical significand exponent) := by
  unfold Canonical
  exact inferInstance

/-- A floating-point number. -/
inductive Binary64 where
  /-- No number. -/
  | nan
  /-- Beyond every number, above or below. -/
  | infinity (negative : Bool)
  /-- The number `± significand · 2 ^ exponent`. -/
  | finite (negative : Bool) (significand : Nat) (exponent : Int)
      (canonical : Canonical significand exponent)
  deriving DecidableEq

namespace Binary64

/-- Zero of either sign. -/
def zero (negative : Bool) : Binary64 :=
  .finite negative 0 (-1074) (by decide)

/-- The number with the given parts, or infinity where the exponent is too large for them. -/
def ofParts (negative : Bool) (significand : Nat) (exponent : Int) : Binary64 :=
  if h : Canonical significand exponent then .finite negative significand exponent h
  else .infinity negative

/-- The quotient rounded to the nearest whole number, a tie to the even one. -/
def roundDiv (num den : Nat) : Nat :=
  let q := num / den
  let r := num % den
  if 2 * r < den then q
  else if den < 2 * r then q + 1
  else if q % 2 = 0 then q else q + 1

/-- The fraction `num / den` times `2 ^ (-exponent)`, rounded. -/
def scaledQuotient (num den : Nat) (exponent : Int) : Nat :=
  if exponent ≤ 0 then roundDiv (num * Nat.pow 2 exponent.natAbs) den
  else roundDiv num (den * Nat.pow 2 exponent.natAbs)

/-- The number nearest to the fraction `num / den`, for a positive `den`. -/
def ofRatio (negative : Bool) (num den : Nat) : Binary64 :=
  if num = 0 then zero negative
  else
    let guess : Int := (num.log2 : Int) - (den.log2 : Int) - 53
    let wide := if guess ≤ 0 then num * Nat.pow 2 guess.natAbs / den else num / (den * Nat.pow 2 guess.natAbs)
    let exponent := max (if wide < Nat.pow 2 53 then guess else guess + 1) (-1074)
    let significand := scaledQuotient num den exponent
    if significand = Nat.pow 2 53 then ofParts negative (Nat.pow 2 52) (exponent + 1)
    else ofParts negative significand exponent

/-- The number of decimal digits of a natural number, one for zero. -/
def digitCount (n : Nat) : Nat := (Nat.toDigits 10 n).length

/-- The number nearest to `± digits · 10 ^ exponent`. Far outside the range of finite numbers the
answer is known without the power. -/
def ofDecimal (negative : Bool) (digits : Nat) (exponent : Int) : Binary64 :=
  if digits = 0 then zero negative
  else
    let magnitude := (digitCount digits : Int) + exponent
    if 310 < magnitude then .infinity negative
    else if magnitude < -330 then zero negative
    else if 0 ≤ exponent then ofRatio negative (digits * Nat.pow 10 exponent.natAbs) 1
    else ofRatio negative digits (Nat.pow 10 exponent.natAbs)

/-- The number nearest to an integer, or nothing if it is out of the finite range. -/
def ofInt? (n : Int) : Option Binary64 :=
  match ofRatio (n < 0) n.natAbs 1 with
  | .infinity _ => none
  | x => some x

/-- The integer part, rounded toward zero; nothing for what is not finite. -/
def truncate? : Binary64 → Option Int
  | .finite negative significand exponent _ =>
    let size := if 0 ≤ exponent then significand * Nat.pow 2 exponent.natAbs
      else significand / Nat.pow 2 exponent.natAbs
    some (if negative then -(size : Int) else size)
  | _ => none

/-- Whether the number has no fractional part. -/
def isIntegral : Binary64 → Bool
  | .finite _ significand exponent _ =>
    if 0 ≤ exponent then true else significand % Nat.pow 2 exponent.natAbs == 0
  | _ => false

/-- The sign of a number against zero; no number has none. -/
def sign? : Binary64 → Option Int
  | .nan => none
  | .infinity negative => some (if negative then -1 else 1)
  | .finite negative significand _ _ =>
    some (if significand = 0 then 0 else if negative then -1 else 1)

/-- A finite number as a fraction of whole numbers. -/
def toRatio? : Binary64 → Option (Int × Nat)
  | .finite negative significand exponent _ =>
    let (num, den) := if 0 ≤ exponent then (significand * Nat.pow 2 exponent.natAbs, 1)
      else (significand, Nat.pow 2 exponent.natAbs)
    some (if negative then -(num : Int) else num, den)
  | _ => none

end Binary64

end ConsumerChannel
