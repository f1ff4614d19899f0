import ConsumerChannel.Number.Binary64

/-!
Sums and products of floating-point numbers: the exact result, rounded once. What is not finite is
carried along, and has no sum with its opposite and no product with zero.
-/
namespace ConsumerChannel.Binary64

/-- The number of the other sign. -/
def negate : Binary64 → Binary64
  | nan => nan
  | infinity negative => infinity (!negative)
  | finite negative significand exponent canonical => finite (!negative) significand exponent canonical

/-- Whether a number carries a minus. -/
def isNegative : Binary64 → Bool
  | nan => false
  | infinity negative => negative
  | finite negative _ _ _ => negative

/-- The sum of two numbers. A sum of zero is negative only if both terms are. -/
def add (x y : Binary64) : Binary64 :=
  match x, y with
  | nan, _ => nan
  | _, nan => nan
  | infinity a, infinity b => if a = b then infinity a else nan
  | infinity a, _ => infinity a
  | _, infinity b => infinity b
  | x, y =>
    let (n, d) := x.toRatio?.getD (0, 1)
    let (m, e) := y.toRatio?.getD (0, 1)
    let sum := n * e + m * d
    if sum = 0 then zero (x.isNegative && y.isNegative)
    else ofRatio (sum < 0) sum.natAbs (d * e)

/-- The product of two numbers. -/
def mul (x y : Binary64) : Binary64 :=
  match x.sign?, y.sign? with
  | some s, some t =>
    let negative := x.isNegative != y.isNegative
    match x.toRatio?, y.toRatio? with
    | some (n, d), some (m, e) => ofRatio negative (n * m).natAbs (d * e)
    | _, _ => if s = 0 || t = 0 then nan else infinity negative
  | _, _ => nan

end ConsumerChannel.Binary64
