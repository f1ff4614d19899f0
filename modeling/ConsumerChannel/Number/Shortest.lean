import ConsumerChannel.Number.Binary64

/-!
The shortest decimal that reads back as a floating-point number, and the layouts in which it is
written. Of the decimals with the fewest digits the one nearest to the number is taken.
-/
namespace ConsumerChannel

/-- A decimal `0.d₁d₂… · 10 ^ point`: digits without leading or trailing zeros, and the place of the
point relative to the first digit. -/
structure DecimalForm where
  digits : List Char
  point : Int
  deriving DecidableEq, Repr

namespace Binary64

/-- The interval of reals that round to `significand · 2 ^ exponent`, in units of a quarter of
`2 ^ exponent`: the distance down is half as long at a power of two. -/
def roundingGap (significand : Nat) (exponent : Int) : Nat × Nat :=
  if significand = Nat.pow 2 52 ∧ exponent ≠ -1074 then (4 * significand - 1, 4 * significand + 2)
  else (4 * significand - 2, 4 * significand + 2)

/-- Whether `num / den` lies between the bounds, which belong to the interval if `closed`. -/
def within (closed : Bool) (low high num den : Nat) : Bool :=
  if closed then low * den ≤ num && num ≤ high * den else low * den < num && num < high * den

/-- The least power of ten above a positive fraction `num / den`, from a lower guess. -/
def tenPower (num den : Nat) : (rounds : Nat) → Int → Int
  | 0, p => p
  | rounds + 1, p =>
    let above := if 0 ≤ p then num < den * Nat.pow 10 p.natAbs else num * Nat.pow 10 p.natAbs < den
    if above then p else tenPower num den rounds (p + 1)

/-- Drops the zeros at the end of a digit row. -/
def dropZeros (digits : List Char) : List Char :=
  (digits.reverse.dropWhile (· == '0')).reverse

/-- Looks for the shortest decimal: with `count` digits, then with one more. The number is
`4 · significand` quarters of a unit, each quarter being `num / den`. -/
def searchShortest (closed : Bool) (low high value num den : Nat) (point : Int) :
    (rounds count : Nat) → DecimalForm
  | 0, _ => ⟨[], point⟩
  | rounds + 1, count =>
    -- one grid step is 10 ^ (point - count); count how many fit
    let step : Int := point - count
    let (n, d) := if 0 ≤ step then (num, den * Nat.pow 10 step.natAbs) else (num * Nat.pow 10 step.natAbs, den)
    let down := value * n / d
    let up := down + 1
    let downFits := within closed low high (down * d) n
    let upFits := within closed low high (up * d) n
    let answer (k : Nat) : DecimalForm :=
      let text := Nat.toDigits 10 k
      ⟨dropZeros text, point + ((text.length : Int) - count)⟩
    let twice := 2 * (value * n - down * d)
    if downFits && (!upFits || twice < d || (twice = d && down % 2 = 0)) then answer down
    else if upFits then answer up
    else searchShortest closed low high value num den point rounds (count + 1)

/-- The shortest decimal of a positive finite number. Seventeen digits always suffice. -/
def shortest (significand : Nat) (exponent : Int) : DecimalForm :=
  let (num, den) := if 0 ≤ exponent - 2 then (Nat.pow 2 (exponent - 2).natAbs, 1)
    else (1, Nat.pow 2 (exponent - 2).natAbs)
  let (low, high) := roundingGap significand exponent
  let value := 4 * significand
  let bits := (significand.log2 : Int) + exponent
  let guess : Int := bits * 30103 / 100000 - 1
  let point := tenPower (value * num) den 4 guess
  searchShortest (significand % 2 = 0) low high value num den point 18 1

/-- How a decimal is written: where positional notation ends on either side, how few digits the
exponent may have, and the texts of what is not finite. -/
structure Layout where
  /-- The least place of the point that is written positionally. -/
  leastPoint : Int
  /-- The greatest place of the point that is written positionally. -/
  greatestPoint : Int
  /-- The least count of exponent digits. -/
  exponentWidth : Nat
  /-- The text of what is no number. -/
  nan : String
  /-- The text of infinity. -/
  infinity : String

/-- The row extended with zeros on the left to a width. -/
def padZeros (width : Nat) (digits : List Char) : List Char :=
  List.replicate (width - digits.length) '0' ++ digits

/-- A decimal without its sign. Positional notation keeps one digit on each side of the point. -/
def DecimalForm.layOut (layout : Layout) (d : DecimalForm) : List Char :=
  if layout.leastPoint ≤ d.point && d.point ≤ layout.greatestPoint then
    if d.point ≤ 0 then
      '0' :: '.' :: List.replicate d.point.natAbs '0' ++ d.digits
    else
      let whole := d.point.natAbs
      let tail := d.digits.drop whole
      d.digits.take whole ++ List.replicate (whole - d.digits.length) '0' ++
        '.' :: (if tail.isEmpty then ['0'] else tail)
  else
    let e := d.point - 1
    let mantissa := match d.digits with
      | [] => ['0']
      | [c] => [c]
      | c :: rest => c :: '.' :: rest
    mantissa ++ 'e' :: (if e < 0 then '-' else '+') ::
      padZeros layout.exponentWidth (Nat.toDigits 10 e.natAbs)

/-- The text of a number in a layout. Zero keeps its sign. -/
def text (layout : Layout) : Binary64 → String
  | .nan => layout.nan
  | .infinity negative => if negative then "-" ++ layout.infinity else layout.infinity
  | .finite negative significand exponent _ =>
    let body := if significand = 0 then ['0', '.', '0']
      else DecimalForm.layOut layout (shortest significand exponent)
    String.ofList (if negative then '-' :: body else body)

/-- The layout of messages: positional from 0.0001 to below 10^16, exponents of two digits or
more. -/
def plainLayout : Layout := ⟨-3, 16, 2, "nan", "inf"⟩

/-- The layout of log lines, which spell out what is not finite. -/
def lineLayout : Layout := ⟨-3, 16, 2, "NaN", "Infinity"⟩

/-- The layout of request bodies: positional from 0.00001 to below 10^16; what is not finite has no
form there. -/
def wireLayout : Layout := ⟨-4, 16, 1, "null", "null"⟩

end Binary64

end ConsumerChannel
