import ConsumerChannel.Number.Binary64
import Mathlib.Tactic.Ring

/-! Whole numbers as floating-point numbers. The nearest one has the leading 53 binary digits, rounded; it is beyond
every number exactly if the whole number is not below the middle between the largest finite number and the power of two
after it. -/
namespace ConsumerChannel.Binary64

section
variable {num den k : Nat}

/-- A quotient is rounded down or up. -/
theorem roundDiv_bounds (num den : Nat) : num / den ≤ roundDiv num den ∧ roundDiv num den ≤ num / den + 1 := by
  unfold roundDiv
  dsimp only
  split
  · omega
  · split
    · omega
    · split <;> omega

/-- Just below an even number, a quotient is rounded up from the middle on. -/
private theorem roundDiv_below_even (odd : num / den % 2 = 1) :
    roundDiv num den = num / den + 1 ↔ den ≤ 2 * (num % den) := by
  unfold roundDiv
  dsimp only
  split
  · next below => omega
  · split
    · next above => omega
    · simp only [odd, Nat.one_ne_zero, ↓reduceIte, true_iff]
      omega

/-- A quotient reaches an even number by rounding from half a unit below it on. -/
theorem even_le_roundDiv_iff (positive : 0 < den) (even : k % 2 = 0) (above : 0 < k) :
    k ≤ roundDiv num den ↔ (2 * k - 1) * den ≤ 2 * num := by
  have whole : den * (num / den) + num % den = num := Nat.div_add_mod num den
  have small : num % den < den := Nat.mod_lt num positive
  obtain ⟨low, high⟩ := roundDiv_bounds num den
  -- How the fraction is rounded matters only where the quotient is next to the even number.
  rcases Nat.lt_trichotomy (num / den + 1) k with far | next | reached
  · have room : (2 * (num / den) + 3) * den ≤ (2 * k - 1) * den := Nat.mul_le_mul_right den (by omega)
    have spread : (2 * (num / den) + 3) * den = 2 * (den * (num / den)) + 3 * den := by ring
    omega
  · have half : roundDiv num den = num / den + 1 ↔ den ≤ 2 * (num % den) := roundDiv_below_even (by omega)
    have spread : (2 * k - 1) * den = 2 * (den * (num / den)) + den := by
      rw [← next, show 2 * (num / den + 1) - 1 = 2 * (num / den) + 1 by omega]
      ring
    omega
  · have room : (2 * k - 1) * den ≤ (2 * (num / den)) * den := Nat.mul_le_mul_right den (by omega)
    have spread : (2 * (num / den)) * den = 2 * (den * (num / den)) := by ring
    omega

theorem roundDiv_one (num : Nat) : roundDiv num 1 = num := by
  simp [roundDiv, Nat.mod_one]

/-- The least size of a whole number that is rounded beyond every number: half a unit above the largest one. -/
def overflow : Nat := 2 ^ 1024 - 2 ^ 970

theorem overflow_eq : overflow = 2 ^ 54 * 2 ^ 970 - 2 ^ 970 := by
  rw [overflow, ← pow_add]

theorem overflow_pos : 0 < overflow := by
  have unit := Nat.two_pow_pos 970
  rw [overflow_eq]
  omega

theorem scaledQuotient_of_pos {exponent : Int} (large : 0 < exponent) :
    scaledQuotient num den exponent = roundDiv num (den * 2 ^ exponent.natAbs) :=
  if_neg (Int.not_le.mpr large)

/-- The significand of a whole number at the exponent that goes with its size. -/
theorem scaledQuotient_bounds {m : Nat} (positive : 0 < m) :
    2 ^ 52 ≤ scaledQuotient m 1 (m.log2 - 52) ∧ scaledQuotient m 1 (m.log2 - 52) ≤ 2 ^ 53 := by
  have low : 2 ^ m.log2 ≤ m := Nat.log2_self_le (Nat.ne_of_gt positive)
  have high : m < 2 ^ (m.log2 + 1) := Nat.lt_log2_self
  unfold scaledQuotient
  split
  · next small =>
    obtain ⟨missing, total⟩ : ∃ missing, missing + m.log2 = 52 := ⟨52 - m.log2, by omega⟩
    have places : ((m.log2 : Int) - 52).natAbs = missing := by omega
    rw [places, Nat.pow_eq, roundDiv_one]
    have least : 2 ^ missing * 2 ^ m.log2 = 2 ^ 52 := by rw [← pow_add, total]
    have most : 2 ^ missing * 2 ^ (m.log2 + 1) = 2 ^ 53 := by rw [← pow_add, ← Nat.add_assoc, total]
    have scale : 0 < 2 ^ missing := Nat.two_pow_pos missing
    have lower := Nat.mul_le_mul_left (2 ^ missing) low
    have upper := Nat.mul_lt_mul_of_pos_left high scale
    rw [Nat.mul_comm]
    omega
  · next large =>
    obtain ⟨places, total⟩ : ∃ places, m.log2 = places + 52 := ⟨m.log2 - 52, by omega⟩
    have dropped : ((m.log2 : Int) - 52).natAbs = places := by omega
    rw [dropped, Nat.pow_eq, Nat.one_mul]
    rw [total, pow_add] at low
    rw [total, Nat.add_assoc, pow_add] at high
    have lower : 2 ^ 52 ≤ m / 2 ^ places :=
      (Nat.le_div_iff_mul_le (Nat.two_pow_pos places)).mpr (by rwa [Nat.mul_comm])
    have upper : m / 2 ^ places < 2 ^ 53 := Nat.div_lt_of_lt_mul high
    obtain ⟨down, up⟩ := roundDiv_bounds m (2 ^ places)
    omega

/-- The exponent that goes with the size of a whole number is found without a second try. -/
private theorem ofRatio_whole {m : Nat} (positive : 0 < m) (negative : Bool) :
    ofRatio negative m 1 =
      if scaledQuotient m 1 (m.log2 - 52) = 2 ^ 53 then ofParts negative (2 ^ 52) (m.log2 - 51)
      else ofParts negative (scaledQuotient m 1 (m.log2 - 52)) (m.log2 - 52) := by
  have low : 2 ^ m.log2 ≤ m := Nat.log2_self_le (Nat.ne_of_gt positive)
  have wide : ¬ (if (m.log2 : Int) - 53 ≤ 0 then m * 2 ^ ((m.log2 : Int) - 53).natAbs / 1
      else m / (1 * 2 ^ ((m.log2 : Int) - 53).natAbs)) < 2 ^ 53 := by
    rw [Nat.not_lt]
    split
    · next small =>
      have total : m.log2 + ((m.log2 : Int) - 53).natAbs = 53 := by omega
      rw [Nat.div_one, ← total, pow_add]
      exact Nat.mul_le_mul_right _ low
    · next large =>
      have total : 53 + ((m.log2 : Int) - 53).natAbs = m.log2 := by omega
      rw [Nat.one_mul, Nat.le_div_iff_mul_le (Nat.two_pow_pos _), ← pow_add, total]
      exact low
  have exponent : max ((m.log2 : Int) - 53 + 1) (-1074) = m.log2 - 52 := by omega
  have carried : (m.log2 : Int) - 52 + 1 = m.log2 - 51 := by omega
  have whole : Nat.log2 1 = 0 := by decide
  unfold ofRatio
  simp only [Nat.ne_of_gt positive, ↓reduceIte, whole, Nat.cast_zero, Int.sub_zero, Nat.pow_eq, wide, exponent,
    carried]

private theorem ofParts_eq_infinity_iff {negative : Bool} {significand : Nat} {exponent : Int} :
    (∃ side, ofParts negative significand exponent = .infinity side) ↔ ¬ Canonical significand exponent := by
  unfold ofParts
  split
  · next canonical => simp [canonical]
  · next other => simp [other]

private theorem canonical_iff {significand : Nat} {exponent : Int} (least : 2 ^ 52 ≤ significand)
    (most : significand < 2 ^ 53) (low : -1074 ≤ exponent) : Canonical significand exponent ↔ exponent ≤ 971 :=
  ⟨fun canonical => canonical.2.2.1, fun high => ⟨most, low, high, .inl least⟩⟩

/-- A whole number is rounded beyond every number if it has too many digits, or if rounding gives it one more. -/
private theorem ofRatio_infinite_iff_log2 {m : Nat} (positive : 0 < m) {negative : Bool} :
    (∃ side, ofRatio negative m 1 = .infinity side) ↔
      1024 ≤ m.log2 ∨ m.log2 = 1023 ∧ 2 ^ 53 ≤ scaledQuotient m 1 (m.log2 - 52) := by
  obtain ⟨least, most⟩ := scaledQuotient_bounds positive
  rw [ofRatio_whole positive]
  split
  · rw [ofParts_eq_infinity_iff, canonical_iff (Nat.le_refl _) (by decide) (by omega)]
    omega
  · rw [ofParts_eq_infinity_iff, canonical_iff least (by omega) (by omega)]
    omega

/-- A whole number is rounded beyond every number exactly if it is that large. -/
theorem ofRatio_infinite_iff {m : Nat} (positive : 0 < m) {negative : Bool} :
    (∃ side, ofRatio negative m 1 = .infinity side) ↔ overflow ≤ m := by
  have size {k : Nat} : m.log2 < k ↔ m < 2 ^ k := Nat.log2_lt (Nat.ne_of_gt positive)
  have unit := Nat.two_pow_pos 970
  have double : 2 ^ 971 = 2 * 2 ^ 970 := by rw [← pow_succ']
  have middle : 2 ^ 1023 = 2 ^ 53 * 2 ^ 970 := by rw [← pow_add]
  have top : 2 ^ 1024 = 2 ^ 54 * 2 ^ 970 := by rw [← pow_add]
  -- The threshold has 1024 binary digits, so that only for numbers with as many the rounding decides.
  rw [ofRatio_infinite_iff_log2 positive, overflow_eq]
  rcases Nat.lt_trichotomy m.log2 1023 with small | last | large
  · have within := size.mp small
    omega
  · have places : ((m.log2 : Int) - 52).natAbs = 971 := by omega
    have within := size.mp (show m.log2 < 1024 by omega)
    rw [scaledQuotient_of_pos (by omega), places, Nat.one_mul, double,
      even_le_roundDiv_iff (by omega) (by decide) (by decide)]
    omega
  · have beyond := mt size.mpr (show ¬ m.log2 < 1024 by omega)
    omega

private theorem ofParts_ne_nan {negative : Bool} {significand : Nat} {exponent : Int} :
    ofParts negative significand exponent ≠ .nan := by
  unfold ofParts
  split <;> nofun

theorem ofRatio_ne_nan {negative : Bool} : ofRatio negative num den ≠ .nan := by
  unfold ofRatio
  refine iteInduction (motive := (· ≠ nan)) (fun _ => nofun) fun _ => ?_
  exact iteInduction (motive := (· ≠ nan)) (fun _ => ofParts_ne_nan) fun _ => ofParts_ne_nan

/-- A number that is neither beyond every number nor no number. -/
def IsFinite : Binary64 → Prop
  | finite .. => True
  | _ => False

theorem ofRatio_zero {negative : Bool} : ofRatio negative 0 den = zero negative := rfl

/-- A whole number has no nearest number exactly if it is that large. -/
theorem ofInt?_eq_none_iff {n : Int} : ofInt? n = none ↔ overflow ≤ n.natAbs := by
  have infinite : ofInt? n = none ↔ ∃ side, ofRatio (n < 0) n.natAbs 1 = .infinity side := by
    unfold ofInt?
    split
    · next side beyond => simp [beyond]
    · next within => simpa using within
  rw [infinite]
  rcases Nat.eq_zero_or_pos n.natAbs with nothing | positive
  · rw [nothing, ofRatio_zero]
    exact iff_of_false nofun (Nat.not_le.mpr overflow_pos)
  · exact ofRatio_infinite_iff positive

theorem ofInt?_finite {n : Int} {x : Binary64} (found : ofInt? n = some x) : x.IsFinite := by
  unfold ofInt? at found
  split at found
  · cases found
  · next within =>
    cases found
    generalize nearest : ofRatio (decide (n < 0)) n.natAbs 1 = x at within
    cases x with
    | nan => exact (ofRatio_ne_nan nearest).elim
    | infinity side => exact (within side rfl).elim
    | finite => trivial

end

end ConsumerChannel.Binary64
