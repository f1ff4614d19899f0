import ConsumerChannel.Proofs.JsonText
import ConsumerChannel.Proofs.Rounding

/-! Whole numbers below 2^53 as floating-point numbers. Each of them has one that is the number itself, whose shortest
text is all its digits with a zero after the point, and a reader of documents takes that text for the same one. -/
namespace ConsumerChannel.Binary64

/-! ## The nearest number -/

section
variable {m den : Nat} {negative : Bool}

theorem roundDiv_mul (q : Nat) (positive : 0 < den) : roundDiv (q * den) den = q := by
  simp [roundDiv, Nat.mul_div_cancel q positive, positive]

/-- The number of binary digits of a product is that of its factors together, or one less. -/
theorem log2_mul_bounds (positive : 0 < m) (divisor : 0 < den) :
    m.log2 + den.log2 ≤ (m * den).log2 ∧ (m * den).log2 < m.log2 + den.log2 + 2 := by
  have product : m * den ≠ 0 := Nat.ne_of_gt (Nat.mul_pos positive divisor)
  rw [Nat.le_log2 product, Nat.log2_lt product]
  constructor
  · rw [pow_add]
    exact Nat.mul_le_mul (Nat.log2_self_le (Nat.ne_of_gt positive)) (Nat.log2_self_le (Nat.ne_of_gt divisor))
  · rw [show m.log2 + den.log2 + 2 = (m.log2 + 1) + (den.log2 + 1) by omega, pow_add]
    exact Nat.mul_lt_mul_of_lt_of_lt Nat.lt_log2_self Nat.lt_log2_self

theorem log2_le (small : m < 2 ^ 53) : m.log2 ≤ 52 := by
  rcases Nat.eq_zero_or_pos m with rfl | positive
  · decide
  · exact Nat.le_of_lt_succ ((Nat.log2_lt (Nat.ne_of_gt positive)).mpr small)

/-- Filled up with zeros on the right, a whole number has 53 binary digits. -/
theorem significand_bounds (positive : 0 < m) (small : m < 2 ^ 53) :
    2 ^ 52 ≤ m * 2 ^ (52 - m.log2) ∧ m * 2 ^ (52 - m.log2) < 2 ^ 53 := by
  have few := log2_le small
  have least : 2 ^ 52 = 2 ^ m.log2 * 2 ^ (52 - m.log2) := by rw [← pow_add, Nat.add_sub_of_le few]
  have most : 2 ^ 53 = 2 ^ (m.log2 + 1) * 2 ^ (52 - m.log2) := by
    rw [← pow_add, show m.log2 + 1 + (52 - m.log2) = 53 by omega]
  rw [least, most]
  exact ⟨Nat.mul_le_mul_right _ (Nat.log2_self_le (Nat.ne_of_gt positive)),
    Nat.mul_lt_mul_of_pos_right Nat.lt_log2_self (Nat.two_pow_pos _)⟩

theorem log2_significand (positive : 0 < m) (small : m < 2 ^ 53) : (m * 2 ^ (52 - m.log2)).log2 = 52 := by
  obtain ⟨least, most⟩ := significand_bounds positive small
  have some : m * 2 ^ (52 - m.log2) ≠ 0 := by omega
  have low := (Nat.le_log2 some).mpr least
  have high := (Nat.log2_lt some).mpr most
  omega

private theorem canonical_whole (positive : 0 < m) (small : m < 2 ^ 53) :
    Canonical (m * 2 ^ (52 - m.log2)) (m.log2 - 52) := by
  have few := log2_le small
  obtain ⟨least, most⟩ := significand_bounds positive small
  exact ⟨most, by omega, by omega, .inl least⟩

/-- A whole number is found with its 53 binary digits, whatever fraction it is given as. -/
theorem ofRatio_mul (positive : 0 < m) (small : m < 2 ^ 53) (divisor : 0 < den) : ofRatio negative (m * den) den =
    .finite negative (m * 2 ^ (52 - m.log2)) (m.log2 - 52) (canonical_whole positive small) := by
  have few := log2_le small
  obtain ⟨least, most⟩ := significand_bounds positive small
  obtain ⟨low, high⟩ := log2_mul_bounds positive divisor
  have product : m * den ≠ 0 := Nat.ne_of_gt (Nat.mul_pos positive divisor)
  have shifted (k : Nat) : m * den * 2 ^ k = m * 2 ^ k * den := by ring
  have guessed : ((m * den).log2 : Int) - den.log2 - 53 = m.log2 - 53 ∨
      ((m * den).log2 : Int) - den.log2 - 53 = m.log2 - 52 := by omega
  have exponent : max (if (if ((m * den).log2 : Int) - den.log2 - 53 ≤ 0
      then m * den * 2 ^ (((m * den).log2 : Int) - den.log2 - 53).natAbs / den
      else m * den / (den * 2 ^ (((m * den).log2 : Int) - den.log2 - 53).natAbs)) < 2 ^ 53
      then ((m * den).log2 : Int) - den.log2 - 53 else ((m * den).log2 : Int) - den.log2 - 53 + 1) (-1074) =
      (m.log2 : Int) - 52 := by
    rcases guessed with same | same
    · have double : m * 2 ^ (53 - m.log2) = 2 * (m * 2 ^ (52 - m.log2)) := by
        rw [show 53 - m.log2 = (52 - m.log2) + 1 by omega, pow_succ]
        ring
      rw [same, if_pos (by omega : (m.log2 : Int) - 53 ≤ 0), show ((m.log2 : Int) - 53).natAbs = 53 - m.log2 by omega,
        shifted, Nat.mul_div_cancel _ divisor, if_neg (by omega)]
      omega
    · rw [same, if_pos (by omega : (m.log2 : Int) - 52 ≤ 0), show ((m.log2 : Int) - 52).natAbs = 52 - m.log2 by omega,
        shifted, Nat.mul_div_cancel _ divisor, if_pos most]
      omega
  have significand : scaledQuotient (m * den) den ((m.log2 : Int) - 52) = m * 2 ^ (52 - m.log2) := by
    rw [scaledQuotient, if_pos (by omega : (m.log2 : Int) - 52 ≤ 0),
      show ((m.log2 : Int) - 52).natAbs = 52 - m.log2 by omega, Nat.pow_eq, shifted, roundDiv_mul _ divisor]
  unfold ofRatio
  simp only [product, ↓reduceIte, Nat.pow_eq, exponent, significand, Nat.ne_of_lt most]
  exact dif_pos (canonical_whole positive small)

/-- A whole number below 2^53 has a nearest number. -/
theorem ofInt?_whole {n : Int} (small : n.natAbs < 2 ^ 53) : ofInt? n = some (ofRatio (n < 0) n.natAbs 1) := by
  rw [ofInt?]
  rcases Nat.eq_zero_or_pos n.natAbs with nothing | positive
  · rw [nothing, ofRatio_zero]
    rfl
  · have nearest := @ofRatio_mul n.natAbs 1 (n < 0) positive small Nat.one_pos
    rw [Nat.mul_one] at nearest
    rw [nearest]

end

/-! ## Digits -/

theorem toDigits_mul_pow {q : Nat} (positive : 0 < q) (k : Nat) :
    Nat.toDigits 10 (q * 10 ^ k) = Nat.toDigits 10 q ++ List.replicate k '0' := by
  induction k with
  | zero => simp
  | succ k ih =>
    have large : 0 < q * 10 ^ k := Nat.mul_pos positive (Nat.pow_pos (by decide))
    have last : Nat.toDigits 10 (q * 10 ^ k * 10) = Nat.toDigits 10 (q * 10 ^ k) ++ ['0'] := by
      rw [Nat.toDigits_eq_if (by decide), if_neg (by omega), Nat.mul_div_cancel _ (by decide), Nat.mul_mod_left]
      rfl
    rw [pow_succ, ← Nat.mul_assoc, last, ih, List.append_assoc, ← List.replicate_succ']

/-- Only zeros are dropped. -/
theorem exists_dropZeros (digits : List Char) : ∃ k, digits = dropZeros digits ++ List.replicate k '0' := by
  have zeros : digits.reverse.takeWhile (· == '0') =
      List.replicate (digits.reverse.takeWhile (· == '0')).length '0' :=
    List.eq_replicate_of_mem fun c among => beq_iff_eq.mp (List.all_eq_true.mp List.all_takeWhile c among)
  refine ⟨(digits.reverse.takeWhile (· == '0')).length, ?_⟩
  rw [dropZeros, ← List.reverse_replicate, ← zeros, ← List.reverse_append, List.takeWhile_append_dropWhile,
    List.reverse_reverse]

theorem pow_digitCount_bounds {m : Nat} (positive : 0 < m) :
    10 ^ (digitCount m - 1) ≤ m ∧ m < 10 ^ digitCount m := by
  have some : 0 < digitCount m := List.length_pos_iff.mpr Nat.toDigits_ne_nil
  constructor
  · rcases Nat.eq_zero_or_pos (digitCount m - 1) with one | more
    · rw [one]
      exact positive
    · rw [← Nat.not_lt, ← Nat.length_toDigits_le_iff (by decide) more]
      exact Nat.not_le.mpr (Nat.sub_lt some Nat.one_pos)
  · exact (Nat.length_toDigits_le_iff (by decide) some).mp (Nat.le_refl _)

/-- A whole number below 2^53 has no more than sixteen digits. -/
theorem digitCount_le {m : Nat} (small : m < 2 ^ 53) : digitCount m ≤ 16 :=
  (Nat.length_toDigits_le_iff (by decide) (by decide)).mpr (Nat.lt_trans small (by decide))

/-! ## The shortest text -/

/-- The least power of ten is found if the guess is not above it and not too far below it. -/
theorem tenPower_eq {num den rounds : Nat} {p least : Int} (low : p ≤ least) (high : least ≤ p + rounds)
    (above : ∀ q : Int, (if 0 ≤ q then num < den * Nat.pow 10 q.natAbs else num * Nat.pow 10 q.natAbs < den) ↔
      least ≤ q) : tenPower num den rounds p = least := by
  induction rounds generalizing p with
  | zero =>
    rw [tenPower]
    omega
  | succ rounds ih =>
    simp only [tenPower, above]
    split
    · omega
    · exact ih (by omega) (by omega)

section
variable {m den low high value x : Nat} {closed : Bool}

/-- What is not within a quarter of a unit of the number is not within the interval. -/
private theorem within_iff (apart : x + 4 ≤ value ∨ x = value ∨ value + 4 ≤ x) (below : low < value)
    (near : value < low + 4)
    (above : value < high) (close : high < value + 4) : within closed low high x 1 = true ↔ x = value := by
  cases closed <;> simp only [within, Nat.mul_one, Bool.false_eq_true, ↓reduceIte, Bool.and_eq_true,
    decide_eq_true_eq] <;> omega

/-- A round of the search ends it exactly if the number is a multiple of the grid step. -/
private theorem searchShortest_round {rounds count : Nat} (wide : 4 ≤ den) (below : low < m * den)
    (near : m * den < low + 4)
    (above : m * den < high) (close : high < m * den + 4) (started : count ≤ digitCount m) :
    searchShortest closed low high (m * den) 1 den (digitCount m) (rounds + 1) count =
      if 10 ^ (digitCount m - count) ∣ m then
        ⟨dropZeros (Nat.toDigits 10 (m / 10 ^ (digitCount m - count))),
          digitCount m + ((digitCount (m / 10 ^ (digitCount m - count)) : Int) - count)⟩
      else searchShortest closed low high (m * den) 1 den (digitCount m) rounds (count + 1) := by
  have step : ((digitCount m : Int) - count).natAbs = digitCount m - count := by omega
  have unit : 0 < 10 ^ (digitCount m - count) := Nat.pow_pos (by decide)
  rw [searchShortest]
  simp only [if_pos (show (0 : Int) ≤ digitCount m - count by omega), step, Nat.pow_eq]
  generalize 10 ^ (digitCount m - count) = grid at unit ⊢
  -- In the units of the search the number is `m * den`, and its neighbours on the grid are so far from it at least.
  have under : m / grid * (den * grid) + den * (m % grid) = m * den := by
    calc m / grid * (den * grid) + den * (m % grid) = (grid * (m / grid) + m % grid) * den := by ring
      _ = m * den := by rw [Nat.div_add_mod]
  have beside : (m / grid + 1) * (den * grid) + den * (m % grid) = m * den + den * grid := by
    rw [Nat.add_mul, Nat.one_mul, Nat.add_right_comm, under]
  have rest : den * (m % grid) + den ≤ den * grid := Nat.mul_le_mul_left den (Nat.mod_lt m unit)
  have multiple : within closed low high (m / grid * (den * grid)) 1 = true ↔ grid ∣ m := by
    have apart : m / grid * (den * grid) + 4 ≤ m * den ∨ m / grid * (den * grid) = m * den ∨
        m * den + 4 ≤ m / grid * (den * grid) := by
      rcases Nat.eq_zero_or_pos (m % grid) with exact | inexact
      · rw [exact] at under
        omega
      · have some : den ≤ den * (m % grid) := Nat.le_mul_of_pos_right den inexact
        omega
    rw [within_iff apart below near above close, Nat.dvd_iff_mod_eq_zero]
    constructor
    · intro same
      exact (Nat.mul_eq_zero.mp (by omega : den * (m % grid) = 0)).resolve_left (by omega)
    · intro exact
      rw [exact] at under
      omega
  have beyond : within closed low high ((m / grid + 1) * (den * grid)) 1 = false := by
    rw [← Bool.not_eq_true, within_iff (.inr (.inr (by omega))) below near above close]
    omega
  have value : m * den * 1 / (den * grid) = m / grid := by
    rw [Nat.mul_one, Nat.mul_comm m den, Nat.mul_div_mul_left _ _ (by omega : 0 < den)]
  simp only [value, beyond, Bool.not_false, Bool.true_or, Bool.and_true, multiple, Bool.false_eq_true, ↓reduceIte]
  rfl

/-- The search ends with all digits of a whole number but for zeros at the end. -/
theorem searchShortest_whole {rounds count : Nat} (positive : 0 < m) (wide : 4 ≤ den) (below : low < m * den)
    (near : m * den < low + 4) (above : m * den < high) (close : high < m * den + 4) (started : count ≤ digitCount m)
    (room : digitCount m < count + rounds) : ∃ digits k,
    searchShortest closed low high (m * den) 1 den (digitCount m) rounds count = ⟨digits, digitCount m⟩ ∧
      Nat.toDigits 10 m = digits ++ List.replicate k '0' := by
  induction rounds generalizing count with
  | zero => omega
  | succ rounds ih =>
    rw [searchShortest_round wide below near above close started]
    split
    · next multiple =>
      obtain ⟨q, grid⟩ := multiple
      have some : 0 < q := Nat.pos_of_ne_zero fun nothing => by simp [nothing] at grid; omega
      have quotient : m / 10 ^ (digitCount m - count) = q :=
        Nat.div_eq_of_eq_mul_right (Nat.pow_pos (by decide)) grid
      have written : Nat.toDigits 10 m = Nat.toDigits 10 q ++ List.replicate (digitCount m - count) '0' := by
        rw [← toDigits_mul_pow some, Nat.mul_comm, ← grid]
      obtain ⟨k, dropped⟩ := exists_dropZeros (Nat.toDigits 10 q)
      have counted : digitCount m = digitCount q + (digitCount m - count) := by
        have length := congrArg List.length written
        rwa [List.length_append, List.length_replicate] at length
      refine ⟨_, k + (digitCount m - count), congrArg _ ?_, ?_⟩
      · rw [quotient]
        omega
      · rw [quotient, written, ← List.replicate_append_replicate, ← List.append_assoc, ← dropped]
    · next other =>
      have more : count ≠ digitCount m := by
        rintro rfl
        rw [Nat.sub_self] at other
        exact other (Nat.one_dvd m)
      exact ih (by omega) (by omega)

/-- The number of decimal digits is guessed from the binary ones, two or three too low. -/
private theorem guess_bounds : ∀ bits < 53, 10 ^ (bits * 30103 / 100000) ≤ 2 ^ bits ∧
    2 ^ (bits + 1) ≤ 10 ^ (bits * 30103 / 100000 + 2) := by decide

theorem digitCount_bounds (positive : 0 < m) (small : m < 2 ^ 53) :
    m.log2 * 30103 / 100000 + 1 ≤ digitCount m ∧ digitCount m ≤ m.log2 * 30103 / 100000 + 2 := by
  obtain ⟨low, high⟩ := guess_bounds m.log2 (Nat.lt_succ_of_le (log2_le small))
  obtain ⟨least, most⟩ := pow_digitCount_bounds positive
  have binary : 2 ^ m.log2 ≤ m := Nat.log2_self_le (Nat.ne_of_gt positive)
  have next : m < 2 ^ (m.log2 + 1) := Nat.lt_log2_self
  have more : 10 ^ (m.log2 * 30103 / 100000) < 10 ^ digitCount m := by omega
  have fewer : 10 ^ (digitCount m - 1) < 10 ^ (m.log2 * 30103 / 100000 + 2) := by omega
  have one : 1 < 10 := by decide
  rw [Nat.pow_lt_pow_iff_right one] at more fewer
  omega

/-- A power of ten is above a whole number exactly if it has a zero for each of its digits. -/
theorem above_iff (positive : 0 < m) (divisor : 0 < den) (q : Int) :
    (if 0 ≤ q then m * den < den * Nat.pow 10 q.natAbs else m * den * Nat.pow 10 q.natAbs < den) ↔
      (digitCount m : Int) ≤ q := by
  split
  · next proper =>
    obtain ⟨k, rfl⟩ := Int.eq_ofNat_of_zero_le proper
    obtain ⟨least, most⟩ := pow_digitCount_bounds positive
    have one : 1 < 10 := by decide
    rw [Int.natAbs_natCast, Nat.mul_comm, Nat.mul_lt_mul_left divisor, Nat.pow_eq, Int.ofNat_le]
    constructor
    · intro above
      have more : 10 ^ (digitCount m - 1) < 10 ^ k := by omega
      rw [Nat.pow_lt_pow_iff_right one] at more
      omega
    · exact fun enough => Nat.lt_of_lt_of_le most (Nat.pow_le_pow_right (by decide) enough)
  · next below =>
    refine iff_of_false (Nat.not_lt.mpr ?_) (by omega)
    calc den ≤ m * den := Nat.le_mul_of_pos_left den positive
      _ ≤ m * den * Nat.pow 10 q.natAbs := Nat.le_mul_of_pos_right _ (Nat.pow_pos (by decide))

theorem quarters (small : m < 2 ^ 53) : 4 * (m * 2 ^ (52 - m.log2)) = m * 2 ^ (54 - m.log2) := by
  have few := log2_le small
  rw [show 54 - m.log2 = (52 - m.log2) + 2 by omega, pow_add]
  ring

theorem four_le_scale (small : m < 2 ^ 53) : 4 ≤ 2 ^ (54 - m.log2) := by
  have few := log2_le small
  calc 4 = 2 ^ 2 := rfl
    _ ≤ 2 ^ (54 - m.log2) := Nat.pow_le_pow_right (by decide) (by omega)

/-- What rounds to a whole number is less than a unit of its last binary digit away, which is four in the search. -/
private theorem exists_roundingGap (positive : 0 < m) (small : m < 2 ^ 53) : ∃ low,
    roundingGap (m * 2 ^ (52 - m.log2)) (m.log2 - 52) = (low, m * 2 ^ (54 - m.log2) + 2) ∧
      low < m * 2 ^ (54 - m.log2) ∧ m * 2 ^ (54 - m.log2) < low + 4 := by
  have some : 4 ≤ m * 2 ^ (54 - m.log2) :=
    Nat.le_trans (four_le_scale small) (Nat.le_mul_of_pos_left _ positive)
  unfold roundingGap
  rw [quarters small]
  split
  · exact ⟨_, rfl, by omega, by omega⟩
  · exact ⟨_, rfl, by omega, by omega⟩

private theorem shortest_whole (positive : 0 < m) (small : m < 2 ^ 53) : ∃ digits k,
    shortest (m * 2 ^ (52 - m.log2)) (m.log2 - 52) = ⟨digits, digitCount m⟩ ∧
      Nat.toDigits 10 m = digits ++ List.replicate k '0' := by
  have few := log2_le small
  have divisor : 0 < 2 ^ (54 - m.log2) := Nat.two_pow_pos _
  have wide : 4 ≤ 2 ^ (54 - m.log2) := four_le_scale small
  have guessed := digitCount_bounds positive small
  have point : tenPower (m * 2 ^ (54 - m.log2)) (2 ^ (54 - m.log2)) 4 ((m.log2 : Int) * 30103 / 100000 - 1) =
      digitCount m := tenPower_eq (by omega) (by omega) (above_iff positive divisor)
  obtain ⟨low, bounds, below, near⟩ := exists_roundingGap positive small
  have exponent : ¬ (0 : Int) ≤ (m.log2 : Int) - 52 - 2 := by omega
  have scale : ((m.log2 : Int) - 52 - 2).natAbs = 54 - m.log2 := by omega
  have binary : ((52 : Nat) : Int) + ((m.log2 : Int) - 52) = m.log2 := by omega
  have short : digitCount m ≤ 16 := digitCount_le small
  unfold shortest
  simp only [exponent, scale, bounds, quarters small, log2_significand positive small, binary, ↓reduceIte, Nat.pow_eq,
    Nat.mul_one, point]
  exact searchShortest_whole positive wide below near (by omega) (by omega)
    (List.length_pos_iff.mpr Nat.toDigits_ne_nil) (by omega)

private theorem layOut_whole {digits : List Char} {k : Nat} (small : m < 2 ^ 53)
    (written : Nat.toDigits 10 m = digits ++ List.replicate k '0') :
    DecimalForm.layOut lineLayout ⟨digits, digitCount m⟩ = Text.decimalText m ++ ['.', '0'] := by
  have short : digitCount m ≤ 16 := digitCount_le small
  have long : 0 < digitCount m := List.length_pos_iff.mpr Nat.toDigits_ne_nil
  have counted : digitCount m = digits.length + k := by
    rw [digitCount, written, List.length_append, List.length_replicate]
  have least : lineLayout.leastPoint = -3 := rfl
  have most : lineLayout.greatestPoint = 16 := rfl
  have placed : (decide (lineLayout.leastPoint ≤ (digitCount m : Int)) &&
      decide ((digitCount m : Int) ≤ lineLayout.greatestPoint)) = true := by
    simp only [least, most, Bool.and_eq_true, decide_eq_true_eq]
    omega
  have some : ¬ (digitCount m : Int) ≤ 0 := by omega
  unfold DecimalForm.layOut
  rw [if_pos placed, if_neg some]
  simp only [Int.natAbs_natCast]
  rw [List.take_of_length_le (by omega), List.drop_of_length_le (by omega), Text.decimalText, written, counted,
    Nat.add_sub_cancel_left]
  rfl

/-- The text of a whole number as a floating-point one: its digits, and a zero after the point. -/
theorem text_ofRatio (small : m < 2 ^ 53) (negative : Bool) : ((ofRatio negative m 1).text lineLayout).toList =
    (if negative then ['-'] else []) ++ Text.decimalText m ++ ['.', '0'] := by
  rcases Nat.eq_zero_or_pos m with rfl | positive
  · cases negative <;> rfl
  · obtain ⟨digits, k, found, written⟩ := shortest_whole positive small
    have some : m * 2 ^ (52 - m.log2) ≠ 0 := Nat.ne_of_gt (Nat.mul_pos positive (Nat.two_pow_pos _))
    have nearest := @ofRatio_mul m 1 negative positive small Nat.one_pos
    rw [Nat.mul_one] at nearest
    rw [nearest, text, if_neg some, found, layOut_whole small written]
    cases negative <;> simp

end

/-! ## Reading the text -/

/-- The digits with a zero after the point stand for the same number. -/
theorem ofDecimal_whole {m : Nat} (small : m < 2 ^ 53) (negative : Bool) :
    ofDecimal negative (m * 10) (-1) = ofRatio negative m 1 := by
  rcases Nat.eq_zero_or_pos m with rfl | positive
  · rfl
  · have some : m * 10 ≠ 0 := by omega
    have long : 0 < digitCount (m * 10) := List.length_pos_iff.mpr Nat.toDigits_ne_nil
    have short : digitCount (m * 10) ≤ 17 :=
      (Nat.length_toDigits_le_iff (by decide) (by decide)).mpr (by omega)
    have one := @ofRatio_mul m 1 negative positive small Nat.one_pos
    rw [Nat.mul_one] at one
    rw [ofDecimal, if_neg some]
    simp only [if_neg (show ¬ 310 < (digitCount (m * 10) : Int) + -1 by omega),
      if_neg (show ¬ (digitCount (m * 10) : Int) + -1 < -330 by omega),
      if_neg (show ¬ (0 : Int) ≤ -1 by decide), one]
    exact ofRatio_mul positive small (by decide)

end ConsumerChannel.Binary64

namespace ConsumerChannel.Json
open Text Numeral

private theorem ofPlainDigits_append_zero (digits : List Char) :
    ofPlainDigits (digits ++ ['0']) = ofPlainDigits digits * 10 := by
  simp [ofPlainDigits, ofDigits]

/-- A whole number below 2^53 as a floating-point one is told by its text. -/
theorem told_whole {n : Int} {limits : Limits} (small : n.natAbs < 2 ^ 53)
    (short : allowed limits.digits (writeInt n).length = true) :
    Told .line limits (.float (Binary64.ofRatio (n < 0) n.natAbs 1)) := by
  have number {negative : Bool}
      (short : allowed limits.digits (writtenLength negative (decimalText n.natAbs).length) = true) :
      Number limits negative (decimalText n.natAbs ++ ['.', '0']) (.float (Binary64.ofRatio negative n.natAbs 1)) := by
    have scaled : Number limits negative (decimalText n.natAbs ++ (['.', '0'] ++ [])) _ :=
      .scaled (wholeDigits_decimalText short) (.point ⟨nofun, List.forall_mem_singleton.mpr rfl⟩) .none rfl
    rwa [ofPlainDigits_append_zero, ofPlainDigits_decimalText, List.length_singleton,
      show (0 : Int) - (1 : Nat) = -1 from rfl, Binary64.ofDecimal_whole small] at scaled
  intro level _
  have written : write .line (.float (Binary64.ofRatio (n < 0) n.natAbs 1)) = _ :=
    Binary64.text_ofRatio small (n < 0)
  rw [written]
  unfold writeInt at short
  by_cases below : n < 0
  · rw [if_pos below] at short
    simp only [below, decide_true, ↓reduceIte]
    exact .atom (.minus (@number true short))
  · rw [if_neg below] at short
    simp only [below, decide_false, Bool.false_eq_true, ↓reduceIte]
    exact .atom (.number (@number false short))

end ConsumerChannel.Json
