import ConsumerChannel.Proofs.Grammar
import ConsumerChannel.Proofs.Readings
import Mathlib.Data.List.Forall2

/-! The shapes of documents. What a document has to look like to stand for a value is said without any reader: which
fields it has, under which names, which of them it may leave out, and what each leaf may be. A reader accepts exactly
the documents of its shape, each as the value that it stands for. -/
namespace ConsumerChannel

/-! ## Trimmed texts -/

namespace Text
variable {drop : Char → Bool}

/-- Trimming takes off what stands around a text. -/
theorem trim_append {before core after : List Char} (around : ∀ c ∈ before ++ after, drop c = true)
    (first : ∀ c ∈ core.head?, drop c = false) (last : ∀ c ∈ core.getLast?, drop c = false) (filled : core ≠ []) :
    trim drop (before ++ core ++ after) = core := by
  have front : trimLeft drop (before ++ core ++ after) = core ++ after := by
    obtain ⟨c, rest, rfl⟩ := List.exists_cons_of_ne_nil filled
    rw [trimLeft, List.append_assoc,
      List.dropWhile_append_of_pos fun c member => around c (List.mem_append_left _ member), List.cons_append,
      List.dropWhile_cons_of_neg (by simp [first c rfl])]
  have back : trimRight drop (core ++ after) = core := by
    obtain ⟨rest, c, rfl⟩ := (List.eq_nil_or_concat core).resolve_left filled
    rw [trimRight, List.reverse_append, List.dropWhile_append_of_pos fun c member =>
        around c (List.mem_append_right _ (List.mem_reverse.mp member)), List.concat_eq_append, List.reverse_append,
      List.reverse_singleton, List.singleton_append,
      List.dropWhile_cons_of_neg (by simp [last c (by simp)])]
    simp
  rw [trim, front, back]

theorem exists_around_trim (drop : Char → Bool) (cs : List Char) :
    ∃ before after, cs = before ++ trim drop cs ++ after ∧ ∀ c ∈ before ++ after, drop c = true := by
  have front : cs = cs.takeWhile drop ++ trimLeft drop cs := List.takeWhile_append_dropWhile.symm
  have back : trimLeft drop cs =
      trim drop cs ++ ((trimLeft drop cs).reverse.takeWhile drop).reverse := by
    rw [trim, trimRight, ← List.reverse_append, List.takeWhile_append_dropWhile, List.reverse_reverse]
  refine ⟨cs.takeWhile drop, ((trimLeft drop cs).reverse.takeWhile drop).reverse, ?_, ?_⟩
  · rw [List.append_assoc, ← back]
    exact front
  · intro c member
    rcases List.mem_append.mp member with early | late
    · exact List.all_eq_true.mp List.all_takeWhile c early
    · exact List.all_eq_true.mp List.all_takeWhile c (List.mem_reverse.mp late)

end Text

/-! ## Whole numbers as texts -/

namespace Numeral
open Text

/-- Blocks of plain digits. -/
def DigitBlocks (blocks : List (List Char)) : Prop :=
  blocks ≠ [] ∧ ∀ block ∈ blocks, block ≠ [] ∧ ∀ c ∈ block, isPlainDigit c = true

private theorem digitRow_append {block : List Char} (digits : ∀ c ∈ block, isPlainDigit c = true) (after : Bool)
    (rest : List Char) :
    digitRow? after (block ++ rest) = (digitRow? (after || !block.isEmpty) rest).map (block ++ ·) := by
  induction block generalizing after with
  | nil => simp
  | cons c block ih =>
    obtain ⟨digit, others⟩ := List.forall_mem_cons.mp digits
    rw [List.cons_append, digitRow?, if_pos digit, ih others]
    simp [Function.comp_def]

/-- Rows of digits are the blocks of digits with an underscore between each two. -/
theorem digitRow_blocks {blocks : List (List Char)} (proper : DigitBlocks blocks) :
    digitRow? false (['_'].intercalate blocks) = some blocks.flatten := by
  obtain ⟨some, each⟩ := proper
  induction blocks with
  | nil => exact absurd rfl some
  | cons block blocks ih =>
    obtain ⟨⟨filled, digits⟩, others⟩ := List.forall_mem_cons.mp each
    have begun : (false || !block.isEmpty) = true := by simp [filled]
    cases blocks with
    | nil =>
      have row := digitRow_append digits false []
      rw [begun] at row
      simpa [List.intercalate, digitRow?] using row
    | cons next blocks =>
      have mark : digitRow? true ('_' :: ['_'].intercalate (next :: blocks)) =
          Option.some (next :: blocks).flatten := by
        rw [← ih (List.cons_ne_nil _ _) others]
        rfl
      rw [List.intercalate_cons_cons, List.append_assoc, digitRow_append digits, begun, List.singleton_append, mark]
      rfl

/-- A row of digits goes on with the rest of a block, and then with blocks that each follow an underscore. -/
private theorem exists_blocks_of_digitRow {after : Bool} {row digits : List Char}
    (read : digitRow? after row = some digits) :
    ∃ block blocks, row = ['_'].intercalate (block :: blocks) ∧ digits = (block :: blocks).flatten ∧
      (∀ c ∈ block, isPlainDigit c = true) ∧ (after = false → block ≠ []) ∧
      ∀ other ∈ blocks, other ≠ [] ∧ ∀ c ∈ other, isPlainDigit c = true := by
  induction row generalizing after digits with
  | nil =>
    cases after with
    | false => cases read
    | true =>
      cases read
      exact ⟨[], [], rfl, rfl, List.forall_mem_nil _, nofun, List.forall_mem_nil _⟩
  | cons c row ih =>
    unfold digitRow? at read
    split at read
    · next digit =>
      obtain ⟨rest, onward, rfl⟩ := Option.map_eq_some_iff.mp read
      obtain ⟨block, blocks, rfl, rfl, plain, -, others⟩ := ih onward
      refine ⟨c :: block, blocks, ?_, rfl, List.forall_mem_cons.mpr ⟨digit, plain⟩, fun _ => List.cons_ne_nil _ _,
        others⟩
      cases blocks <;> rfl
    · split at read
      · next mark =>
        obtain ⟨same, rfl⟩ : c = '_' ∧ after = true := by simpa using mark
        obtain ⟨block, blocks, rfl, rfl, plain, filled, others⟩ := ih read
        refine ⟨[], block :: blocks, ?_, rfl, List.forall_mem_nil _, nofun,
          List.forall_mem_cons.mpr ⟨⟨filled rfl, plain⟩, others⟩⟩
        rw [same]
        rfl
      · cases read

theorem digitRow_eq_some {row digits : List Char} :
    digitRow? false row = some digits ↔
      ∃ blocks, DigitBlocks blocks ∧ row = ['_'].intercalate blocks ∧ digits = blocks.flatten := by
  constructor
  · intro read
    obtain ⟨block, blocks, rfl, rfl, plain, filled, others⟩ := exists_blocks_of_digitRow read
    exact ⟨_, ⟨List.cons_ne_nil _ _, List.forall_mem_cons.mpr ⟨⟨filled rfl, plain⟩, others⟩⟩, rfl, rfl⟩
  · rintro ⟨blocks, proper, rfl, rfl⟩
    exact digitRow_blocks proper

/-- What may follow the digits of a whole number: nothing, or a point and zeros. -/
def NoFraction (tail : List Char) : Prop :=
  tail = [] ∨ ∃ zeros, zeros ≠ [] ∧ (∀ c ∈ zeros, c = '0') ∧ tail = '.' :: zeros

/-- A text writes a whole number: between white space, perhaps a sign, digits in blocks, and perhaps a fraction of
zeros. There is a limit to the digits, among which a minus counts. -/
def Writes (s : String) (n : Int) : Prop :=
  ∃ before sign negative blocks tail after, s.toList = before ++ (sign ++ ['_'].intercalate blocks ++ tail) ++ after ∧
    (∀ c ∈ before ++ after, isSpace c = true) ∧ SignMark sign negative ∧ DigitBlocks blocks ∧ NoFraction tail ∧
    writtenLength negative blocks.flatten.length ≤ digitLimit ∧ n = signed negative (ofPlainDigits blocks.flatten)

/-! ### Reading them -/

section
variable {s row tail core sign digits : List Char} {blocks : List (List Char)} {negative : Bool} {c : Char}

theorem not_isSpace_digit (digit : isPlainDigit c = true) : isSpace c = false := by
  have bounds : 0x30 ≤ c.toNat ∧ c.toNat ≤ 0x39 := by
    simpa [isPlainDigit, Char.le_def, UInt32.le_iff_toNat_le] using digit
  simp only [isSpace]
  grind

theorem forall_blocks (proper : DigitBlocks blocks) :
    ∀ c ∈ ['_'].intercalate blocks, isPlainDigit c = true ∨ c = '_' := by
  obtain ⟨some, each⟩ := proper
  induction blocks with
  | nil => exact absurd rfl some
  | cons block blocks ih =>
    obtain ⟨⟨-, digits⟩, others⟩ := List.forall_mem_cons.mp each
    cases blocks with
    | nil =>
      rw [List.intercalate_singleton]
      exact fun c member => .inl (digits c member)
    | cons next blocks =>
      rw [List.intercalate_cons_cons]
      intro c member
      rcases List.mem_append.mp member with early | late
      · rcases List.mem_append.mp early with digit | mark
        · exact .inl (digits c digit)
        · exact .inr (List.mem_singleton.mp mark)
      · exact ih (List.cons_ne_nil _ _) others c late

/-- Digits in blocks begin with a digit. -/
theorem head_blocks (proper : DigitBlocks blocks) :
    ∃ c rest, ['_'].intercalate blocks = c :: rest ∧ isPlainDigit c = true := by
  obtain ⟨some, each⟩ := proper
  obtain ⟨block, others, rfl⟩ := List.exists_cons_of_ne_nil some
  obtain ⟨filled, digits⟩ := each block (.head _)
  obtain ⟨c, rest, rfl⟩ := List.exists_cons_of_ne_nil filled
  have digit := digits c (.head _)
  cases others with
  | nil => exact ⟨c, rest, List.intercalate_singleton, digit⟩
  | cons next others => exact ⟨c, _, List.intercalate_cons_cons, digit⟩

/-- Digits in blocks end with a digit. -/
private theorem last_blocks (proper : DigitBlocks blocks) :
    ∃ front c, ['_'].intercalate blocks = front ++ [c] ∧ isPlainDigit c = true := by
  obtain ⟨some, each⟩ := proper
  induction blocks with
  | nil => exact absurd rfl some
  | cons block blocks ih =>
    obtain ⟨⟨filled, digits⟩, others⟩ := List.forall_mem_cons.mp each
    cases blocks with
    | nil =>
      obtain ⟨front, c, rfl⟩ := (List.eq_nil_or_concat block).resolve_left filled
      rw [List.intercalate_singleton]
      exact ⟨front, c, List.concat_eq_append, digits c (by simp)⟩
    | cons next blocks =>
      obtain ⟨front, c, ends, digit⟩ := ih (List.cons_ne_nil _ _) others
      rw [List.intercalate_cons_cons, ends]
      exact ⟨block ++ ['_'] ++ front, c, (List.append_assoc ..).symm, digit⟩

/-- What follows the digits of a whole number ends with a character that is no white space, if there is any. -/
theorem NoFraction.last (plain : NoFraction tail) : ∀ c ∈ tail.getLast?, c = '0' := by
  rcases plain with rfl | ⟨zeros, some, each, rfl⟩
  · exact nofun
  · obtain ⟨front, c, rfl⟩ := (List.eq_nil_or_concat zeros).resolve_left some
    intro last same
    have found : c = last := by simpa [List.getLast?_cons] using same
    exact found ▸ each c (by simp)

/-- A whole number is written without white space at its ends. -/
private theorem trim_writing {before after : List Char} (around : ∀ c ∈ before ++ after, isSpace c = true)
    (mark : SignMark sign negative) (proper : DigitBlocks blocks) (plain : NoFraction tail) :
    trim isSpace (before ++ (sign ++ ['_'].intercalate blocks ++ tail) ++ after) =
      sign ++ ['_'].intercalate blocks ++ tail := by
  obtain ⟨first, rest, begins, digit⟩ := head_blocks proper
  obtain ⟨front, last, ends, final⟩ := last_blocks proper
  refine trim_append around ?_ ?_ (by simp [begins])
  · rw [begins]
    cases mark with
    | none => simp [not_isSpace_digit digit]
    | plus => simp [show isSpace '+' = false from rfl]
    | minus => simp [show isSpace '-' = false from rfl]
  · intro c same
    rw [List.getLast?_append] at same
    cases tailed : tail.getLast? with
    | none =>
      have found : last = c := by simpa [tailed, ends, List.getLast?_append] using same
      exact found ▸ not_isSpace_digit final
    | some zero =>
      have found : zero = c := by simpa [tailed] using same
      rw [← found, plain.last zero tailed]
      rfl

end

end Numeral

namespace Schema
open Numeral Text

/-- The digits of a whole number are found before what follows them. -/
private theorem wholeDigits_eq_some {cs digits : List Char} : wholeDigits? cs = some digits ↔
    ∃ blocks tail, cs = ['_'].intercalate blocks ++ tail ∧ DigitBlocks blocks ∧ NoFraction tail ∧
      digits = blocks.flatten := by
  constructor
  · intro read
    have apart : cs = cs.takeWhile (· != '.') ++ cs.dropWhile (· != '.') := List.takeWhile_append_dropWhile.symm
    unfold wholeDigits? at read
    split at read
    · next none =>
      obtain ⟨blocks, proper, row, flat⟩ := digitRow_eq_some.mp read
      exact ⟨blocks, [], by rw [← row, ← none]; exact apart, proper, .inl rfl, flat⟩
    · next c zeros some =>
      split at read
      · next zero =>
        obtain ⟨filled, each⟩ : zeros ≠ [] ∧ ∀ c ∈ zeros, c = '0' := by simpa using zero
        obtain ⟨blocks, proper, row, flat⟩ := digitRow_eq_some.mp read
        have point : c = '.' := by
          have head := List.head?_dropWhile_not (· != '.') cs
          rw [some] at head
          simpa using head
        refine ⟨blocks, '.' :: zeros, ?_, proper, .inr ⟨zeros, filled, each, rfl⟩, flat⟩
        rw [← row, ← point, ← some, point]
        exact apart
      · cases read
  · rintro ⟨blocks, tail, rfl, proper, plain, rfl⟩
    have pointless : ∀ c ∈ ['_'].intercalate blocks, (c != '.') = true := by
      intro c member
      rcases forall_blocks proper c member with digit | rfl
      · refine bne_iff_ne.mpr ?_
        rintro rfl
        cases digit
      · rfl
    unfold wholeDigits?
    rw [List.takeWhile_append_of_pos pointless, List.dropWhile_append_of_pos pointless]
    rcases plain with rfl | ⟨zeros, some, each, rfl⟩
    · simpa using digitRow_blocks proper
    · have zero : (!zeros.isEmpty && zeros.all (· == '0')) = true := by simpa using ⟨some, each⟩
      simpa [zero] using digitRow_blocks proper

/-- A text is read as a whole number just if it writes it. -/
theorem integerText_eq_ok {s : String} {n : Int} : integerText s = .ok n ↔ Writes s n := by
  constructor
  · intro read
    obtain ⟨before, after, whole, around⟩ := exists_around_trim isSpace s.toList
    obtain ⟨sign, signed, mark⟩ := exists_sign (trim isSpace s.toList)
    simp only [integerText] at read
    split at read
    · cases read
    · next digits found =>
      obtain ⟨blocks, tail, body, proper, plain, rfl⟩ := wholeDigits_eq_some.mp found
      split at read
      · cases read
      · next short =>
        cases read
        refine ⟨before, sign, _, blocks, tail, after, ?_, around, mark, proper, plain, Nat.le_of_not_lt short, rfl⟩
        rw [List.append_assoc sign, ← body, ← signed]
        exact whole
  · rintro ⟨before, sign, negative, blocks, tail, after, whole, around, mark, proper, plain, short, rfl⟩
    obtain ⟨first, rest, begins, digit⟩ := head_blocks proper
    have parts : takeSign (trim isSpace s.toList) = (negative, ['_'].intercalate blocks ++ tail) := by
      rw [whole, trim_writing around mark proper plain, List.append_assoc, begins]
      exact takeSign_append mark digit _
    have found : wholeDigits? (['_'].intercalate blocks ++ tail) = some blocks.flatten :=
      wholeDigits_eq_some.mpr ⟨blocks, tail, rfl, proper, plain, rfl⟩
    unfold integerText
    simp only [parts, found, if_neg (Nat.not_lt.mpr short)]

end Schema

/-! ## Shapes -/

/-- Which documents stand for which values. -/
abbrev Shape (α : Type) := Json → α → Prop

namespace Shape

/-- A text. -/
def text : Shape String := fun d s => d = .text s

/-- A text that is not empty. -/
def filledText : Shape String := fun d s => d = .text s ∧ s ≠ ""

/-- A whole number: written as one, as a truth value, as a number of 64 bits that has no fraction, or as a text. -/
inductive whole : Shape Int where
  | number (n : Int) : whole (.int n) n
  | truth (b : Bool) : whole (.bool b) (if b then 1 else 0)
  | real {n : Int} {den : Nat} (exact : x.toRatio? = some (n * den, den)) (small : n.natAbs < Nat.pow 2 63) :
      whole (.float x) n
  | written (writes : Numeral.Writes s n) : whole (.text s) n

/-- Items of one shape, in order. -/
def items (shape : Shape α) : Shape (List α) := fun d xs =>
  ∃ members, d = .array members ∧ List.Forall₂ shape members xs

/-- Nothing, or a document of a shape. -/
def orNull (shape : Shape α) : Shape (Option α) := fun d found =>
  d = .null ∧ found = none ∨ d ≠ .null ∧ ∃ a, found = some a ∧ shape d a

/-- An object, whatever its fields are. -/
def entries : Shape (List (String × Json)) := fun d fields => d = .object fields

/-- An object whose fields are as stated. -/
def object (content : List (String × Json) → α → Prop) : Shape α := fun d a =>
  ∃ fields, d = .object fields ∧ content fields a

/-- The fields have a document under one of two names. If both are there, it is the one under the first. -/
def Under (names : String × String) (fields : List (String × Json)) (d : Json) : Prop :=
  Json.lookup? fields names.1 = some d ∨ Json.lookup? fields names.1 = none ∧ Json.lookup? fields names.2 = some d

/-- Neither of two names is among the fields. -/
def Lacks (names : String × String) (fields : List (String × Json)) : Prop :=
  Json.lookup? fields names.1 = none ∧ Json.lookup? fields names.2 = none

/-- A field that has to be there. -/
def field (names : String × String) (shape : Shape α) (fields : List (String × Json)) (a : α) : Prop :=
  ∃ d, Under names fields d ∧ shape d a

/-- A field that may be left out. -/
def fieldOr (names : String × String) (default : α) (shape : Shape α) (fields : List (String × Json)) (a : α) : Prop :=
  field names shape fields a ∨ Lacks names fields ∧ a = default

open ConsumedRecord (sameName)

/-- A created consumer, whose name is not empty. -/
def identity : Shape CreatedConsumer := object fun fields created =>
  field ("consumerInstanceId", "consumer_instance_id") filledText fields created.id

/-- The topics of a consumer. -/
def topics : Shape (List String) := items text

/-- Where a record came from. -/
def routing : Shape (String × Option String) := object fun fields origin =>
  field (sameName "topic") text fields origin.1 ∧
    fieldOr ("shardingKey", "sharding_key") none (orNull text) fields origin.2

/-- What a record says. -/
def message : Shape (List (String × Json) × String) := object fun fields said =>
  fieldOr (sameName "headers") [] entries fields said.1 ∧ fieldOr (sameName "payload") "" text fields said.2

/-- A record. -/
def record : Shape ConsumedRecord := object fun fields r =>
  field ("routingData", "routing_data") routing fields (r.topic, r.shardingKey) ∧
    fieldOr (sameName "message") ([], "") message fields (r.headers, r.payload) ∧
    field (sameName "partition") whole fields r.partition ∧ field (sameName "offset") whole fields r.offset

/-- A batch of records. -/
def batch : Shape Batch := object fun fields b => fieldOr (sameName "records") [] (items record) fields b.records

/-! ## What readers accept -/

/-- A reader reads exactly the documents of a shape, each as what it stands for. -/
def ReadBy (shape : Shape α) (reader : Json → Checked α) : Prop := ∀ d a, reader d = .ok a ↔ shape d a

section
variable {shape : Shape α} {reader : Json → Checked α} {names : String × String} {fields : List (String × Json)}

theorem text_readBy : text.ReadBy Schema.string := by
  intro d s
  cases d with
  | text t => simp [Schema.string, text]
  | _ => simp [Schema.string, text, Checked.refuse]

theorem filledText_readBy : filledText.ReadBy Schema.filledString := by
  intro d s
  constructor
  · intro read
    cases d with
    | text t =>
      have filled : t ≠ "" := by
        rintro rfl
        cases read
      rw [Schema.filledString_text filled] at read
      cases read
      exact ⟨rfl, filled⟩
    | _ => cases read
  · rintro ⟨rfl, filled⟩
    exact Schema.filledString_text filled

private theorem signed_mul (negative : Bool) (k den : Nat) :
    Numeral.signed negative (k * den) = Numeral.signed negative k * den := by
  cases negative
  · exact Int.natCast_mul k den
  · show -((k * den : Nat) : Int) = -(k : Int) * den
    rw [Int.natCast_mul, Int.neg_mul]

/-- A fraction is a whole number just if nothing is left over by its division. -/
private theorem signed_eq_mul (negative : Bool) {num den : Nat} (positive : 0 < den) (n : Int) :
    Numeral.signed negative num = n * den ↔ num % den = 0 ∧ n = Numeral.signed negative (num / den) := by
  have nonzero : (den : Int) ≠ 0 := by omega
  constructor
  · intro exact
    have size : num = n.natAbs * den := by
      have sizes := congrArg Int.natAbs exact
      rwa [Int.natAbs_mul, Int.natAbs_natCast, Numeral.signed, apply_ite Int.natAbs, Int.natAbs_neg, Int.natAbs_natCast,
        ite_self] at sizes
    have same : Numeral.signed negative n.natAbs = n := by
      rw [size, signed_mul] at exact
      exact Int.eq_of_mul_eq_mul_right nonzero exact
    rw [size, Nat.mul_mod_left, Nat.mul_div_cancel _ positive, same]
    exact ⟨rfl, rfl⟩
  · rintro ⟨whole, rfl⟩
    rw [← signed_mul, Nat.div_mul_cancel (Nat.dvd_of_mod_eq_zero whole)]

/-- A number of 64 bits is read as a whole number just if it is one that is not too large. -/
private theorem integer_float {x : Binary64} {n : Int} : Schema.integer (.float x) = .ok n ↔
    n.natAbs < Nat.pow 2 63 ∧ ∃ den : Nat, x.toRatio? = some (n * den, den) := by
  cases x with
  | nan => simp [Schema.integer, Binary64.truncate?, Binary64.toRatio?, Checked.refuse]
  | infinity negative => simp [Schema.integer, Binary64.truncate?, Binary64.toRatio?, Checked.refuse]
  | finite negative significand exponent canonical =>
    -- Whatever the exponent, the number is a fraction, and its parts say whether it is whole.
    generalize number : Binary64.finite negative significand exponent canonical = x
    obtain ⟨num, den, positive, ratio, truncated, integral⟩ : ∃ num den : Nat, 0 < den ∧
        x.toRatio? = some (Numeral.signed negative num, den) ∧
        x.truncate? = some (Numeral.signed negative (num / den)) ∧ x.isIntegral = (num % den == 0) := by
      subst number
      by_cases large : 0 ≤ exponent
      · exact ⟨significand * Nat.pow 2 exponent.natAbs, 1, Nat.one_pos,
          by simp [Binary64.toRatio?, large, Numeral.signed], by simp [Binary64.truncate?, large, Numeral.signed],
          by simp [Binary64.isIntegral, large, Nat.mod_one]⟩
      · exact ⟨significand, Nat.pow 2 exponent.natAbs, Nat.two_pow_pos _,
          by simp [Binary64.toRatio?, large, Numeral.signed], by simp [Binary64.truncate?, large, Numeral.signed],
          by simp [Binary64.isIntegral, large]⟩
    have exact (den' : Nat) : some (Numeral.signed negative num, den) = some (n * den', den') ↔
        den' = den ∧ num % den = 0 ∧ n = Numeral.signed negative (num / den) := by
      rw [Option.some.injEq, Prod.mk.injEq, and_comm, eq_comm]
      exact and_congr_right fun same => by rw [same, signed_eq_mul negative positive]
    simp only [Schema.integer, truncated, integral, ratio, exact, exists_eq_left, Bool.not_eq_true',
      beq_eq_false_iff_ne]
    by_cases whole : num % den = 0
    · simp only [whole, ne_eq, not_true_eq_false, ↓reduceIte, true_and]
      constructor
      · intro read
        split at read
        · next small =>
          cases read
          exact ⟨small, rfl⟩
        · cases read
      · rintro ⟨small, rfl⟩
        rw [if_pos small]
    · simp [whole, Checked.refuse]

theorem whole_readBy : whole.ReadBy Schema.integer := by
  intro d n
  cases d with
  | int k =>
    constructor
    · rintro ⟨⟩
      exact .number _
    · rintro ⟨⟩
      rfl
  | bool b =>
    constructor
    · rintro ⟨⟩
      exact .truth _
    · rintro ⟨⟩
      rfl
  | float x =>
    rw [integer_float]
    constructor
    · rintro ⟨small, den, exact⟩
      exact .real exact small
    · rintro (_ | _ | ⟨exact, small⟩)
      exact ⟨small, _, exact⟩
  | text s =>
    constructor
    · exact fun read => .written (Schema.integerText_eq_ok.mp read)
    · rintro (_ | _ | _ | writes)
      exact Schema.integerText_eq_ok.mpr writes
  | _ => exact ⟨nofun, nofun⟩

private theorem row_eq_ok_iff (read : shape.ReadBy reader) {members : List Json} {index : Int} {xs : List α} :
    Checked.row index (members.map reader) = .ok xs ↔ List.Forall₂ shape members xs := by
  constructor
  · intro row
    have same := Checked.row_eq_ok row
    clear row
    induction members generalizing xs with
    | nil =>
      cases xs with
      | nil => exact .nil
      | cons x xs => cases same
    | cons d members ih =>
      cases xs with
      | nil => cases same
      | cons x xs =>
        obtain ⟨head, tail⟩ := List.cons.inj same
        exact .cons ((read d x).mp head) (ih tail)
  · intro shaped
    have same : members.map reader = xs.map .ok := by
      induction shaped with
      | nil => rfl
      | cons head tail ih => rw [List.map_cons, List.map_cons, ih, (read _ _).mpr head]
    rw [same, Checked.row_ok]

theorem items_readBy (read : shape.ReadBy reader) : (items shape).ReadBy (Schema.list reader) := by
  intro d xs
  constructor
  · intro listed
    cases d with
    | array members => exact ⟨members, rfl, (row_eq_ok_iff read).mp listed⟩
    | _ => cases listed
  · rintro ⟨members, rfl, shaped⟩
    exact (row_eq_ok_iff read).mpr shaped

theorem orNull_readBy (read : shape.ReadBy reader) : (orNull shape).ReadBy (Schema.nullable reader) := by
  intro d found
  unfold Schema.nullable orNull
  split
  · simp [eq_comm]
  · next other =>
    rw [map_eq_ok_iff]
    constructor
    · rintro ⟨a, known, rfl⟩
      exact .inr ⟨other, a, rfl, (read d a).mp known⟩
    · rintro (⟨same, -⟩ | ⟨-, a, rfl, known⟩)
      · exact absurd same other
      · exact ⟨a, (read d a).mpr known, rfl⟩

theorem entries_readBy : entries.ReadBy Schema.dictionary := by
  intro d fields
  constructor
  · exact Schema.dictionary_eq_ok
  · rintro rfl
    rfl

/-! ### Fields and objects -/

/-- Readers of fields read exactly the fields with a content, each as what it stands for. -/
def ContentReadBy (content : List (String × Json) → α → Prop) (reader : List (String × Json) → Checked α) : Prop :=
  ∀ fields a, reader fields = .ok a ↔ content fields a

/-- A field is read from the document under its names, or left out. -/
theorem field_eq_ok_iff {absent : Checked α} {a : α} : Schema.field names absent reader fields = .ok a ↔
    (∃ d, Under names fields d ∧ reader d = .ok a) ∨ Lacks names fields ∧ absent = .ok a := by
  unfold Schema.field
  rw [Checked.below_eq_ok_iff]
  cases first : Json.lookup? fields names.1 with
  | some d => simp [Under, Lacks, first]
  | none =>
    cases second : Json.lookup? fields names.2 with
    | some d => simp [Under, Lacks, first, second]
    | none => simp [Under, Lacks, first, second]

theorem field_readBy (read : shape.ReadBy reader) (names : String × String) :
    ContentReadBy (field names shape) (Schema.required names reader) := by
  intro fields a
  unfold Schema.required field
  simp [field_eq_ok_iff, read _ a, Checked.refuse]

theorem fieldOr_readBy (read : shape.ReadBy reader) (names : String × String) (default : α) :
    ContentReadBy (fieldOr names default shape) (Schema.optional names default reader) := by
  intro fields a
  unfold Schema.optional fieldOr field
  rw [field_eq_ok_iff]
  simp only [read _ a, Except.ok.injEq, eq_comm]

theorem object_readBy {content : List (String × Json) → α → Prop} {reader : List (String × Json) → Checked α}
    (read : ContentReadBy content reader) : (object content).ReadBy (Schema.object reader) := by
  intro d a
  constructor
  · intro found
    obtain ⟨fields, rfl, known⟩ := Schema.object_eq_ok found
    exact ⟨fields, rfl, (read fields a).mp known⟩
  · rintro ⟨fields, rfl, known⟩
    exact (read fields a).mpr known

/-- Two contents side by side. -/
theorem contentReadBy_join {first : List (String × Json) → α → Prop} {second : List (String × Json) → β → Prop}
    {readFirst : List (String × Json) → Checked α} {readSecond : List (String × Json) → Checked β}
    (one : ContentReadBy first readFirst) (two : ContentReadBy second readSecond) :
    ContentReadBy (fun fields pair => first fields pair.1 ∧ second fields pair.2)
      (fun fields => Checked.join Prod.mk (readFirst fields) (readSecond fields)) := by
  rintro fields ⟨a, b⟩
  rw [Checked.join_eq_ok_iff]
  constructor
  · rintro ⟨x, y, read, further, ⟨⟩⟩
    exact ⟨(one fields _).mp read, (two fields _).mp further⟩
  · rintro ⟨known, more⟩
    exact ⟨a, b, (one fields a).mpr known, (two fields b).mpr more, rfl⟩

/-! ### Answers -/

theorem routing_readBy : routing.ReadBy ConsumedRecord.readRouting :=
  object_readBy (contentReadBy_join (field_readBy text_readBy _) (fieldOr_readBy (orNull_readBy text_readBy) _ _))

theorem message_readBy : message.ReadBy ConsumedRecord.readMessage :=
  object_readBy (contentReadBy_join (fieldOr_readBy entries_readBy _ _) (fieldOr_readBy text_readBy _ _))

theorem record_readBy : record.ReadBy ConsumedRecord.read := by
  refine object_readBy fun fields r => ?_
  have origin := contentReadBy_join (field_readBy routing_readBy ("routingData", "routing_data"))
    (fieldOr_readBy message_readBy (sameName "message") ([], ""))
  have place := contentReadBy_join (field_readBy whole_readBy (sameName "partition"))
    (field_readBy whole_readBy (sameName "offset"))
  rw [Checked.join_eq_ok_iff]
  constructor
  · rintro ⟨x, y, first, second, rfl⟩
    obtain ⟨route, said⟩ := (origin fields x).mp first
    exact ⟨route, said, (place fields y).mp second⟩
  · rintro ⟨route, said, partition, offset⟩
    exact ⟨_, _, (origin fields ((r.topic, r.shardingKey), (r.headers, r.payload))).mpr ⟨route, said⟩,
      (place fields (r.partition, r.offset)).mpr ⟨partition, offset⟩, rfl⟩

theorem batch_readBy : batch.ReadBy Batch.read := by
  refine object_readBy fun fields b => ?_
  have records := fieldOr_readBy (items_readBy record_readBy) (sameName "records") []
  rw [map_eq_ok_iff]
  constructor
  · rintro ⟨members, read, rfl⟩
    exact (records fields members).mp read
  · exact fun known => ⟨b.records, (records fields b.records).mpr known, rfl⟩

theorem identity_readBy : identity.ReadBy CreatedConsumer.read := by
  refine object_readBy fun fields created => ?_
  have named := field_readBy filledText_readBy CreatedConsumer.idNames
  rw [map_eq_ok_iff]
  constructor
  · rintro ⟨id, read, rfl⟩
    exact (named fields id).mp read
  · exact fun known => ⟨created.id, (named fields created.id).mpr known, rfl⟩

theorem topics_readBy : topics.ReadBy (Schema.list Schema.string) := items_readBy text_readBy

end

/-- A text says a value: it writes a document of a shape, within the limits of the service's answers. -/
def SaidBy (shape : Shape α) (text : String) (a : α) : Prop := ∃ d, Json.Writes .service text d ∧ shape d a

/-- What is read from a text is what the text says. -/
theorem ReadBy.ofText {shape : Shape α} {reader : Json → Checked α} (read : shape.ReadBy reader) {text : String}
    {a : α} : Batch.readText reader text = .ok a ↔ shape.SaidBy text a := by
  simp only [SaidBy, ← Json.parse?_eq_some]
  unfold Batch.readText
  cases Json.parse? .service text with
  | none => simp [Checked.refuse]
  | some d => simp [read d a]

end Shape

end ConsumerChannel
