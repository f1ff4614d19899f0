import ConsumerChannel.Json.Reader

/-! The grammar of documents. Which text writes which document is said without any reader: how a string spells its
characters, what a number is made of, and what stands between brackets. A reader accepts exactly the texts that write a
document within its limits, each as the document that it writes. -/
namespace ConsumerChannel

/-! ## Numbers -/

namespace Numeral
open Text

/-- What may stand before the digits of a whole number, and whether it makes the number negative. -/
inductive SignMark : List Char → Bool → Prop where
  | none : SignMark [] false
  | plus : SignMark ['+'] false
  | minus : SignMark ['-'] true

/-- Digits, and one at least. -/
def Digits (digits : List Char) : Prop := digits ≠ [] ∧ ∀ c ∈ digits, isPlainDigit c = true

/-- A sign is told from the digits after it. -/
theorem takeSign_append {sign : List Char} {negative : Bool} {c : Char} (mark : SignMark sign negative)
    (digit : isPlainDigit c = true) (rest : List Char) : takeSign (sign ++ c :: rest) = (negative, c :: rest) := by
  cases mark with
  | none =>
    unfold takeSign
    split
    · next same =>
      cases same
      cases digit
    · next same =>
      cases same
      cases digit
    · rfl
  | plus => rfl
  | minus => rfl

theorem exists_sign (cs : List Char) : ∃ sign, cs = sign ++ (takeSign cs).2 ∧ SignMark sign (takeSign cs).1 := by
  unfold takeSign
  split
  · exact ⟨_, rfl, .minus⟩
  · exact ⟨_, rfl, .plus⟩
  · exact ⟨_, rfl, .none⟩

theorem Digits.exists_cons {digits : List Char} (proper : Digits digits) :
    ∃ c cs, digits = c :: cs ∧ isPlainDigit c = true := by
  obtain ⟨c, cs, rfl⟩ := List.exists_cons_of_ne_nil proper.1
  exact ⟨c, cs, rfl, proper.2 c (.head _)⟩

theorem exists_digits (s : List Char) :
    s = (spanDigits s).1 ++ (spanDigits s).2 ∧ ∀ c ∈ (spanDigits s).1, isPlainDigit c = true :=
  ⟨List.takeWhile_append_dropWhile.symm, List.all_eq_true.mp List.all_takeWhile⟩

end Numeral

namespace Json
open Text Numeral

/-- The digits before the point of a number: not too many with the minus, and a zero only if it is the only one. -/
structure WholeDigits (limits : Limits) (negative : Bool) (whole : List Char) : Prop where
  digits : Digits whole
  front : whole.head? = some '0' → whole.length = 1
  short : allowed limits.digits (writtenLength negative whole.length) = true

/-- What may follow the whole digits of a number, and the digits of the fraction. -/
inductive Fraction : List Char → List Char → Prop where
  | none : Fraction [] []
  | point {digits : List Char} (proper : Digits digits) : Fraction ('.' :: digits) digits

/-- What may follow the fraction of a number, and the power of ten that it stands for. -/
inductive Exponent : List Char → Int → Prop where
  | none : Exponent [] 0
  | some {letter : Char} {sign digits : List Char} {negative : Bool} (marks : letter = 'e' ∨ letter = 'E')
    (mark : SignMark sign negative) (proper : Digits digits) :
    Exponent (letter :: (sign ++ digits)) (signed negative (ofPlainDigits digits))

/-- A text writes a number, but for a minus in front. With a fraction or an exponent it is one of 64 bits. -/
inductive Number (limits : Limits) (negative : Bool) : List Char → Json → Prop where
  | whole {digits : List Char} (proper : WholeDigits limits negative digits) :
    Number limits negative digits (.int (signed negative (ofPlainDigits digits)))
  | scaled {whole fraction digits exponent : List Char} {power : Int} (proper : WholeDigits limits negative whole)
    (divides : Fraction fraction digits) (raises : Exponent exponent power)
    (some : (fraction ++ exponent).isEmpty = false) :
    Number limits negative (whole ++ (fraction ++ exponent))
      (.float (Binary64.ofDecimal negative (ofPlainDigits (whole ++ digits)) (power - digits.length)))

/-- The words among the documents. -/
def words : List (List Char × Json) :=
  [(['n', 'u', 'l', 'l'], .null), (['t', 'r', 'u', 'e'], .bool true), (['f', 'a', 'l', 's', 'e'], .bool false),
    (['N', 'a', 'N'], .float .nan), (['I', 'n', 'f', 'i', 'n', 'i', 't', 'y'], .float (.infinity false)),
    (['-', 'I', 'n', 'f', 'i', 'n', 'i', 't', 'y'], .float (.infinity true))]

/-- A text writes a word or a number. -/
inductive Atom (limits : Limits) : List Char → Json → Prop where
  | word {s : List Char} {d : Json} (known : (s, d) ∈ words) : Atom limits s d
  | number {s : List Char} {d : Json} (number : Number limits false s d) : Atom limits s d
  | minus {s : List Char} {d : Json} (number : Number limits true s d) : Atom limits ('-' :: s) d

/-- A text of nothing but gaps. -/
def Blank (gap : List Char) : Prop := ∀ c ∈ gap, isGap c = true

/-- What follows a number without being a part of it. -/
def Loose (rest : List Char) : Prop := ∀ c ∈ rest.head?, isPlainDigit c = false ∧ c ∉ ['.', 'e', 'E']

variable {limits : Limits} {level : Nat} {s rest : List Char} {d : Json}

theorem loose_cons {c : Char} (member : c ∈ [' ', '\t', '\n', '\r', ',', ']', '\x7d']) (more : List Char) :
    Loose (c :: more) := by
  rintro _ ⟨⟩
  simp only [List.mem_cons, List.not_mem_nil, or_false] at member
  rcases member with rfl | rfl | rfl | rfl | rfl | rfl | rfl <;> exact ⟨rfl, by simp⟩

theorem Loose.gap {gap : List Char} (blank : Blank gap) (loose : Loose rest) : Loose (gap ++ rest) := by
  cases gap with
  | nil => exact loose
  | cons c gap =>
    have solid := blank c List.mem_cons_self
    simp only [isGap, Bool.or_eq_true, beq_iff_eq, or_assoc] at solid
    rcases solid with rfl | rfl | rfl | rfl <;> exact loose_cons (by decide) _

/-! ### Reading them -/

/-- Digits are told from what follows them. -/
theorem spanDigits_append {digits rest : List Char} (plain : ∀ c ∈ digits, isPlainDigit c = true)
    (stops : ∀ c ∈ rest.head?, isPlainDigit c = false) : spanDigits (digits ++ rest) = (digits, rest) := by
  have stop : rest.takeWhile isPlainDigit = [] ∧ rest.dropWhile isPlainDigit = rest := by
    cases rest with
    | nil => exact ⟨rfl, rfl⟩
    | cons c more => simp [stops c rfl]
  rw [spanDigits, List.takeWhile_append_of_pos plain, List.dropWhile_append_of_pos plain, stop.1, stop.2,
    List.append_nil]

/-- An exponent at the front of a text: the power, whether there is one, and what follows it. -/
def readExponent? : List Char → Option (Int × Bool × List Char)
  | [] => some (0, false, [])
  | letter :: more =>
    if letter = 'e' ∨ letter = 'E' then
      let digits := (spanDigits (takeSign more).2).1
      if digits = [] then none
      else some (signed (takeSign more).1 (ofPlainDigits digits), true, (spanDigits (takeSign more).2).2)
    else some (0, false, letter :: more)

theorem readScale_plain (pointless : s.head? ≠ some '.') :
    readScale? s = (readExponent? s).map fun (power, scaled, tail) => ([], power, scaled, tail) := by
  cases s with
  | nil => rfl
  | cons c more =>
    have other : c ≠ '.' := fun same => pointless (congrArg some same)
    by_cases letter : c = 'e' ∨ c = 'E'
    · by_cases digits : (spanDigits (takeSign more).2).1 = []
      · simp [readScale?, readExponent?, other, letter, digits]
      · simp [readScale?, readExponent?, other, letter, digits]
    · simp [readScale?, readExponent?, other, letter]

theorem readScale_point (more : List Char) :
    readScale? ('.' :: more) = if (spanDigits more).1 = [] then none else
      (readExponent? (spanDigits more).2).map fun (power, _, tail) => ((spanDigits more).1, power, true, tail) := by
  by_cases fraction : (spanDigits more).1 = []
  · simp [readScale?, fraction]
  · cases after : (spanDigits more).2 with
    | nil => simp [readScale?, readExponent?, fraction, after]
    | cons c more =>
      by_cases letter : c = 'e' ∨ c = 'E'
      · by_cases digits : (spanDigits (takeSign more).2).1 = []
        · simp [readScale?, readExponent?, fraction, after, letter, digits]
        · simp [readScale?, readExponent?, fraction, after, letter, digits]
      · simp [readScale?, readExponent?, fraction, after, letter]

section
variable {exponent fraction digits : List Char} {power : Int} {scaled : Bool}

private theorem readExponent_append (raises : Exponent exponent power) (loose : Loose rest) :
    readExponent? (exponent ++ rest) = some (power, !exponent.isEmpty, rest) := by
  cases raises with
  | none =>
    cases rest with
    | nil => rfl
    | cons c more =>
      have other := (loose c rfl).2
      simp only [List.mem_cons, List.not_mem_nil, or_false, not_or] at other
      simp [readExponent?, other.2.1, other.2.2]
  | @some letter sign digits negative marks mark proper =>
    have spanned := spanDigits_append proper.2 fun c first => (loose c first).1
    obtain ⟨c, cs, rfl, digit⟩ := proper.exists_cons
    have signed := takeSign_append mark digit (cs ++ rest)
    rw [List.cons_append] at spanned
    simp [readExponent?, marks, signed, spanned]

private theorem exists_exponent (read : readExponent? s = some (power, scaled, rest)) :
    ∃ exponent, s = exponent ++ rest ∧ Exponent exponent power ∧ scaled = !exponent.isEmpty := by
  unfold readExponent? at read
  split at read
  · cases read
    exact ⟨[], rfl, .none, rfl⟩
  · next letter more =>
    split at read
    · next marks =>
      dsimp only at read
      split at read
      · cases read
      · next some =>
        cases read
        obtain ⟨sign, signed, mark⟩ := exists_sign more
        obtain ⟨apart, plain⟩ := exists_digits (takeSign more).2
        refine ⟨letter :: (sign ++ (spanDigits (takeSign more).2).1), ?_, .some marks mark ⟨some, plain⟩, rfl⟩
        rw [List.cons_append, List.append_assoc, ← apart, ← signed]
    · cases read
      exact ⟨[], rfl, .none, rfl⟩

theorem Exponent.stops (raises : Exponent exponent power) (loose : Loose rest) :
    ∀ c ∈ (exponent ++ rest).head?, isPlainDigit c = false ∧ c ≠ '.' := by
  cases raises with
  | none =>
    intro c first
    obtain ⟨digitless, other⟩ := loose c first
    exact ⟨digitless, fun point => other (point ▸ List.mem_cons_self)⟩
  | some marks mark proper =>
    rintro _ ⟨⟩
    rcases marks with rfl | rfl <;> decide

private theorem readScale_append (divides : Fraction fraction digits) (raises : Exponent exponent power)
    (loose : Loose rest) :
    readScale? (fraction ++ (exponent ++ rest)) = some (digits, power, !(fraction ++ exponent).isEmpty, rest) := by
  have stops := raises.stops loose
  have raised := readExponent_append raises loose
  cases divides with
  | none =>
    have pointless : (exponent ++ rest).head? ≠ some '.' := fun point => (stops _ point).2 rfl
    rw [List.nil_append, readScale_plain pointless, raised]
    rfl
  | point proper =>
    have spanned := spanDigits_append proper.2 fun c first => (stops c first).1
    rw [List.cons_append, readScale_point, spanned, if_neg proper.1, raised]
    rfl

private theorem exists_scale (read : readScale? s = some (digits, power, scaled, rest)) :
    ∃ fraction exponent, s = fraction ++ (exponent ++ rest) ∧ Fraction fraction digits ∧ Exponent exponent power ∧
      scaled = !(fraction ++ exponent).isEmpty := by
  by_cases point : s.head? = some '.'
  · obtain ⟨more, rfl⟩ := List.head?_eq_some_iff.mp point
    rw [readScale_point] at read
    split at read
    · cases read
    · next some =>
      obtain ⟨⟨found, flag, tail⟩, raised, made⟩ := Option.map_eq_some_iff.mp read
      cases made
      obtain ⟨exponent, ends, raises, -⟩ := exists_exponent raised
      obtain ⟨apart, plain⟩ := exists_digits more
      refine ⟨'.' :: (spanDigits more).1, exponent, ?_, .point ⟨some, plain⟩, raises, rfl⟩
      rw [List.cons_append, ← ends, ← apart]
  · rw [readScale_plain point] at read
    obtain ⟨⟨found, flag, tail⟩, raised, made⟩ := Option.map_eq_some_iff.mp read
    cases made
    obtain ⟨exponent, ends, raises, scaled⟩ := exists_exponent raised
    exact ⟨[], exponent, ends, .none, raises, scaled⟩

end

private theorem readNumber_whole {negative : Bool} {whole tail : List Char} (proper : WholeDigits limits negative whole)
    (stops : ∀ c ∈ tail.head?, isPlainDigit c = false) :
    readNumber? limits negative (whole ++ tail) = (readScale? tail).map fun (digits, power, scaled, rest) =>
      if scaled then
        (.float (Binary64.ofDecimal negative (ofPlainDigits (whole ++ digits)) (power - digits.length)), rest)
      else (.int (signed negative (ofPlainDigits whole)), rest) := by
  have filled : whole.isEmpty = false := List.isEmpty_eq_false_iff.mpr proper.digits.1
  have front : (whole.head? == some '0' && whole.length != 1) = false := by
    simpa using proper.front
  unfold readNumber?
  simp only [spanDigits_append proper.digits.2 stops, filled, front, proper.short, Bool.or_self, Bool.not_true,
    Bool.false_eq_true, ↓reduceIte]

theorem readNumber_append {negative : Bool} (number : Number limits negative s d) (loose : Loose rest) :
    readNumber? limits negative (s ++ rest) = some (d, rest) := by
  cases number with
  | whole proper =>
    rw [readNumber_whole proper fun c first => (loose c first).1]
    have ends := readScale_append .none .none loose
    rw [List.nil_append, List.nil_append] at ends
    rw [ends]
    rfl
  | @scaled whole fraction digits exponent power proper divides raises some =>
    have stops : ∀ c ∈ (fraction ++ (exponent ++ rest)).head?, isPlainDigit c = false := by
      cases divides with
      | none => exact fun c first => (raises.stops loose c first).1
      | point =>
        rintro _ ⟨⟩
        rfl
    rw [List.append_assoc, List.append_assoc, readNumber_whole proper stops, readScale_append divides raises loose,
      some]
    rfl

theorem exists_number {negative : Bool} (read : readNumber? limits negative s = some (d, rest)) :
    ∃ text, s = text ++ rest ∧ Number limits negative text d := by
  obtain ⟨apart, plain⟩ := exists_digits s
  unfold readNumber? at read
  generalize spanned : spanDigits s = parts at read apart plain
  obtain ⟨whole, tail⟩ := parts
  dsimp only at read apart plain
  split at read
  · cases read
  · next full =>
    split at read
    · cases read
    · next within =>
      obtain ⟨⟨digits, power, scaled, last⟩, found, made⟩ := Option.map_eq_some_iff.mp read
      obtain ⟨fraction, exponent, rfl, divides, raises, flag⟩ := exists_scale found
      have proper : WholeDigits limits negative whole := by
        simp only [Bool.or_eq_true, not_or, List.isEmpty_iff] at full
        exact ⟨⟨full.1, plain⟩, by simpa using full.2, by simpa using within⟩
      cases scaled with
      | true =>
        cases made
        have some : (fraction ++ exponent).isEmpty = false := by simpa using flag
        exact ⟨whole ++ (fraction ++ exponent), by simpa using apart, .scaled proper divides raises some⟩
      | false =>
        cases made
        obtain ⟨rfl, rfl⟩ : fraction = [] ∧ exponent = [] := by simpa using flag
        exact ⟨whole, apart, .whole proper⟩

/-! ### Words -/

/-- What begins with a digit is no literal. -/
theorem readAtom_digit {limits : Limits} {c : Char} (digit : isPlainDigit c = true) (s : List Char) :
    readAtom? limits (c :: s) = readNumber? limits false (c :: s) := by
  unfold readAtom?
  split
  all_goals first
    | rfl
    | next same =>
      obtain ⟨rfl, -⟩ := List.cons.inj same
      exact absurd digit (by decide)

theorem readAtom_minus {limits : Limits} {c : Char} (digit : isPlainDigit c = true) (s : List Char) :
    readAtom? limits ('-' :: c :: s) = readNumber? limits true (c :: s) := by
  unfold readAtom?
  split
  all_goals first
    | next same =>
      obtain ⟨-, same⟩ := List.cons.inj same
      cases same
      first
        | rfl
        | exact absurd digit (by decide)
    | next same => cases same
    | next other => exact (other _ rfl).elim

theorem eq_of_afterWord {word : List Char} (read : afterWord? word s = some rest) : s = word ++ rest := by
  induction word generalizing s with
  | nil =>
    cases read
    rfl
  | cons w word ih =>
    cases s with
    | nil => cases read
    | cons c s =>
      unfold afterWord? at read
      split at read
      · next same => rw [ih read, beq_iff_eq.mp same, List.cons_append]
      · cases read

private theorem readAtom_word (known : (s, d) ∈ words) (rest : List Char) :
    readAtom? limits (s ++ rest) = some (d, rest) := by
  simp only [words, List.mem_cons, List.not_mem_nil, or_false, Prod.mk.injEq] at known
  rcases known with ⟨rfl, rfl⟩ | ⟨rfl, rfl⟩ | ⟨rfl, rfl⟩ | ⟨rfl, rfl⟩ | ⟨rfl, rfl⟩ | ⟨rfl, rfl⟩ <;> rfl

theorem Number.exists_cons {negative : Bool} (number : Number limits negative s d) :
    ∃ c cs, s = c :: cs ∧ isPlainDigit c = true := by
  cases number with
  | whole proper => exact proper.digits.exists_cons
  | scaled proper =>
    obtain ⟨c, cs, rfl, digit⟩ := proper.digits.exists_cons
    exact ⟨c, _, rfl, digit⟩

theorem readAtom_append (atom : Atom limits s d) (loose : Loose rest) :
    readAtom? limits (s ++ rest) = some (d, rest) := by
  cases atom with
  | word known => exact readAtom_word known rest
  | number number =>
    have read := readNumber_append number loose
    obtain ⟨c, cs, rfl, digit⟩ := number.exists_cons
    rw [List.cons_append] at read ⊢
    rw [readAtom_digit digit, read]
  | minus number =>
    have read := readNumber_append number loose
    obtain ⟨c, cs, rfl, digit⟩ := number.exists_cons
    rw [List.cons_append] at read
    rw [List.cons_append, List.cons_append, readAtom_minus digit, read]

/-- What is read of a word after its front is a word. -/
private theorem exists_word (front : List Char) {word : List Char} {known : Json}
    (among : (front ++ word, known) ∈ words)
    (read : (afterWord? word s).map (known, ·) = some (d, rest)) :
    ∃ text, front ++ s = text ++ rest ∧ Atom limits text d := by
  obtain ⟨tail, found, made⟩ := Option.map_eq_some_iff.mp read
  cases made
  exact ⟨front ++ word, by rw [eq_of_afterWord found, List.append_assoc], .word among⟩

theorem exists_atom (read : readAtom? limits s = some (d, rest)) : ∃ text, s = text ++ rest ∧ Atom limits text d := by
  unfold readAtom? at read
  split at read
  · exact exists_word ['n'] (by simp [words]) read
  · exact exists_word ['t'] (by simp [words]) read
  · exact exists_word ['f'] (by simp [words]) read
  · exact exists_word ['N'] (by simp [words]) read
  · exact exists_word ['I'] (by simp [words]) read
  · exact exists_word ['-', 'I'] (by simp [words]) read
  · obtain ⟨text, rfl, number⟩ := exists_number read
    exact ⟨'-' :: text, rfl, .minus number⟩
  · obtain ⟨text, rfl, number⟩ := exists_number read
    exact ⟨text, rfl, .number number⟩

/-! ## Strings -/

/-- What stands between the quotes of a string spells characters: each as it is, or after a backslash by a letter, by
its number, or by the two halves of its number. Controls are never spelled as they are, and no half stands alone. -/
inductive Spells : List Char → List Char → Prop where
  | nothing : Spells [] []
  | plain {c : Char} {s cs : List Char} (quote : c ≠ '"') (backslash : c ≠ '\\') (above : 0x20 ≤ c.toNat)
    (onward : Spells s cs) : Spells (c :: s) (c :: cs)
  | short {letter c : Char} {s cs : List Char} (short : shortEscape? letter = some c) (onward : Spells s cs) :
    Spells ('\\' :: letter :: s) (c :: cs)
  | number {a b c d : Char} {n : Nat} {s cs : List Char} (number : hexUnit? a b c d = some n)
    (high : isHighHalf n = false) (low : isLowHalf n = false) (onward : Spells s cs) :
    Spells ('\\' :: 'u' :: a :: b :: c :: d :: s) (Char.ofNat n :: cs)
  | halves {a b c d e f g h : Char} {n k : Nat} {s cs : List Char} (first : hexUnit? a b c d = some n)
    (high : isHighHalf n = true) (second : hexUnit? e f g h = some k) (low : isLowHalf k = true)
    (onward : Spells s cs) :
    Spells ('\\' :: 'u' :: a :: b :: c :: d :: '\\' :: 'u' :: e :: f :: g :: h :: s)
      (Char.ofNat (0x10000 + (n - 0xD800) * 0x400 + (k - 0xDC00)) :: cs)

/-- A character that is written as it is. -/
private theorem readString_plain {c : Char} (quote : c ≠ '"') (backslash : c ≠ '\\') (above : ¬c.toNat < 0x20)
    (rest : List Char) : readString? (c :: rest) = (readString? rest).map fun (cs, tail) => (c :: cs, tail) := by
  rw [readString?.eq_def]
  split
  · next same => exact absurd (List.cons.inj same).1 quote
  · next same => exact absurd (List.cons.inj same).1 backslash
  · next same => exact absurd (List.cons.inj same).1 backslash
  · next same =>
    obtain ⟨rfl, rfl⟩ := List.cons.inj same
    rw [if_neg (by simp [backslash, above])]
  · next same => cases same

/-- A character that is written by a letter. -/
private theorem readString_short {c e : Char} (short : shortEscape? e = some c) (letter : e ≠ 'u') (rest : List Char) :
    readString? ('\\' :: e :: rest) = (readString? rest).map fun (cs, tail) => (c :: cs, tail) := by
  rw [readString?.eq_def]
  split
  · next same => cases same
  · next same => exact absurd (List.cons.inj (List.cons.inj same).2).1 letter
  · next same =>
    obtain ⟨rfl, rfl⟩ := List.cons.inj (List.cons.inj same).2
    rw [short]
  · next other same =>
    cases same
    exact (other e rest rfl rfl).elim
  · next same => cases same

theorem readString_append {cs : List Char} (spells : Spells s cs) (rest : List Char) :
    readString? (s ++ '"' :: rest) = some (cs, rest) := by
  induction spells with
  | nothing => rfl
  | plain quote backslash above onward ih =>
    rw [List.cons_append, readString_plain quote backslash (Nat.not_lt.mpr above), ih, Option.map_some]
  | @short letter c s cs short onward ih =>
    have other : letter ≠ 'u' := by
      rintro rfl
      cases short
    rw [List.cons_append, List.cons_append, readString_short short other, ih, Option.map_some]
  | number number high low onward ih =>
    simp only [List.cons_append]
    rw [readString?]
    simp only [number, high, low, ih, Bool.false_eq_true, ↓reduceIte, Option.map_some]
  | halves first high second low onward ih =>
    simp only [List.cons_append]
    rw [readString?]
    simp only [first, high, second, low, ih, ↓reduceIte, Option.map_some]

/-- A character that is spelled at the front of a string leaves the rest of the string to be spelled. -/
private theorem exists_onward {c : Char} {cs : List Char}
    (read : ((readString? s).map fun (cs, tail) => (c :: cs, tail)) = some (cs, rest)) :
    ∃ onward, readString? s = some (onward, rest) ∧ cs = c :: onward := by
  obtain ⟨⟨onward, tail⟩, found, made⟩ := Option.map_eq_some_iff.mp read
  cases made
  exact ⟨onward, found, rfl⟩

theorem exists_spelling {cs : List Char} (read : readString? s = some (cs, rest)) :
    ∃ inner, s = inner ++ '"' :: rest ∧ Spells inner cs := by
  fun_induction readString? s generalizing cs rest with
  | case1 more =>
    cases read
    exact ⟨[], rfl, .nothing⟩
  | case4 a b c d n first high e f g h more k second low ih =>
    obtain ⟨onward, found, rfl⟩ := exists_onward read
    obtain ⟨inner, rfl, spells⟩ := ih found
    exact ⟨_, rfl, .halves first high second low spells⟩
  | case8 a b c d more n number high low ih =>
    obtain ⟨onward, found, rfl⟩ := exists_onward read
    obtain ⟨inner, rfl, spells⟩ := ih found
    exact ⟨_, rfl, .number number (Bool.eq_false_iff.mpr high) (Bool.eq_false_iff.mpr low) spells⟩
  | case10 letter more other c short ih =>
    obtain ⟨onward, found, rfl⟩ := exists_onward read
    obtain ⟨inner, rfl, spells⟩ := ih found
    exact ⟨_, rfl, .short short spells⟩
  | case12 c more quote _ _ raw ih =>
    obtain ⟨onward, found, rfl⟩ := exists_onward read
    obtain ⟨inner, rfl, spells⟩ := ih found
    simp only [Bool.or_eq_true, beq_iff_eq, decide_eq_true_eq, not_or, Nat.not_lt] at raw
    exact ⟨_, rfl, .plain quote raw.1 raw.2 spells⟩
  | _ => cases read

/-! ## Documents -/

mutual
/-- A text writes a document where so many containers are open. Of fields with one name the last one counts. -/
inductive Bare (limits : Limits) : (level : Nat) → List Char → Json → Prop where
  | atom {level : Nat} {s : List Char} {d : Json} (atom : Atom limits s d) : Bare limits level s d
  | text {level : Nat} {s cs : List Char} (spells : Spells s cs) :
    Bare limits level ('"' :: (s ++ ['"'])) (.text (String.ofList cs))
  | emptyArray {level : Nat} {gap : List Char} (blank : Blank gap) :
    Bare limits level ('[' :: (gap ++ [']'])) (.array [])
  | array {level : Nat} {s : List Char} {items : List Json} (deep : allowed limits.depth (level + 1) = true)
    (holds : Items limits (level + 1) s items) : Bare limits level ('[' :: (s ++ [']'])) (.array items)
  | emptyObject {level : Nat} {gap : List Char} (blank : Blank gap) :
    Bare limits level ('\x7b' :: (gap ++ ['\x7d'])) (.object [])
  | object {level : Nat} {s : List Char} {fields : List (String × Json)}
    (deep : allowed limits.depth (level + 1) = true) (holds : Entries limits (level + 1) s fields) :
    Bare limits level ('\x7b' :: (s ++ ['\x7d'])) (.object (mergeFields fields))
/-- A text writes a document, perhaps with gaps around it. -/
inductive Padded (limits : Limits) : (level : Nat) → List Char → Json → Prop where
  | around {level : Nat} {before s after : List Char} {d : Json} (early : Blank before) (bare : Bare limits level s d)
    (late : Blank after) : Padded limits level (before ++ (s ++ after)) d
/-- A text writes items with commas between them. -/
inductive Items (limits : Limits) : (level : Nat) → List Char → List Json → Prop where
  | last {level : Nat} {s : List Char} {d : Json} (item : Padded limits level s d) : Items limits level s [d]
  | more {level : Nat} {s t : List Char} {d : Json} {items : List Json} (item : Padded limits level s d)
    (onward : Items limits level t items) : Items limits level (s ++ ',' :: t) (d :: items)
/-- A text writes a name and a document with a colon between them. -/
inductive Entry (limits : Limits) : (level : Nat) → List Char → String × Json → Prop where
  | named {level : Nat} {before name after s cs : List Char} {d : Json} (early : Blank before) (spells : Spells name cs)
    (late : Blank after) (padded : Padded limits level s d) :
    Entry limits level (before ++ '"' :: (name ++ '"' :: (after ++ ':' :: s))) (String.ofList cs, d)
/-- A text writes fields with commas between them. -/
inductive Entries (limits : Limits) : (level : Nat) → List Char → List (String × Json) → Prop where
  | last {level : Nat} {s : List Char} {field : String × Json} (entry : Entry limits level s field) :
    Entries limits level s [field]
  | more {level : Nat} {s t : List Char} {field : String × Json} {fields : List (String × Json)}
    (entry : Entry limits level s field) (onward : Entries limits level t fields) :
    Entries limits level (s ++ ',' :: t) (field :: fields)
end

/-- A text writes a document. -/
def Writes (limits : Limits) (text : String) (d : Json) : Prop := Padded limits 0 text.toList d

/-! ### Reading what is written -/

theorem skipGap_append {gap : List Char} (blank : Blank gap) (s : List Char) : skipGap (gap ++ s) = skipGap s :=
  List.dropWhile_append_of_pos blank

theorem skipGap_cons {c : Char} (solid : isGap c = false) (s : List Char) : skipGap (c :: s) = c :: s := by
  rw [skipGap, List.dropWhile_cons_of_neg (by simp [solid])]

theorem readValue_gap {gap : List Char} (blank : Blank gap) (fuel : Nat) (s : List Char) :
    readValue? limits fuel level (gap ++ s) = readValue? limits fuel level s := by
  cases fuel with
  | zero => rfl
  | succ fuel => rw [readValue?, readValue?, skipGap_append blank]

theorem readItems_gap {gap : List Char} (blank : Blank gap) (fuel : Nat) (s : List Char) :
    readItems? limits fuel level (gap ++ s) = readItems? limits fuel level s := by
  cases fuel with
  | zero => rfl
  | succ fuel => rw [readItems?, readItems?, readValue_gap blank]

theorem readFields_gap {gap : List Char} (blank : Blank gap) (fuel : Nat) (s : List Char) :
    readFields? limits fuel level (gap ++ s) = readFields? limits fuel level s := by
  cases fuel with
  | zero => rfl
  | succ fuel => rw [readFields?, readFields?, skipGap_append blank]

/-- A character that begins a document, and ends no container. -/
def Opens (c : Char) : Prop := isGap c = false ∧ c ∉ [']', '\x7d']

instance (c : Char) : Decidable (Opens c) := inferInstanceAs (Decidable (_ ∧ _))

private theorem opens_digit {c : Char} (digit : isPlainDigit c = true) : Opens c := by
  refine ⟨Bool.eq_false_iff.mpr fun gap => ?_, ?_⟩
  · simp only [isGap, Bool.or_eq_true, beq_iff_eq] at gap
    rcases gap with ((rfl | rfl) | rfl) | rfl <;> exact absurd digit (by decide)
  · intro member
    simp only [List.mem_cons, List.not_mem_nil, or_false] at member
    rcases member with rfl | rfl <;> exact absurd digit (by decide)

/-- What begins with no quote and no bracket is a literal or a number. -/
theorem readValue_atom {c : Char} (solid : isGap c = false) (other : c ∉ ['"', '[', '\x7b']) (fuel : Nat)
    (s : List Char) : readValue? limits (fuel + 1) level (c :: s) = readAtom? limits (c :: s) := by
  rw [readValue?, skipGap_cons solid]
  split
  · next same => exact absurd (by simp [(List.cons.inj same).1]) other
  · next same => exact absurd (by simp [(List.cons.inj same).1]) other
  · next same => exact absurd (by simp [(List.cons.inj same).1]) other
  · rfl

theorem Atom.exists_cons (atom : Atom limits s d) :
    ∃ c cs, s = c :: cs ∧ Opens c ∧ c ∉ ['"', '[', '\x7b'] := by
  cases atom with
  | word known =>
    simp only [words, List.mem_cons, List.not_mem_nil, or_false, Prod.mk.injEq] at known
    rcases known with ⟨rfl, -⟩ | ⟨rfl, -⟩ | ⟨rfl, -⟩ | ⟨rfl, -⟩ | ⟨rfl, -⟩ | ⟨rfl, -⟩ <;>
      exact ⟨_, _, rfl, by decide, by decide⟩
  | number number =>
    obtain ⟨c, cs, rfl, digit⟩ := number.exists_cons
    refine ⟨c, cs, rfl, opens_digit digit, fun member => ?_⟩
    simp only [List.mem_cons, List.not_mem_nil, or_false] at member
    rcases member with rfl | rfl | rfl <;> exact absurd digit (by decide)
  | minus => exact ⟨_, _, rfl, by decide, by decide⟩

theorem Bare.exists_cons (bare : Bare limits level s d) : ∃ c cs, s = c :: cs ∧ Opens c := by
  cases bare with
  | atom atom =>
    obtain ⟨c, cs, text, opens, -⟩ := atom.exists_cons
    exact ⟨c, cs, text, opens⟩
  | _ => exact ⟨_, _, rfl, by decide⟩

/-- What is written between brackets does not begin like a closing one, even after a gap. -/
def Begins (s : List Char) : Prop := ∃ gap c cs, s = gap ++ c :: cs ∧ Blank gap ∧ Opens c

theorem Begins.append (begins : Begins s) (rest : List Char) : Begins (s ++ rest) := by
  obtain ⟨gap, c, cs, rfl, blank, opens⟩ := begins
  exact ⟨gap, c, cs ++ rest, by simp, blank, opens⟩

theorem Padded.begins (padded : Padded limits level s d) : Begins s := by
  cases padded with
  | around early bare late =>
    obtain ⟨c, cs, rfl, opens⟩ := bare.exists_cons
    exact ⟨_, c, _, rfl, early, opens⟩

theorem Items.begins {items : List Json} (holds : Items limits level s items) : Begins s := by
  cases holds with
  | last item => exact item.begins
  | more item onward => exact item.begins.append _

theorem Entries.begins {fields : List (String × Json)} (holds : Entries limits level s fields) : Begins s := by
  cases holds with
  | last entry =>
    cases entry with
    | named early => exact ⟨_, _, _, rfl, early, by decide⟩
  | more entry onward =>
    cases entry with
    | named early => exact Begins.append ⟨_, _, _, rfl, early, by decide⟩ _

/-- With so much fuel, whatever a text writes is read from it. -/
structure ReadsWritten (limits : Limits) (fuel : Nat) : Prop where
  bare : ∀ level s d rest, Bare limits level s d → Loose rest → 2 * s.length ≤ fuel →
    readValue? limits fuel level (s ++ rest) = some (d, rest)
  items : ∀ level s items rest, Items limits level s items → 2 * s.length + 1 ≤ fuel →
    readItems? limits fuel level (s ++ ']' :: rest) = some (items, rest)
  entries : ∀ level s fields rest, Entries limits level s fields → 2 * s.length + 1 ≤ fuel →
    readFields? limits fuel level (s ++ '\x7d' :: rest) = some (fields, rest)

section
variable {fuel : Nat}

/-- Gaps after a document are left for later. -/
theorem ReadsWritten.padded (reads : ReadsWritten limits fuel) (padded : Padded limits level s d) (loose : Loose rest)
    (enough : 2 * s.length ≤ fuel) :
    ∃ gap, Blank gap ∧ readValue? limits fuel level (s ++ rest) = some (d, gap ++ rest) := by
  cases padded with
  | @around _ before s after _ early bare late =>
    refine ⟨after, late, ?_⟩
    rw [List.append_assoc, List.append_assoc, readValue_gap early]
    refine reads.bare _ _ _ _ bare (loose.gap late) ?_
    simp only [List.length_append] at enough
    omega

theorem ReadsWritten.items_succ (reads : ReadsWritten limits fuel) {items : List Json}
    (holds : Items limits level s items) (enough : 2 * s.length + 1 ≤ fuel + 1) (rest : List Char) :
    readItems? limits (fuel + 1) level (s ++ ']' :: rest) = some (items, rest) := by
  cases holds with
  | last item =>
    obtain ⟨gap, blank, read⟩ := reads.padded item (loose_cons (c := ']') (by decide) rest) (by omega)
    rw [readItems?, read]
    simp only [skipGap_append blank, skipGap_cons (c := ']') rfl]
  | @more _ s t d items item onward =>
    simp only [List.length_append, List.length_cons] at enough
    obtain ⟨gap, blank, read⟩ :=
      reads.padded item (loose_cons (c := ',') (by decide) (t ++ ']' :: rest)) (by omega)
    rw [List.append_assoc, List.cons_append, readItems?, read]
    simp only [skipGap_append blank, skipGap_cons (c := ',') rfl]
    rw [reads.items _ _ _ _ onward (by omega), Option.map_some]

theorem ReadsWritten.entries_succ (reads : ReadsWritten limits fuel) {fields : List (String × Json)}
    (holds : Entries limits level s fields) (enough : 2 * s.length + 1 ≤ fuel + 1) (rest : List Char) :
    readFields? limits (fuel + 1) level (s ++ '\x7d' :: rest) = some (fields, rest) := by
  cases holds with
  | last entry =>
    cases entry with
    | named early spells late padded =>
      simp only [List.length_append, List.length_cons] at enough
      obtain ⟨gap, blank, read⟩ := reads.padded padded (loose_cons (c := '\x7d') (by decide) rest) (by omega)
      simp only [List.append_assoc, List.cons_append]
      rw [readFields_gap early, readFields?]
      simp only [skipGap_cons (c := '"') rfl, readString_append spells, skipGap_append late,
        skipGap_cons (c := ':') rfl, read, skipGap_append blank, skipGap_cons (c := '\x7d') rfl]
  | @more _ s t field fields entry onward =>
    cases entry with
    | named early spells late padded =>
      simp only [List.length_append, List.length_cons] at enough
      obtain ⟨gap, blank, read⟩ :=
        reads.padded padded (loose_cons (c := ',') (by decide) (t ++ '\x7d' :: rest)) (by omega)
      simp only [List.append_assoc, List.cons_append]
      rw [readFields_gap early, readFields?]
      simp only [skipGap_cons (c := '"') rfl, readString_append spells, skipGap_append late,
        skipGap_cons (c := ':') rfl, read, skipGap_append blank, skipGap_cons (c := ',') rfl]
      rw [reads.entries _ _ _ _ onward (by omega), Option.map_some]

theorem ReadsWritten.bare_succ (reads : ReadsWritten limits fuel) (bare : Bare limits level s d) (loose : Loose rest)
    (enough : 2 * s.length ≤ fuel + 1) : readValue? limits (fuel + 1) level (s ++ rest) = some (d, rest) := by
  cases bare with
  | atom atom =>
    have read := readAtom_append atom loose
    obtain ⟨c, cs, rfl, opens, other⟩ := atom.exists_cons
    rw [List.cons_append] at read ⊢
    rw [readValue_atom opens.1 other, read]
  | text spells =>
    simp only [List.append_assoc, List.cons_append, List.nil_append]
    rw [readValue?]
    simp only [skipGap_cons (c := '"') rfl, readString_append spells, Option.map_some]
  | emptyArray blank =>
    simp only [List.append_assoc, List.cons_append, List.nil_append]
    rw [readValue?]
    simp only [skipGap_cons (c := '[') rfl, skipGap_append blank, skipGap_cons (c := ']') rfl]
  | array deep holds =>
    simp only [List.length_append, List.length_cons, List.length_nil] at enough
    have read := reads.items _ _ _ rest holds (by omega)
    obtain ⟨gap, c, cs, rfl, blank, opens⟩ := holds.begins
    rw [List.append_assoc, readItems_gap blank, List.cons_append] at read
    simp only [List.append_assoc, List.cons_append, List.nil_append]
    rw [readValue?]
    simp only [skipGap_cons (c := '[') rfl, skipGap_append blank, skipGap_cons opens.1]
    split
    · next same => exact absurd (by simp [(List.cons.inj same).1]) opens.2
    · rw [if_pos deep, read, Option.map_some]
  | emptyObject blank =>
    simp only [List.append_assoc, List.cons_append, List.nil_append]
    rw [readValue?]
    simp only [skipGap_cons (c := '\x7b') rfl, skipGap_append blank, skipGap_cons (c := '\x7d') rfl]
  | object deep holds =>
    simp only [List.length_append, List.length_cons, List.length_nil] at enough
    have read := reads.entries _ _ _ rest holds (by omega)
    obtain ⟨gap, c, cs, rfl, blank, opens⟩ := holds.begins
    rw [List.append_assoc, readFields_gap blank, List.cons_append] at read
    simp only [List.append_assoc, List.cons_append, List.nil_append]
    rw [readValue?]
    simp only [skipGap_cons (c := '\x7b') rfl, skipGap_append blank, skipGap_cons opens.1]
    split
    · next same => exact absurd (by simp [(List.cons.inj same).1]) opens.2
    · rw [if_pos deep, read, Option.map_some]

end

theorem readsWritten (fuel : Nat) : ReadsWritten limits fuel := by
  induction fuel with
  | zero =>
    refine ⟨fun level s d rest bare loose enough => ?_, fun _ _ _ _ _ enough => ?_, fun _ _ _ _ _ enough => ?_⟩
    · obtain ⟨c, cs, rfl, -⟩ := bare.exists_cons
      rw [List.length_cons] at enough
      omega
    · omega
    · omega
  | succ fuel reads =>
    exact ⟨fun _ _ _ _ => reads.bare_succ, fun _ _ _ rest holds enough => reads.items_succ holds enough rest,
      fun _ _ _ rest holds enough => reads.entries_succ holds enough rest⟩

/-! ### What is read is written -/

theorem Bare.padded (bare : Bare limits level s d) : Padded limits level s d := by
  have padded : Padded limits level ([] ++ (s ++ [])) d := .around (List.forall_mem_nil _) bare (List.forall_mem_nil _)
  rwa [List.append_nil] at padded

theorem exists_gap (s : List Char) : ∃ gap, s = gap ++ skipGap s ∧ Blank gap :=
  ⟨s.takeWhile isGap, List.takeWhile_append_dropWhile.symm, List.all_eq_true.mp List.all_takeWhile⟩

theorem blank_append {gap more : List Char} (blank : Blank gap) (further : Blank more) : Blank (gap ++ more) :=
  List.forall_mem_append.mpr ⟨blank, further⟩

theorem Padded.gap {gap : List Char} (blank : Blank gap) (padded : Padded limits level s d) :
    Padded limits level (gap ++ s) d := by
  cases padded with
  | around early bare late =>
    rw [← List.append_assoc]
    exact .around (blank_append blank early) bare late

theorem Items.gap {gap : List Char} {items : List Json} (blank : Blank gap) (holds : Items limits level s items) :
    Items limits level (gap ++ s) items := by
  cases holds with
  | last item => exact .last (item.gap blank)
  | more item onward =>
    rw [← List.append_assoc]
    exact .more (item.gap blank) onward

theorem Entry.gap {gap : List Char} {field : String × Json} (blank : Blank gap) (entry : Entry limits level s field) :
    Entry limits level (gap ++ s) field := by
  cases entry with
  | named early spells late padded =>
    rw [← List.append_assoc]
    exact .named (blank_append blank early) spells late padded

theorem Entries.gap {gap : List Char} {fields : List (String × Json)} (blank : Blank gap)
    (holds : Entries limits level s fields) : Entries limits level (gap ++ s) fields := by
  cases holds with
  | last entry => exact .last (entry.gap blank)
  | more entry onward =>
    rw [← List.append_assoc]
    exact .more (entry.gap blank) onward

/-- With so much fuel, whatever is read is written by what it is read from. -/
structure FindsWritten (limits : Limits) (fuel : Nat) : Prop where
  value : ∀ level s d rest, readValue? limits fuel level s = some (d, rest) →
    ∃ gap text, s = gap ++ (text ++ rest) ∧ Blank gap ∧ Bare limits level text d
  items : ∀ level s items rest, readItems? limits fuel level s = some (items, rest) →
    ∃ text, s = text ++ ']' :: rest ∧ Items limits level text items
  entries : ∀ level s fields rest, readFields? limits fuel level s = some (fields, rest) →
    ∃ text, s = text ++ '\x7d' :: rest ∧ Entries limits level text fields

section
variable {fuel : Nat}

/-- A document that is read, with the gaps around it, and what follows these. -/
theorem FindsWritten.padded (finds : FindsWritten limits fuel)
    (read : readValue? limits fuel level s = some (d, rest)) :
    ∃ text, s = text ++ skipGap rest ∧ Padded limits level text d := by
  obtain ⟨early, text, rfl, before, bare⟩ := finds.value _ _ _ _ read
  obtain ⟨late, apart, after⟩ := exists_gap rest
  refine ⟨early ++ (text ++ late), ?_, .around before bare after⟩
  rw [List.append_assoc, List.append_assoc, ← apart]

theorem FindsWritten.items_succ (finds : FindsWritten limits fuel) {items : List Json}
    (read : readItems? limits (fuel + 1) level s = some (items, rest)) :
    ∃ text, s = text ++ ']' :: rest ∧ Items limits level text items := by
  rw [readItems?] at read
  split at read
  · cases read
  · next item tail found =>
    obtain ⟨text, rfl, padded⟩ := finds.padded found
    split at read
    · next more comma =>
      obtain ⟨⟨others, last⟩, onward, made⟩ := Option.map_eq_some_iff.mp read
      cases made
      obtain ⟨further, rfl, holds⟩ := finds.items _ _ _ _ onward
      refine ⟨text ++ ',' :: further, ?_, .more padded holds⟩
      rw [comma, List.append_assoc, List.cons_append]
    · next bracket =>
      cases read
      exact ⟨text, by rw [bracket], .last padded⟩
    · cases read

theorem FindsWritten.entries_succ (finds : FindsWritten limits fuel) {fields : List (String × Json)}
    (read : readFields? limits (fuel + 1) level s = some (fields, rest)) :
    ∃ text, s = text ++ '\x7d' :: rest ∧ Entries limits level text fields := by
  obtain ⟨early, begins, before⟩ := exists_gap s
  rw [readFields?] at read
  split at read
  · next quote =>
    rw [quote] at begins
    split at read
    · cases read
    · next name afterName spelled =>
      obtain ⟨inner, rfl, spells⟩ := exists_spelling spelled
      obtain ⟨late, goes, after⟩ := exists_gap afterName
      split at read
      · next body colon =>
        rw [colon] at goes
        split at read
        · cases read
        · next document tail found =>
          obtain ⟨text, rfl, padded⟩ := finds.padded found
          have entry : Entry limits level _ (String.ofList name, document) := .named before spells after padded
          split at read
          · next more comma =>
            obtain ⟨⟨others, last⟩, onward, made⟩ := Option.map_eq_some_iff.mp read
            cases made
            obtain ⟨further, rfl, holds⟩ := finds.entries _ _ _ _ onward
            refine ⟨_, ?_, .more entry holds⟩
            rw [begins, goes, comma]
            simp
          · next bracket =>
            cases read
            refine ⟨_, ?_, .last entry⟩
            rw [begins, goes, bracket]
            simp
          · cases read
      · cases read
  · cases read

theorem FindsWritten.value_succ (finds : FindsWritten limits fuel)
    (read : readValue? limits (fuel + 1) level s = some (d, rest)) :
    ∃ gap text, s = gap ++ (text ++ rest) ∧ Blank gap ∧ Bare limits level text d := by
  obtain ⟨gap, begins, blank⟩ := exists_gap s
  rw [readValue?] at read
  split at read
  · next more quote =>
    obtain ⟨⟨cs, tail⟩, spelled, made⟩ := Option.map_eq_some_iff.mp read
    cases made
    obtain ⟨inner, rfl, spells⟩ := exists_spelling spelled
    refine ⟨gap, _, ?_, blank, .text spells⟩
    rw [begins, quote]
    simp
  · next more bracket =>
    obtain ⟨inside, apart, within⟩ := exists_gap more
    split at read
    · next closing =>
      cases read
      refine ⟨gap, _, ?_, blank, .emptyArray within⟩
      rw [begins, bracket, apart, closing]
      simp
    · split at read
      · next deep =>
        obtain ⟨⟨items, tail⟩, found, made⟩ := Option.map_eq_some_iff.mp read
        cases made
        obtain ⟨text, ends, holds⟩ := finds.items _ _ _ _ found
        refine ⟨gap, _, ?_, blank, .array deep (holds.gap within)⟩
        rw [begins, bracket, apart, ends]
        simp
      · cases read
  · next more brace =>
    obtain ⟨inside, apart, within⟩ := exists_gap more
    split at read
    · next closing =>
      cases read
      refine ⟨gap, _, ?_, blank, .emptyObject within⟩
      rw [begins, brace, apart, closing]
      simp
    · split at read
      · next deep =>
        obtain ⟨⟨fields, tail⟩, found, made⟩ := Option.map_eq_some_iff.mp read
        cases made
        obtain ⟨text, ends, holds⟩ := finds.entries _ _ _ _ found
        refine ⟨gap, _, ?_, blank, .object deep (holds.gap within)⟩
        rw [begins, brace, apart, ends]
        simp
      · cases read
  · obtain ⟨text, ends, atom⟩ := exists_atom read
    exact ⟨gap, text, by rw [← ends]; exact begins, blank, .atom atom⟩

end

private theorem findsWritten (fuel : Nat) : FindsWritten limits fuel := by
  induction fuel with
  | zero => exact ⟨nofun, nofun, nofun⟩
  | succ fuel finds =>
    exact ⟨fun _ _ _ _ => finds.value_succ, fun _ _ _ _ => finds.items_succ, fun _ _ _ _ => finds.entries_succ⟩

/-- A reader within limits reads a document from a text exactly if the text writes it. -/
theorem parse?_eq_some {text : String} : parse? limits text = some d ↔ Writes limits text d := by
  constructor
  · intro read
    unfold parse? at read
    split at read
    · next document rest found =>
      split at read
      · next blank =>
        cases read
        obtain ⟨s, apart, padded⟩ := (findsWritten _).padded found
        rw [List.isEmpty_iff.mp blank, List.append_nil] at apart
        unfold Writes
        rwa [apart]
      · cases read
    · cases read
  · intro writes
    have enough : 2 * text.toList.length ≤ 2 * text.length + 2 := by
      rw [String.length_toList]
      omega
    have loose : Loose [] := nofun
    obtain ⟨gap, blank, read⟩ := (readsWritten (2 * text.length + 2)).padded writes loose enough
    rw [List.append_nil, List.append_nil] at read
    have ends : skipGap gap = [] := by
      have dropped := skipGap_append blank []
      rwa [List.append_nil] at dropped
    rw [parse?, read]
    simp [ends]

end Json
end ConsumerChannel
