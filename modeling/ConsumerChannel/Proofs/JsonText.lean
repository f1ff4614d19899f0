import ConsumerChannel.Json.Writer
import ConsumerChannel.Proofs.Grammar

/-! What is written of a document can be read back, and is read as that document, since the grammar has that text for
it. Only a document with floating-point numbers may be written otherwise than it is read. What the grammar has a text
for within limits fits these. -/
namespace ConsumerChannel.Json
open Text Numeral

/-! ## Whole numbers -/

private theorem isPlainDigit_of_mem {n : Nat} {c : Char} (member : c ∈ decimalText n) : isPlainDigit c = true := by
  have digit : c.isDigit = true := Nat.isDigit_of_mem_toDigits (by decide) (by decide) member
  simpa [isPlainDigit, Char.isDigit, Char.le_def, UInt32.le_iff_toNat_le] using digit

theorem ofPlainDigits_decimalText (n : Nat) : ofPlainDigits (decimalText n) = n := by
  have read : Nat.ofDigitChars 10 (decimalText n) 0 = n := Nat.ofDigitChars_ten_toDigits
  rw [Nat.ofDigitChars_eq_foldl] at read
  rw [ofPlainDigits, ofDigits, List.foldl_map]
  simpa [Nat.mul_comm] using read

/-- Only zero is written with a zero in front. -/
private theorem head_decimalText {n : Nat} (positive : 0 < n) : (decimalText n).head? ≠ some '0' := by
  induction n using Nat.strongRecOn with
  | ind n ih =>
    rw [decimalText, Nat.toDigits_eq_if (by decide)]
    split
    · next small =>
      have distinct : ∀ k < 10, 0 < k → [k.digitChar].head? ≠ some '0' := by decide
      exact distinct n small positive
    · next large =>
      have shorter : (Nat.toDigits 10 (n / 10)).head? ≠ some '0' := ih (n / 10) (by omega) (by omega)
      obtain ⟨c, cs, text⟩ := List.exists_cons_of_ne_nil (Nat.toDigits_ne_nil : Nat.toDigits 10 (n / 10) ≠ [])
      rw [text] at shorter ⊢
      exact shorter

theorem wholeDigits_decimalText {limits : Limits} {negative : Bool} {n : Nat}
    (short : allowed limits.digits (writtenLength negative (decimalText n).length) = true) :
    WholeDigits limits negative (decimalText n) where
  digits := ⟨Nat.toDigits_ne_nil, fun _ => isPlainDigit_of_mem⟩
  front first := by
    rcases Nat.eq_zero_or_pos n with rfl | positive
    · rfl
    · exact absurd first (head_decimalText positive)
  short := short

theorem atom_writeInt {limits : Limits} {n : Int}
    (short : allowed limits.digits (writeInt n).length = true) : Atom limits (writeInt n) (.int n) := by
  have number {negative : Bool}
      (short : allowed limits.digits (writtenLength negative (decimalText n.natAbs).length) = true) :
      Number limits negative (decimalText n.natAbs)
        (.int (signed negative (ofPlainDigits (decimalText n.natAbs)))) := .whole (wholeDigits_decimalText short)
  simp only [ofPlainDigits_decimalText] at number
  unfold writeInt at short ⊢
  by_cases below : n < 0
  · rw [if_pos below] at short ⊢
    have same : signed true n.natAbs = n := by
      simp only [signed, if_true]
      omega
    have negated := @number true short
    rw [same] at negated
    exact .minus negated
  · rw [if_neg below] at short ⊢
    have same : signed false n.natAbs = n := by
      simp only [signed, Bool.false_eq_true, if_false]
      omega
    have plain := @number false short
    rw [same] at plain
    exact .number plain

/-! ## Strings -/

/-- The four hexadecimal digits of a control character are read as that character. -/
private theorem hexUnit_control : ∀ n < 0x20,
    hexUnit? (hexChar (n / 16 / 16 / 16)) (hexChar (n / 16 / 16)) (hexChar (n / 16)) (hexChar n) = some n := by
  decide

/-- A control character that is written by its number. -/
private theorem spells_control {c : Char} {s cs : List Char} (control : c.toNat < 0x20) (spells : Spells s cs) :
    Spells ('\\' :: 'u' :: hexDigits 4 c.toNat ++ s) (c :: cs) := by
  have high : isHighHalf c.toNat = false := by
    simp only [isHighHalf, Bool.and_eq_false_iff, decide_eq_false_iff_not]
    omega
  have low : isLowHalf c.toNat = false := by
    simp only [isLowHalf, Bool.and_eq_false_iff, decide_eq_false_iff_not]
    omega
  have number := Spells.number (hexUnit_control c.toNat control) high low spells
  rwa [Char.ofNat_toNat] at number

/-- What stands for a character inside a string spells it. -/
private theorem spells_escapeChar (c : Char) {s cs : List Char} (spells : Spells s cs) :
    Spells (escapeChar c ++ s) (c :: cs) := by
  unfold escapeChar
  repeat' split
  all_goals first
    | next same =>
      obtain rfl := beq_iff_eq.mp same
      exact .short rfl spells
    | next control => exact spells_control control spells
    | next quote backslash _ _ _ _ _ above =>
      exact .plain (fun same => quote (beq_iff_eq.mpr same)) (fun same => backslash (beq_iff_eq.mpr same))
        (Nat.not_lt.mp above) spells

theorem spells_flatMap (cs : List Char) : Spells (cs.flatMap escapeChar) cs := by
  induction cs with
  | nil => exact .nothing
  | cons c cs ih => exact spells_escapeChar c ih

/-! ## Documents -/

/-- What holds of a container if it holds of its members, and of everything else, holds of all documents. -/
@[elab_as_elim]
theorem induct {motive : Json → Prop} (null : motive .null) (bool : ∀ b, motive (.bool b)) (int : ∀ n, motive (.int n))
    (float : ∀ x, motive (.float x)) (text : ∀ s, motive (.text s))
    (array : ∀ items, (∀ d ∈ items, motive d) → motive (.array items))
    (object : ∀ fields, (∀ field ∈ fields, motive field.2) → motive (.object fields)) (d : Json) : motive d := by
  match d with
  | .null => exact null
  | .bool b => exact bool b
  | .int n => exact int n
  | .float x => exact float x
  | .text s => exact text s
  | .array items => exact array items fun d _ => induct null bool int float text array object d
  | .object fields => exact object fields fun field _ => induct null bool int float text array object field.2
termination_by sizeOf d
decreasing_by
  · next member =>
    have smaller := List.sizeOf_lt_of_mem member
    simp only [Json.array.sizeOf_spec]
    omega
  · next member =>
    have smaller := List.sizeOf_lt_of_mem member
    obtain ⟨name, document⟩ := field
    simp only [Json.object.sizeOf_spec, Prod.mk.sizeOf_spec] at smaller ⊢
    omega

mutual
/-- A document without floating-point numbers. -/
def floatFree : Json → Bool
  | float _ => false
  | array items => itemsFloatFree items
  | object fields => fieldsFloatFree fields
  | _ => true
/-- Documents without floating-point numbers. -/
def itemsFloatFree : List Json → Bool
  | [] => true
  | item :: items => floatFree item && itemsFloatFree items
/-- Fields without floating-point numbers. -/
def fieldsFloatFree : List (String × Json) → Bool
  | [] => true
  | (_, document) :: fields => floatFree document && fieldsFloatFree fields
end

theorem itemsFloatFree_iff {items : List Json} : itemsFloatFree items = true ↔ ∀ d ∈ items, d.floatFree = true := by
  induction items with
  | nil => simp [itemsFloatFree]
  | cons item items ih => simp [itemsFloatFree, ih]

theorem fieldsFloatFree_iff {fields : List (String × Json)} :
    fieldsFloatFree fields = true ↔ ∀ field ∈ fields, field.2.floatFree = true := by
  induction fields with
  | nil => simp [fieldsFloatFree]
  | cons field fields ih => simp [fieldsFloatFree, ih]

mutual
/-- A document that a reader within limits may give where so many containers are open: whole numbers are short enough,
containers that have members are not too deep, and no name is repeated. -/
def Fits (limits : Limits) : (level : Nat) → Json → Prop
  | _, int n => allowed limits.digits (writeInt n).length = true
  | level, array items => (items ≠ [] → allowed limits.depth (level + 1) = true) ∧ FitItems limits (level + 1) items
  | level, object fields => (fields ≠ [] → allowed limits.depth (level + 1) = true) ∧
      (fields.map Prod.fst).Nodup ∧ FitFields limits (level + 1) fields
  | _, _ => True
/-- Items that a reader may give. -/
def FitItems (limits : Limits) : (level : Nat) → List Json → Prop
  | _, [] => True
  | level, item :: items => Fits limits level item ∧ FitItems limits level items
/-- Fields that a reader may give. -/
def FitFields (limits : Limits) : (level : Nat) → List (String × Json) → Prop
  | _, [] => True
  | level, (_, document) :: fields => Fits limits level document ∧ FitFields limits level fields
end

variable {limits : Limits} {level : Nat}

theorem fitItems_iff {items : List Json} : FitItems limits level items ↔ ∀ d ∈ items, Fits limits level d := by
  induction items with
  | nil => simp [FitItems]
  | cons item items ih => simp [FitItems, ih]

theorem fitFields_iff {fields : List (String × Json)} :
    FitFields limits level fields ↔ ∀ field ∈ fields, Fits limits level field.2 := by
  induction fields with
  | nil => simp [FitFields]
  | cons field fields ih => simp [FitFields, ih]

/-! ## Repeated names -/

theorem insertField_new {fields : List (String × α)} {name : String} (new : name ∉ fields.map Prod.fst)
    (document : α) : insertField fields name document = fields ++ [(name, document)] := by
  induction fields with
  | nil => rfl
  | cons field fields ih =>
    obtain ⟨other, former⟩ := field
    rw [List.map_cons, List.mem_cons, not_or] at new
    rw [insertField, if_neg (Ne.symm new.1), ih new.2, List.cons_append]

/-- Fields without a repeated name stay as they are. -/
theorem mergeFields_of_nodup {fields : List (String × α)} (distinct : (fields.map Prod.fst).Nodup) :
    mergeFields fields = fields := by
  have gathered (found rest : List (String × α)) (distinct : ((found ++ rest).map Prod.fst).Nodup) :
      rest.foldl (fun fields pair => insertField fields pair.1 pair.2) found = found ++ rest := by
    induction rest generalizing found with
    | nil => exact (List.append_nil _).symm
    | cons pair rest ih =>
      have new : pair.1 ∉ found.map Prod.fst := by
        rw [List.map_append, List.nodup_append] at distinct
        exact fun old => distinct.2.2 _ old _ (List.mem_cons_self ..) rfl
      rw [List.foldl_cons, insertField_new new, ih _ (by simpa using distinct)]
      simp
  exact gathered [] fields distinct

/-- An old name stays where it is. -/
theorem map_fst_insertField_old {fields : List (String × α)} {name : String} (old : name ∈ fields.map Prod.fst)
    (document : α) : (insertField fields name document).map Prod.fst = fields.map Prod.fst := by
  induction fields with
  | nil => cases old
  | cons field fields ih =>
    obtain ⟨other, former⟩ := field
    rw [insertField]
    split
    · rfl
    · next differs =>
      rw [List.map_cons, List.mem_cons] at old
      rw [List.map_cons, List.map_cons, ih (old.resolve_left (Ne.symm differs))]

private theorem nodup_insertField {fields : List (String × α)} (distinct : (fields.map Prod.fst).Nodup) (name : String)
    (document : α) : ((insertField fields name document).map Prod.fst).Nodup := by
  by_cases old : name ∈ fields.map Prod.fst
  · rwa [map_fst_insertField_old old]
  · rw [insertField_new old, List.map_append, List.nodup_append]
    refine ⟨distinct, by simp, ?_⟩
    intro a member b last same
    rw [List.map_cons, List.map_nil, List.mem_singleton] at last
    rw [same, last] at member
    exact old member

theorem nodup_mergeFields (pairs : List (String × α)) : ((mergeFields pairs).map Prod.fst).Nodup := by
  have gathered (found : List (String × α)) (distinct : (found.map Prod.fst).Nodup) :
      ((pairs.foldl (fun fields pair => insertField fields pair.1 pair.2) found).map Prod.fst).Nodup := by
    induction pairs generalizing found with
    | nil => exact distinct
    | cons pair pairs ih => exact ih _ (nodup_insertField distinct ..)
  exact gathered [] List.nodup_nil

theorem forall_insertField {holds : α → Prop} {fields : List (String × α)}
    (all : ∀ field ∈ fields, holds field.2) (name : String) {document : α} (new : holds document) :
    ∀ field ∈ insertField fields name document, holds field.2 := by
  induction fields with
  | nil => exact List.forall_mem_singleton.mpr new
  | cons field fields ih =>
    obtain ⟨first, rest⟩ := List.forall_mem_cons.mp all
    rw [insertField]
    split
    · exact List.forall_mem_cons.mpr ⟨new, rest⟩
    · exact List.forall_mem_cons.mpr ⟨first, ih rest⟩

/-- What holds of the documents of all fields holds of those that are left. -/
theorem forall_mergeFields {holds : α → Prop} {pairs : List (String × α)}
    (all : ∀ pair ∈ pairs, holds pair.2) : ∀ field ∈ mergeFields pairs, holds field.2 := by
  have gathered (found : List (String × α)) (held : ∀ field ∈ found, holds field.2) :
      ∀ field ∈ pairs.foldl (fun fields pair => insertField fields pair.1 pair.2) found, holds field.2 := by
    induction pairs generalizing found with
    | nil => exact held
    | cons pair pairs ih =>
      obtain ⟨first, rest⟩ := List.forall_mem_cons.mp all
      exact ih rest _ (forall_insertField held _ first)
  exact gathered [] (List.forall_mem_nil _)

/-! ## Texts of documents -/

/-- A style whose marks are a comma and a colon, perhaps with gaps after them. -/
structure Style.Standard (style : Style) : Prop where
  items : ∃ gap, style.itemMark = ',' :: gap ∧ Blank gap
  fields : ∃ gap, style.fieldMark = ':' :: gap ∧ Blank gap

theorem Style.wire_standard : Style.wire.Standard :=
  ⟨⟨[], rfl, List.forall_mem_nil _⟩, ⟨[], rfl, List.forall_mem_nil _⟩⟩

/-- The text of a document is one that the grammar has for it, wherever it fits. -/
def Told (style : Style) (limits : Limits) (d : Json) : Prop :=
  ∀ level, Fits limits level d → Bare limits level (write style d) d

/-- A document that is told by its text is what this text says. -/
theorem Told.parse_render {style : Style} {d : Json} (told : Told style limits d) (fits : Fits limits 0 d) :
    parse? limits (render style d) = some d := by
  rw [parse?_eq_some, Writes, render, String.toList_ofList]
  exact (told 0 fits).padded

section
variable {style : Style} (standard : style.Standard)
include standard

private theorem items_write {item : Json} {items : List Json} (told : ∀ d ∈ item :: items, Told style limits d)
    (fits : FitItems limits level (item :: items)) :
    Items limits level (write style item ++ writeItems style items) (item :: items) := by
  induction items generalizing item with
  | nil =>
    rw [writeItems, List.append_nil]
    exact .last (told item (.head _) level fits.1).padded
  | cons next items ih =>
    obtain ⟨gap, mark, blank⟩ := standard.items
    have tail := ih (fun d member => told d (.tail _ member)) fits.2
    have text : write style item ++ writeItems style (next :: items) =
        write style item ++ ',' :: (gap ++ (write style next ++ writeItems style items)) := by
      rw [writeItems, mark, List.append_assoc, List.cons_append]
    rw [text]
    exact .more (told item (.head _) level fits.1).padded (tail.gap blank)

private theorem entry_write (name : String) {document : Json} (told : Told style limits document)
    (fits : Fits limits level document) :
    Entry limits level (writeString name ++ style.fieldMark ++ write style document) (name, document) := by
  obtain ⟨gap, mark, blank⟩ := standard.fields
  have entry : Entry limits level _ (String.ofList name.toList, document) :=
    .named (List.forall_mem_nil _) (spells_flatMap name.toList) (List.forall_mem_nil _)
      ((told level fits).padded.gap blank)
  have text : writeString name ++ style.fieldMark ++ write style document =
      [] ++ '"' :: (name.toList.flatMap escapeChar ++ '"' :: ([] ++ ':' :: (gap ++ write style document))) := by
    rw [writeString, mark]
    simp only [List.cons_append, List.append_assoc, List.nil_append]
  rw [String.ofList_toList] at entry
  rwa [text]

private theorem entries_write {name : String} {document : Json} {fields : List (String × Json)}
    (told : ∀ field ∈ (name, document) :: fields, Told style limits field.2)
    (fits : FitFields limits level ((name, document) :: fields)) :
    Entries limits level (writeString name ++ style.fieldMark ++ write style document ++ writeFields style fields)
      ((name, document) :: fields) := by
  induction fields generalizing name document with
  | nil =>
    rw [writeFields, List.append_nil]
    exact .last (entry_write standard name (told _ (.head _)) fits.1)
  | cons next fields ih =>
    obtain ⟨following, other⟩ := next
    obtain ⟨gap, mark, blank⟩ := standard.items
    have tail := ih (fun field member => told field (.tail _ member)) fits.2
    have text : writeFields style ((following, other) :: fields) = ',' :: (gap ++
        (writeString following ++ style.fieldMark ++ write style other ++ writeFields style fields)) := by
      rw [writeFields, mark]
      simp only [List.append_assoc, List.cons_append]
    rw [text]
    exact .more (entry_write standard name (told _ (.head _)) fits.1) (tail.gap blank)

private theorem told_array {items : List Json} (told : ∀ d ∈ items, Told style limits d) :
    Told style limits (.array items) := by
  intro level fits
  cases items with
  | nil => exact .emptyArray (List.forall_mem_nil _)
  | cons item items => exact .array (fits.1 nofun) (items_write standard told fits.2)

theorem told_object {fields : List (String × Json)} (told : ∀ field ∈ fields, Told style limits field.2) :
    Told style limits (.object fields) := by
  intro level fits
  cases fields with
  | nil => exact .emptyObject (List.forall_mem_nil _)
  | cons field fields =>
    obtain ⟨name, document⟩ := field
    have bare := Bare.object (fits.1 nofun) (entries_write standard told fits.2.2)
    rw [mergeFields_of_nodup fits.2.1] at bare
    have text : write style (.object ((name, document) :: fields)) = '\x7b' ::
        (writeString name ++ style.fieldMark ++ write style document ++ writeFields style fields ++ ['\x7d']) := by
      simp only [write, List.cons_append]
    rwa [text]

/-- A document without floating-point numbers is told by its text. -/
theorem told_of_floatFree (d : Json) (free : d.floatFree = true) : Told style limits d := by
  induction d using induct with
  | null => exact fun _ _ => .atom (.word (by simp [words, write]))
  | bool b => cases b <;> exact fun _ _ => .atom (.word (by simp [words, write]))
  | int n => exact fun _ fits => .atom (atom_writeInt fits)
  | float x => cases free
  | text s =>
    intro level _
    have bare : Bare limits level _ (.text (String.ofList s.toList)) := .text (spells_flatMap s.toList)
    rwa [String.ofList_toList] at bare
  | array items ih =>
    have free : ∀ d ∈ items, d.floatFree = true := itemsFloatFree_iff.mp free
    exact told_array standard fun d member => ih d member (free d member)
  | object fields ih =>
    have free : ∀ field ∈ fields, field.2.floatFree = true := fieldsFloatFree_iff.mp free
    exact told_object standard fun field member => ih field member (free field member)

/-- A document without floating-point numbers is what its text says. -/
theorem parse_render {d : Json} (free : d.floatFree = true) (fits : Fits limits 0 d) :
    parse? limits (render style d) = some d :=
  (told_of_floatFree standard d free).parse_render fits

end

/-! ## What a reader gives -/

private theorem digit_lt {c : Char} (plain : isPlainDigit c = true) : c.toNat - 0x30 < 10 := by
  simp only [isPlainDigit, Char.le_def, UInt32.le_iff_toNat_le, Bool.and_eq_true, decide_eq_true_eq] at plain
  have bound : c.val.toNat ≤ 57 := plain.2
  show c.val.toNat - 0x30 < 10
  omega

/-- What stands before some digits and the digits themselves come to less than the next number would with zeros. -/
private theorem foldl_digits_lt {digits : List Char} (plain : ∀ c ∈ digits, isPlainDigit c = true) (n : Nat) :
    (digits.map fun c => c.toNat - 0x30).foldl (fun n d => n * 10 + d) n <
      (n + 1) * Nat.pow 10 digits.length := by
  induction digits generalizing n with
  | nil =>
    show n < (n + 1) * 1
    omega
  | cons c digits ih =>
    obtain ⟨first, rest⟩ := List.forall_mem_cons.mp plain
    have small := digit_lt first
    have wider : (n * 10 + (c.toNat - 0x30) + 1) * Nat.pow 10 digits.length ≤
        (n + 1) * 10 * Nat.pow 10 digits.length := Nat.mul_le_mul_right _ (by omega)
    show _ < (n + 1) * (Nat.pow 10 digits.length * 10)
    rw [List.map_cons, List.foldl_cons, Nat.mul_comm (Nat.pow 10 _) 10, ← Nat.mul_assoc]
    exact Nat.lt_of_lt_of_le (ih rest _) wider

/-- Digits that are read as a number are at least as many as are needed to write it. -/
theorem length_decimalText_le {digits : List Char} (plain : ∀ c ∈ digits, isPlainDigit c = true) (some : digits ≠ []) :
    (decimalText (ofPlainDigits digits)).length ≤ digits.length := by
  have small := foldl_digits_lt plain 0
  rw [Nat.zero_add, Nat.one_mul] at small
  exact (Nat.length_toDigits_le_iff (by decide) (List.length_pos_iff.mpr some)).mpr small

theorem allowed_mono {bound : Option Nat} {n k : Nat} (le : n ≤ k) (within : allowed bound k = true) :
    allowed bound n = true := by
  cases bound with
  | none => rfl
  | some most => exact decide_eq_true (Nat.le_trans le (of_decide_eq_true within))

theorem natAbs_signed (negative : Bool) (n : Nat) : (signed negative n).natAbs = n := by
  cases negative <;> simp [signed]

/-- A whole number is written with at most one character more than its digits. -/
theorem length_writeInt_le (n : Int) : (writeInt n).length ≤ (decimalText n.natAbs).length + 1 := by
  unfold writeInt
  split <;> simp

/-- A number is written with at most as many characters as it was read from. -/
theorem length_writeInt_signed_le {digits : List Char} (negative : Bool)
    (plain : ∀ c ∈ digits, isPlainDigit c = true) (some : digits ≠ []) :
    (writeInt (signed negative (ofPlainDigits digits))).length ≤ writtenLength negative digits.length := by
  have short := length_decimalText_le plain some
  cases negative with
  | true =>
    refine Nat.le_trans (length_writeInt_le _) ?_
    rw [natAbs_signed]
    exact Nat.succ_le_succ short
  | false =>
    have above : ¬ signed false (ofPlainDigits digits) < 0 := by simp [signed]
    rw [writeInt, if_neg above]
    exact short

section
variable {s : List Char} {d : Json}

theorem Number.fits {negative : Bool} (number : Number limits negative s d) : Fits limits level d := by
  cases number with
  | whole proper =>
    exact allowed_mono (length_writeInt_signed_le negative proper.digits.2 proper.digits.1) proper.short
  | scaled => trivial

theorem Atom.fits (atom : Atom limits s d) : Fits limits level d := by
  cases atom with
  | word known =>
    simp only [words, List.mem_cons, List.not_mem_nil, or_false, Prod.mk.injEq] at known
    rcases known with ⟨-, rfl⟩ | ⟨-, rfl⟩ | ⟨-, rfl⟩ | ⟨-, rfl⟩ | ⟨-, rfl⟩ | ⟨-, rfl⟩ <;> trivial
  | number number => exact number.fits
  | minus number => exact number.fits

mutual
/-- What a text writes within limits fits them. -/
theorem Bare.fits {level : Nat} {s : List Char} {d : Json} : Bare limits level s d → Fits limits level d
  | .atom atom => atom.fits
  | .text _ => trivial
  | .emptyArray _ => ⟨fun some => absurd rfl some, trivial⟩
  | .array deep holds => ⟨fun _ => deep, holds.fits⟩
  | .emptyObject _ => ⟨fun some => absurd rfl some, List.nodup_nil, trivial⟩
  | .object deep holds => ⟨fun _ => deep, nodup_mergeFields _,
      fitFields_iff.mpr (forall_mergeFields (fitFields_iff.mp holds.fits))⟩
theorem Padded.fits {level : Nat} {s : List Char} {d : Json} : Padded limits level s d → Fits limits level d
  | .around _ bare _ => bare.fits
theorem Items.fits {level : Nat} {s : List Char} {items : List Json} :
    Items limits level s items → FitItems limits level items
  | .last item => ⟨item.fits, trivial⟩
  | .more item onward => ⟨item.fits, onward.fits⟩
theorem Entry.fits {level : Nat} {s : List Char} {field : String × Json} :
    Entry limits level s field → Fits limits level field.2
  | .named _ _ _ padded => padded.fits
theorem Entries.fits {level : Nat} {s : List Char} {fields : List (String × Json)} :
    Entries limits level s fields → FitFields limits level fields
  | .last entry => ⟨entry.fits, trivial⟩
  | .more entry onward => ⟨entry.fits, onward.fits⟩
end

end

theorem fits_of_parse {s : String} {d : Json} (parsed : parse? limits s = some d) : Fits limits 0 d :=
  (parse?_eq_some.mp parsed).fits

/-! ## Reading without limits -/

theorem WholeDigits.unlimited {negative : Bool} {whole : List Char} (proper : WholeDigits limits negative whole) :
    WholeDigits .none negative whole :=
  ⟨proper.digits, proper.front, rfl⟩

theorem Number.unlimited {negative : Bool} {s : List Char} {d : Json} (number : Number limits negative s d) :
    Number .none negative s d := by
  cases number with
  | whole proper => exact .whole proper.unlimited
  | scaled proper divides raises some => exact .scaled proper.unlimited divides raises some

theorem Atom.unlimited {s : List Char} {d : Json} (atom : Atom limits s d) : Atom .none s d := by
  cases atom with
  | word known => exact .word known
  | number number => exact .number number.unlimited
  | minus number => exact .minus number.unlimited

mutual
/-- What a text writes within limits it writes without them. -/
theorem Bare.unlimited {level : Nat} {s : List Char} {d : Json} : Bare limits level s d → Bare .none level s d
  | .atom atom => .atom atom.unlimited
  | .text spells => .text spells
  | .emptyArray blank => .emptyArray blank
  | .array _ holds => .array rfl holds.unlimited
  | .emptyObject blank => .emptyObject blank
  | .object _ holds => .object rfl holds.unlimited
theorem Padded.unlimited {level : Nat} {s : List Char} {d : Json} : Padded limits level s d → Padded .none level s d
  | .around early bare late => .around early bare.unlimited late
theorem Items.unlimited {level : Nat} {s : List Char} {items : List Json} :
    Items limits level s items → Items .none level s items
  | .last item => .last item.unlimited
  | .more item onward => .more item.unlimited onward.unlimited
theorem Entry.unlimited {level : Nat} {s : List Char} {field : String × Json} :
    Entry limits level s field → Entry .none level s field
  | .named early spells late padded => .named early spells late padded.unlimited
theorem Entries.unlimited {level : Nat} {s : List Char} {fields : List (String × Json)} :
    Entries limits level s fields → Entries .none level s fields
  | .last entry => .last entry.unlimited
  | .more entry onward => .more entry.unlimited onward.unlimited
end

/-- Whatever the limits of a reader, it reads the text of a document as that document or not at all; and if it reads
it, the document fits them. -/
theorem fits_of_parse_render {style : Style} (standard : style.Standard) {d other : Json} (free : d.floatFree = true)
    (fits : Fits .none 0 d) (parsed : parse? limits (render style d) = some other) : other = d ∧ Fits limits 0 d := by
  have same : parse? .none (render style d) = some other := parse?_eq_some.mpr (parse?_eq_some.mp parsed).unlimited
  rw [parse_render standard free fits] at same
  cases same
  exact ⟨rfl, fits_of_parse parsed⟩

end ConsumerChannel.Json
