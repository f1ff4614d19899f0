import ConsumerChannel.Proofs.JsonText

/-! Documents on one line. A line break inside a string is escaped, and there is none anywhere else, so that what is
written of a document for a log is one line whatever the document holds. -/
namespace ConsumerChannel

/-- Characters with no line break among them. -/
def OneLine (s : List Char) : Prop := ∀ c ∈ s, c ≠ '\n' ∧ c ≠ '\r'

section
variable {s t : List Char} {c : Char}

@[simp] theorem oneLine_nil : OneLine [] := List.forall_mem_nil _

@[simp] theorem oneLine_cons : OneLine (c :: s) ↔ (c ≠ '\n' ∧ c ≠ '\r') ∧ OneLine s := List.forall_mem_cons

@[simp] theorem oneLine_append : OneLine (s ++ t) ↔ OneLine s ∧ OneLine t := List.forall_mem_append

theorem OneLine.of_subset (oneLine : OneLine t) (within : s ⊆ t) : OneLine s := fun c among =>
  oneLine c (within among)

@[simp] theorem oneLine_replicate_zero (k : Nat) : OneLine (List.replicate k '0') := by
  intro c among
  rw [List.eq_of_mem_replicate among]
  decide

@[simp] theorem oneLine_toDigits (n : Nat) : OneLine (Nat.toDigits 10 n) := by
  intro c among
  have digit : c.isDigit = true := Nat.isDigit_of_mem_toDigits (by decide) (by decide) among
  constructor <;> rintro rfl <;> cases digit

end

namespace Binary64

private theorem oneLine_dropZeros {digits : List Char} (oneLine : OneLine digits) : OneLine (dropZeros digits) := by
  refine oneLine.of_subset fun c among => ?_
  rw [dropZeros, List.mem_reverse] at among
  exact List.mem_reverse.mp ((List.dropWhile_sublist _).subset among)

theorem oneLine_searchShortest {closed : Bool} {low high value num den rounds count : Nat} {point : Int} :
    OneLine (searchShortest closed low high value num den point rounds count).digits := by
  induction rounds generalizing count with
  | zero => exact oneLine_nil
  | succ rounds ih =>
    rw [searchShortest]
    dsimp only
    -- First by the side of the point that the grid step is on, then by which end of it is the answer.
    split
    all_goals
      split
      · exact oneLine_dropZeros (oneLine_toDigits _)
      split
      · exact oneLine_dropZeros (oneLine_toDigits _)
      · exact ih

theorem oneLine_layOut {layout : Layout} {d : DecimalForm} (oneLine : OneLine d.digits) :
    OneLine (DecimalForm.layOut layout d) := by
  have sign (e : Int) : (if e < 0 then '-' else '+') ≠ '\n' ∧ (if e < 0 then '-' else '+') ≠ '\r' := by
    split <;> decide
  unfold DecimalForm.layOut
  split
  · split
    · simp [oneLine]
    · have whole : OneLine (d.digits.take d.point.natAbs) := oneLine.of_subset (List.take_subset _ _)
      have tail : OneLine (d.digits.drop d.point.natAbs) := oneLine.of_subset (List.drop_subset _ _)
      dsimp only
      split <;> simp [whole, tail]
  · have exponent (e : Int) : OneLine (padZeros layout.exponentWidth (Nat.toDigits 10 e.natAbs)) := by simp [padZeros]
    dsimp only
    rw [oneLine_append, oneLine_cons, oneLine_cons]
    refine ⟨?_, by decide, sign _, exponent _⟩
    split
    · simp
    · next same => exact same ▸ oneLine
    · next same =>
      rw [same] at oneLine
      simpa using oneLine

end Binary64

namespace Json

theorem oneLine_text (x : Binary64) : OneLine (x.text Binary64.lineLayout).toList := by
  cases x with
  | nan => simp [Binary64.text, Binary64.lineLayout]
  | infinity negative => cases negative <;> simp [Binary64.text, Binary64.lineLayout]
  | finite negative significand exponent canonical =>
    have shortest : OneLine (Binary64.shortest significand exponent).digits := Binary64.oneLine_searchShortest
    have body : OneLine (if significand = 0 then ['0', '.', '0']
        else Binary64.DecimalForm.layOut Binary64.lineLayout (Binary64.shortest significand exponent)) := by
      split
      · simp
      · exact Binary64.oneLine_layOut shortest
    rw [Binary64.text, String.toList_ofList]
    split <;> simp [body]

private theorem oneLine_hexDigits (width n : Nat) : OneLine (Text.hexDigits width n) := by
  have small : ∀ k < 16, Text.hexChar k ≠ '\n' ∧ Text.hexChar k ≠ '\r' := by decide
  have digit (n : Nat) : Text.hexChar n ≠ '\n' ∧ Text.hexChar n ≠ '\r' := by
    have same : Text.hexChar n = Text.hexChar (n % 16) := by simp only [Text.hexChar, Nat.mod_mod]
    rw [same]
    exact small _ (Nat.mod_lt _ (by decide))
  induction width generalizing n with
  | zero => exact oneLine_nil
  | succ width ih => exact oneLine_append.mpr ⟨ih _, List.forall_mem_singleton.mpr (digit n)⟩

/-- A line break inside a string is escaped. -/
private theorem oneLine_escapeChar (c : Char) : OneLine (escapeChar c) := by
  unfold escapeChar
  repeat' split
  all_goals first
    | next above =>
      refine List.forall_mem_singleton.mpr ⟨?_, ?_⟩
      all_goals
        rintro rfl
        exact above (by decide)
    | simp [oneLine_hexDigits]

theorem oneLine_writeString (s : String) : OneLine (writeString s) := by
  have escaped : OneLine (s.toList.flatMap escapeChar) := by
    intro c among
    obtain ⟨original, -, written⟩ := List.mem_flatMap.mp among
    exact oneLine_escapeChar original c written
  simp [writeString, escaped]

@[simp] theorem oneLine_itemMark : OneLine Style.line.itemMark := by simp [Style.line]

@[simp] theorem oneLine_fieldMark : OneLine Style.line.fieldMark := by simp [Style.line]

theorem oneLine_writeItems {items : List Json} (each : ∀ d ∈ items, OneLine (write .line d)) :
    OneLine (writeItems .line items) := by
  induction items with
  | nil => exact oneLine_nil
  | cons item items ih =>
    obtain ⟨first, others⟩ := List.forall_mem_cons.mp each
    simp [writeItems, first, ih others]

private theorem oneLine_writeFields {fields : List (String × Json)}
    (each : ∀ field ∈ fields, OneLine (write .line field.2)) : OneLine (writeFields .line fields) := by
  induction fields with
  | nil => exact oneLine_nil
  | cons field fields ih =>
    obtain ⟨first, others⟩ := List.forall_mem_cons.mp each
    simp [writeFields, oneLine_writeString, first, ih others]

/-- Whatever a document holds, it is written without line breaks. -/
theorem oneLine_write (d : Json) : OneLine (write .line d) := by
  induction d using induct with
  | null => simp [write]
  | bool b => cases b <;> simp [write]
  | int n =>
    rw [write, writeInt, Text.decimalText]
    split <;> simp
  | float x => exact oneLine_text x
  | text s => exact oneLine_writeString s
  | array items ih =>
    cases items with
    | nil => simp [write]
    | cons item items =>
      obtain ⟨first, others⟩ := List.forall_mem_cons.mp ih
      simp [write, first, oneLine_writeItems others]
  | object fields ih =>
    cases fields with
    | nil => simp [write]
    | cons field fields =>
      obtain ⟨first, others⟩ := List.forall_mem_cons.mp ih
      simp [write, oneLine_writeString, first, oneLine_writeFields others]

end Json

end ConsumerChannel
