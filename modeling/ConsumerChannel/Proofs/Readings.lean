import ConsumerChannel.Wire.Bodies

/-! What checked readings accept: a created consumer always has a name, and the topics of a body are
exactly the texts of what it was made of. -/
namespace ConsumerChannel

theorem bind_eq_ok_iff {ε : Type} {a : Except ε α} {f : α → Except ε β} {y : β} :
    (a >>= f) = .ok y ↔ ∃ x, a = .ok x ∧ f x = .ok y := by
  cases a <;> simp [bind, Except.bind]

theorem map_eq_ok_iff {ε : Type} {a : Except ε α} {f : α → β} {y : β} :
    Except.map f a = .ok y ↔ ∃ x, a = .ok x ∧ f x = y := by
  cases a <;> simp [Except.map]

namespace Checked
variable {a : Checked α} {b : Checked β}

theorem below_eq_ok_iff {place : Place} {x : α} : below place a = .ok x ↔ a = .ok x := by
  cases a <;> simp [below]

theorem join_eq_ok_iff {f : α → β → γ} {z : γ} :
    join f a b = .ok z ↔ ∃ x y, a = .ok x ∧ b = .ok y ∧ f x y = z := by
  cases a <;> cases b <;> simp [join]

theorem row_eq_ok {items : List (Checked α)} {index : Int} {xs : List α}
    (read : row index items = .ok xs) : items = xs.map .ok := by
  induction items generalizing index xs with
  | nil =>
    cases read
    rfl
  | cons item rest ih =>
    obtain ⟨x, ys, head, tail, rfl⟩ := join_eq_ok_iff.mp read
    rw [below_eq_ok_iff.mp head, ih tail]
    rfl

theorem row_ok (index : Int) (xs : List α) : row index (xs.map .ok) = .ok xs := by
  induction xs generalizing index with
  | nil => rfl
  | cons x rest ih =>
    simp only [List.map_cons, row, ih]
    rfl

/-- Each result of a row was read from one of the items. -/
theorem forall_row {δ : Type} {reader : δ → Checked α} {index : Int} {items : List δ} {xs : List α}
    (read : row index (items.map reader) = .ok xs) : ∀ x ∈ xs, ∃ item ∈ items, reader item = .ok x := by
  intro x member
  have result : Except.ok x ∈ items.map reader := by
    rw [row_eq_ok read]
    exact List.mem_map_of_mem member
  exact List.mem_map.mp result

/-- What is read back one by one is read back as a row. -/
theorem row_of_forall {δ : Type} {reader : δ → Checked α} {write : α → δ} (index : Int) {xs : List α}
    (back : ∀ x ∈ xs, reader (write x) = .ok x) : row index ((xs.map write).map reader) = .ok xs := by
  have rows : (xs.map write).map reader = xs.map .ok := List.map_map.trans (List.map_congr_left back)
  rw [rows, row_ok]

end Checked

namespace Schema
variable {fields : List (String × Json)} {names : String × String}

theorem filledString_ne_empty {d : Json} {s : String} (read : filledString d = .ok s) : s ≠ "" := by
  unfold filledString at read
  cases text : string d with
  | error issues => simp [text, bind, Except.bind] at read
  | ok t =>
    by_cases blank : t = ""
    · simp [text, bind, Except.bind, blank, Checked.refuse] at read
    · simp only [text, bind, Except.bind, blank, ↓reduceIte, pure, Except.pure, Except.ok.injEq] at read
      rwa [← read]

theorem filledString_text {s : String} (filled : s ≠ "") : filledString (.text s) = .ok s := if_neg filled

theorem object_eq_ok {reader : List (String × Json) → Checked α} {d : Json} {x : α} (read : object reader d = .ok x) :
    ∃ fields, d = .object fields ∧ reader fields = .ok x := by
  cases d with
  | object fields => exact ⟨fields, rfl, read⟩
  | _ => cases read

theorem list_eq_ok {reader : Json → Checked α} {d : Json} {xs : List α} (read : list reader d = .ok xs) :
    ∃ items, d = .array items ∧ ∀ x ∈ xs, ∃ item ∈ items, reader item = .ok x := by
  cases d with
  | array items => exact ⟨items, rfl, Checked.forall_row read⟩
  | _ => cases read

theorem dictionary_eq_ok {d : Json} (read : dictionary d = .ok fields) : d = .object fields := by
  cases d with
  | object found => exact congrArg _ (Except.ok.inj read)
  | _ => cases read

/-- A field that was read is one of the fields, or left out. -/
theorem field_eq_ok {absent : Checked α} {reader : Json → Checked α} {x : α}
    (read : field names absent reader fields = .ok x) :
    absent = .ok x ∨ ∃ name d, Json.lookup? fields name = some d ∧ reader d = .ok x := by
  have read := Checked.below_eq_ok_iff.mp read
  split at read
  · next d found => exact .inr ⟨_, d, found, read⟩
  · split at read
    · next d found => exact .inr ⟨_, d, found, read⟩
    · exact .inl read

/-- A field that has to be there was read by its reader. -/
theorem required_eq_ok {reader : Json → Checked α} {x : α} (read : required names reader fields = .ok x) :
    ∃ name d, Json.lookup? fields name = some d ∧ reader d = .ok x :=
  (field_eq_ok read).resolve_left nofun

theorem optional_eq_ok {default : α} {reader : Json → Checked α} {x : α}
    (read : optional names default reader fields = .ok x) :
    x = default ∨ ∃ name d, Json.lookup? fields name = some d ∧ reader d = .ok x :=
  (field_eq_ok read).imp_left fun same => (Except.ok.inj same).symm

end Schema

/-- The service cannot name a consumer with an empty text. -/
theorem CreatedConsumer.id_ne_empty {text : String} {created : CreatedConsumer}
    (read : CreatedConsumer.ofText text = .ok created) : created.id ≠ "" := by
  unfold CreatedConsumer.ofText Batch.readText at read
  cases parsed : Json.parse? .service text with
  | none => simp [parsed, Checked.refuse] at read
  | some document =>
    rw [parsed] at read
    cases document with
    | object fields =>
      obtain ⟨id, found, rfl⟩ := map_eq_ok_iff.mp read
      obtain ⟨_, d, -, filled⟩ := Schema.required_eq_ok found
      exact Schema.filledString_ne_empty filled
    | _ => cases read

namespace Arguments

theorem required_eq_ok {arguments : Arguments} {names : String × String} {reader : Value → Checked α} {x : α}
    (given : arguments.required names reader = .ok x) : ∃ v, reader v = .ok x := by
  unfold required at given
  split at given
  · exact ⟨_, Checked.below_eq_ok_iff.mp given⟩
  · cases Checked.below_eq_ok_iff.mp given

theorem filledString_eq_ok_iff {v : Value} {s : String} :
    filledString v = .ok s ↔ string v = .ok s ∧ s ≠ "" := by
  unfold filledString
  cases read : string v with
  | error issues => simp [bind, Except.bind]
  | ok t =>
    by_cases blank : t = ""
    · simp [bind, Except.bind, Checked.refuse, blank]
    · simp only [bind, Except.bind, blank, ↓reduceIte, pure, Except.pure, Except.ok.injEq]
      exact ⟨fun same => ⟨same, same ▸ blank⟩, And.left⟩

/-- A text that has to be filled is. -/
theorem filled_of_required {arguments : Arguments} {names : String × String} {s : String}
    (given : arguments.required names filledString = .ok s) : s ≠ "" := by
  obtain ⟨v, read⟩ := required_eq_ok given
  exact (filledString_eq_ok_iff.mp read).2

/-- The texts that values are or stand for, one by one. -/
def Texts (values : List Value) (names : List String) : Prop := values.map string = names.map .ok

theorem texts_of_text (names : List String) : Texts (names.map .text) names := List.map_map

/-- Values stand for one row of texts only. -/
theorem Texts.unique {values : List Value} {names others : List String} (texts : Texts values names)
    (again : Texts values others) : others = names :=
  (List.map_inj_right fun _ _ => Except.ok.inj).mp (again.symm.trans texts)

end Arguments

/-- A body of topics is made of the texts of what it is given. -/
theorem TopicsBody.ofArguments_eq_ok_iff {items : List Value} {names : List String} :
    TopicsBody.ofArguments [("topics", .list items)] = .ok ⟨names⟩ ↔ Arguments.Texts items names := by
  constructor
  · intro made
    obtain ⟨found, given, same⟩ := map_eq_ok_iff.mp made
    cases same
    exact Checked.row_eq_ok (Checked.below_eq_ok_iff.mp given)
  · intro texts
    show Except.map TopicsBody.mk (Checked.below (.field "topics")
      (Checked.row 0 (items.map Arguments.string))) = .ok ⟨names⟩
    rw [texts, Checked.row_ok]
    rfl

end ConsumerChannel
