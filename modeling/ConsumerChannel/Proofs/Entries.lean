import ConsumerChannel.Value

/-! Entries under texts. A text is the same key as itself only, so that what is looked up under a text and what is put
under one go by the very entry. -/
namespace ConsumerChannel

namespace Value
variable {entries : List (Value × Value)} {key v own : Value} {name other : String} {entry : Value × Value} {i : Nat}

theorem sameKey_text_iff : sameKey key (.text name) = true ↔ key = .text name := by
  cases key <;> simp [sameKey, sameLeaf, toRatio?, sameInfinity]

private theorem sameKey_text_of_ne (apart : key ≠ .text name) : sameKey key (.text name) = false :=
  Bool.eq_false_iff.mpr (mt sameKey_text_iff.mp apart)

theorem field?_cons_self : field? ((.text name, v) :: entries) name = some v := by
  simp [field?, entry?, sameKey, sameLeaf]

theorem field?_cons_of_ne (apart : key ≠ .text name) : field? ((key, v) :: entries) name = field? entries name := by
  simp [field?, entry?, sameKey_text_of_ne apart]

theorem field?_isSome_iff : (field? entries name).isSome ↔ .text name ∈ entries.map Prod.fst := by
  simp [field?, entry?, sameKey_text_iff]

theorem insertEntry_cons_self :
    insertEntry ((.text name, own) :: entries) (.text name) v = (.text name, v) :: entries :=
  if_pos (sameKey_text_iff.mpr rfl)

theorem insertEntry_cons_of_ne (apart : key ≠ .text name) :
    insertEntry ((key, own) :: entries) (.text name) v = (key, own) :: insertEntry entries (.text name) v :=
  if_neg (mt sameKey_text_iff.mp apart)

theorem insertEntry_keys :
    (insertEntry entries (.text name) v).map Prod.fst =
      entries.map Prod.fst ++ if (field? entries name).isSome then [] else [.text name] := by
  induction entries with
  | nil => rfl
  | cons entry entries ih =>
    obtain ⟨key, own⟩ := entry
    by_cases named : key = .text name
    · subst named
      rw [insertEntry_cons_self, field?_cons_self]
      simp
    · rw [insertEntry_cons_of_ne named, field?_cons_of_ne named, List.map_cons, ih]
      rfl

theorem field?_insertEntry_self : field? (insertEntry entries (.text name) v) name = some v := by
  induction entries with
  | nil => exact field?_cons_self
  | cons entry entries ih =>
    obtain ⟨key, own⟩ := entry
    by_cases named : key = .text name
    · subst named
      rw [insertEntry_cons_self, field?_cons_self]
    · rw [insertEntry_cons_of_ne named, field?_cons_of_ne named, ih]

/-- All other entries stay, and in their places. -/
theorem insertEntry_keeps (found : entries[i]? = some entry) (apart : entry.1 ≠ .text name) :
    (insertEntry entries (.text name) v)[i]? = some entry := by
  induction entries generalizing i with
  | nil => cases found
  | cons first entries ih =>
    obtain ⟨key, own⟩ := first
    by_cases named : key = .text name
    · subst named
      rw [insertEntry_cons_self]
      cases i with
      | zero =>
        cases found
        exact absurd rfl apart
      | succ i => exact found
    · rw [insertEntry_cons_of_ne named]
      cases i with
      | zero => exact found
      | succ i => exact ih found

theorem field?_insertEntry_of_ne (apart : name ≠ other) :
    field? (insertEntry entries (.text name) v) other = field? entries other := by
  have keys : Value.text name ≠ .text other := fun same => apart (Value.text.inj same)
  induction entries with
  | nil => exact field?_cons_of_ne keys
  | cons entry entries ih =>
    obtain ⟨key, own⟩ := entry
    by_cases named : key = .text name
    · subst named
      rw [insertEntry_cons_self, field?_cons_of_ne keys, field?_cons_of_ne keys]
    · rw [insertEntry_cons_of_ne named]
      by_cases there : key = .text other
      · subst there
        rw [field?_cons_self, field?_cons_self]
      · rw [field?_cons_of_ne there, field?_cons_of_ne there, ih]

theorem field?_map (f : Value → Value) :
    field? (entries.map fun entry => (entry.1, f entry.2)) name = (field? entries name).map f := by
  induction entries with
  | nil => rfl
  | cons entry entries ih =>
    obtain ⟨key, own⟩ := entry
    by_cases named : key = .text name
    · subst named
      rw [List.map_cons, field?_cons_self, field?_cons_self]
      rfl
    · rw [List.map_cons, field?_cons_of_ne named, field?_cons_of_ne named, ih]

end Value

end ConsumerChannel
