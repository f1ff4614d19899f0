import ConsumerChannel.Value

/-!
The process environment and the placeholders that settings use for it. A placeholder is written
`$`, a brace, a name, an optional default after `:-`, and the closing brace. Text that was put in
for a placeholder is not read again.
-/
namespace ConsumerChannel

/-- The variables of the process. -/
abbrev Environment := List (String × String)

namespace Environment

/-- The value of a variable. -/
def get? (env : Environment) (name : String) : Option String :=
  (env.find? fun pair => pair.1 == name).map Prod.snd

end Environment

/-- A placeholder: the name of a variable and what stands for it if it is not set. -/
structure Placeholder where
  name : List Char
  fallback : Option (List Char)
  deriving DecidableEq, Repr

namespace Placeholder

/-- A character of a variable's name. -/
def isNameChar (c : Char) : Bool := c != '\x7d' && c != ':'

/-- A character of a default. -/
def isFallbackChar (c : Char) : Bool := c != '\x7d'

/-- The written form of a placeholder. -/
def written (p : Placeholder) : List Char :=
  '$' :: '\x7b' :: p.name ++
    (match p.fallback with
      | none => []
      | some text => ':' :: '-' :: text) ++ ['\x7d']

/-- A placeholder off the front of a text, with what follows it. -/
def read? : List Char → Option (Placeholder × List Char)
  | '$' :: '\x7b' :: rest =>
    let name := rest.takeWhile isNameChar
    if name.isEmpty then none
    else
      match rest.dropWhile isNameChar with
      | '\x7d' :: tail => some (⟨name, none⟩, tail)
      | ':' :: '-' :: more =>
        match more.dropWhile isFallbackChar with
        | _ :: tail => some (⟨name, some (more.takeWhile isFallbackChar)⟩, tail)
        | [] => none
      | _ => none
  | _ => none

/-- What stands for a placeholder: the variable's value if it is set, the default if one is written,
and the placeholder itself otherwise. -/
def value (env : Environment) (p : Placeholder) : List Char :=
  match env.get? (String.ofList p.name) with
  | some text => text.toList
  | none => p.fallback.getD p.written

private theorem length_dropWhile_le (p : Char → Bool) (s : List Char) : (s.dropWhile p).length ≤ s.length :=
  (List.dropWhile_sublist p).length_le

/-- What follows a placeholder is shorter than the text that it was read from. -/
private theorem read?_length {s : List Char} {p : Placeholder} {tail : List Char}
    (read : read? s = some (p, tail)) : tail.length < s.length := by
  unfold read? at read
  split at read
  · rename_i rest
    simp only at read
    split at read
    · simp at read
    · have bound := length_dropWhile_le isNameChar rest
      split at read
      · rename_i tail' shape
        simp only [Option.some.injEq, Prod.mk.injEq] at read
        obtain ⟨_, rfl⟩ := read
        rw [shape] at bound
        simp only [List.length_cons] at bound ⊢
        omega
      · rename_i more shape
        have inner := length_dropWhile_le isFallbackChar more
        split at read
        · rename_i tail' shape'
          simp only [Option.some.injEq, Prod.mk.injEq] at read
          obtain ⟨_, rfl⟩ := read
          rw [shape] at bound
          rw [shape'] at inner
          simp only [List.length_cons] at bound inner ⊢
          omega
        · simp at read
      · simp at read
  · simp at read

/-- A text with its placeholders replaced, read from the left. -/
def expand (env : Environment) (s : List Char) : List Char :=
  match _read : read? s with
  | some (p, tail) => p.value env ++ expand env tail
  | none =>
    match s with
    | [] => []
    | c :: rest => c :: expand env rest
termination_by s.length
decreasing_by
  · exact read?_length _read
  · simp

/-- A text of settings with its placeholders replaced. -/
def expandText (env : Environment) (s : String) : String :=
  String.ofList (expand env s.toList)

end Placeholder

namespace Value

mutual
/-- A value with the placeholders of its texts replaced, inside lists and under the keys of
dictionaries, whose keys stay as they are. -/
def expand (env : Environment) : Value → Value
  | text s => text (Placeholder.expandText env s)
  | list items => list (expandItems env items)
  | dict entries => dict (expandEntries env entries)
  | other => other
/-- Each value of a row with its placeholders replaced. -/
def expandItems (env : Environment) : List Value → List Value
  | [] => []
  | v :: rest => expand env v :: expandItems env rest
/-- Each value under a key with its placeholders replaced. -/
def expandEntries (env : Environment) : List (Value × Value) → List (Value × Value)
  | [] => []
  | (k, v) :: rest => (k, expand env v) :: expandEntries env rest
end

mutual
/-- Whether a collection that replacing placeholders goes into is a part of itself. -/
def isEndless : Value → Bool
  | failure (.fault .endless) => true
  | list items => areEndless items
  | dict entries => hasEndless entries
  | _ => false
/-- Whether one of the values of a row is endless. -/
def areEndless : List Value → Bool
  | [] => false
  | v :: rest => isEndless v || areEndless rest
/-- Whether one of the values under keys is endless. -/
def hasEndless : List (Value × Value) → Bool
  | [] => false
  | (_, v) :: rest => isEndless v || hasEndless rest
end

end Value

end ConsumerChannel
