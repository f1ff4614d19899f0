import ConsumerChannel.Environment
import Mathlib.Logic.ExistsUnique

/-! Placeholders in texts and in values. There is one way to split a text into placeholders and characters that are
copied, and the environment has no part in it: it only decides what takes the place of each placeholder, so that text
which was put in is never looked at again. A value keeps its shape, and its texts change so and not otherwise. -/
namespace ConsumerChannel

namespace Placeholder

/-! ## Splitting a text -/

/-- A placeholder that a text can write: the name is there and ends at the first brace or colon, and the default at
the first brace. -/
structure Proper (p : Placeholder) : Prop where
  named : p.name ≠ []
  name : ∀ c ∈ p.name, c ≠ '\x7d' ∧ c ≠ ':'
  fallback : ∀ text, p.fallback = some text → ∀ c ∈ text, c ≠ '\x7d'

/-- A text begins with a placeholder. -/
def Begins (s : List Char) : Prop := ∃ p : Placeholder, ∃ tail, p.Proper ∧ s = p.written ++ tail

/-- What a text is made of. -/
inductive Piece where
  | placeholder (p : Placeholder)
  | copied (c : Char)

/-- A text is made of these pieces, read from the left: a character is copied only where no placeholder begins, and
reading goes on behind a placeholder. -/
inductive Splits : List Char → List Piece → Prop where
  | done : Splits [] []
  | placeholder {p : Placeholder} {tail : List Char} {pieces : List Piece} (proper : p.Proper)
    (onward : Splits tail pieces) : Splits (p.written ++ tail) (.placeholder p :: pieces)
  | copied {c : Char} {rest : List Char} {pieces : List Piece} (plain : ¬ Begins (c :: rest))
    (onward : Splits rest pieces) : Splits (c :: rest) (.copied c :: pieces)

/-- What takes the place of a placeholder: the variable's value, even an empty one; otherwise the default, even an empty
one; and the placeholder itself if neither is there. -/
inductive Gives (env : Environment) (p : Placeholder) : List Char → Prop where
  | set {text : String} (found : env.get? (String.ofList p.name) = some text) : Gives env p text.toList
  | fallback {text : List Char} (unset : env.get? (String.ofList p.name) = none) (written : p.fallback = some text) :
    Gives env p text
  | itself (unset : env.get? (String.ofList p.name) = none) (bare : p.fallback = none) : Gives env p p.written

/-- A text is put together from what each piece gives. -/
inductive Fills (env : Environment) : List Piece → List Char → Prop where
  | done : Fills env [] []
  | placeholder {p : Placeholder} {text out : List Char} {pieces : List Piece} (gives : Gives env p text)
    (onward : Fills env pieces out) : Fills env (.placeholder p :: pieces) (text ++ out)
  | copied {c : Char} {out : List Char} {pieces : List Piece} (onward : Fills env pieces out) :
    Fills env (.copied c :: pieces) (c :: out)

/-- A text has a placeholder for a variable. -/
def Occurs (name : String) (s : List Char) : Prop :=
  ∃ pieces p, Splits s pieces ∧ .placeholder p ∈ pieces ∧ String.ofList p.name = name

/-! ## Reading placeholders -/

section
variable {env other : Environment} {p : Placeholder} {s tail rest text out : List Char} {pieces others : List Piece}
  {c : Char}

/-- A run of characters is told from what follows it by the first character that stops it. -/
private theorem span_run {inside : Char → Bool} {run : List Char} (c : Char) (rest : List Char)
    (all : ∀ c ∈ run, inside c = true) (stops : inside c = false) :
    (run ++ c :: rest).takeWhile inside = run ∧ (run ++ c :: rest).dropWhile inside = c :: rest := by
  rw [List.takeWhile_append_of_pos all, List.dropWhile_append_of_pos all,
    List.takeWhile_cons_of_neg (by simp [stops]), List.dropWhile_cons_of_neg (by simp [stops])]
  exact ⟨List.append_nil run, rfl⟩

theorem Proper.isNameChar (proper : p.Proper) : ∀ c ∈ p.name, isNameChar c = true := by
  intro c member
  obtain ⟨brace, colon⟩ := proper.name c member
  simp [Placeholder.isNameChar, brace, colon]

theorem Proper.isFallbackChar (proper : p.Proper) (written : p.fallback = some text) :
    ∀ c ∈ text, isFallbackChar c = true := fun c member => bne_iff_ne.mpr (proper.fallback text written c member)

/-- A placeholder is read back from its written form. -/
theorem read?_written (proper : p.Proper) (tail : List Char) : read? (p.written ++ tail) = some (p, tail) := by
  obtain ⟨name, fallback⟩ := p
  have filled : name.isEmpty = false := List.isEmpty_eq_false_iff.mpr proper.named
  cases fallback with
  | none =>
    obtain ⟨taken, left⟩ := span_run '\x7d' tail proper.isNameChar rfl
    simp [written, read?, taken, left, filled]
  | some text =>
    obtain ⟨taken, left⟩ := span_run ':' ('-' :: (text ++ '\x7d' :: tail)) proper.isNameChar rfl
    obtain ⟨inner, behind⟩ := span_run '\x7d' tail (proper.isFallbackChar rfl) rfl
    simp [written, read?, taken, left, filled, inner, behind]

/-- A run that stops was followed by the character that stops it. -/
private theorem run_of_stop {inside : Char → Bool} {stop : Char} (ends : s.dropWhile inside = stop :: rest) :
    (∀ c ∈ s.takeWhile inside, inside c = true) ∧ inside stop = false ∧ s = s.takeWhile inside ++ stop :: rest := by
  refine ⟨List.all_eq_true.mp List.all_takeWhile, ?_, ?_⟩
  · have head := List.head?_dropWhile_not inside s
    rwa [ends] at head
  · rw [← ends, List.takeWhile_append_dropWhile]

private theorem name_of_isNameChar {name : List Char} (all : ∀ c ∈ name, isNameChar c = true) :
    ∀ c ∈ name, c ≠ '\x7d' ∧ c ≠ ':' := by
  intro c member
  simpa [isNameChar] using all c member

/-- What is read is a placeholder in its written form. -/
theorem written_of_read? (read : read? s = some (p, tail)) : p.Proper ∧ s = p.written ++ tail := by
  unfold read? at read
  split at read
  · next rest =>
    dsimp only at read
    split at read
    · cases read
    · next filled =>
      have named : rest.takeWhile isNameChar ≠ [] := fun empty => filled (List.isEmpty_iff.mpr empty)
      split at read
      · next closing =>
        cases read
        obtain ⟨inName, -, apart⟩ := run_of_stop closing
        exact ⟨⟨named, name_of_isNameChar inName, nofun⟩, by simpa [written] using apart⟩
      · next more closing =>
        obtain ⟨inName, -, apart⟩ := run_of_stop closing
        split at read
        · next stop _ ending =>
          cases read
          obtain ⟨inFallback, stops, inner⟩ := run_of_stop ending
          have brace : stop = '\x7d' := by simpa [isFallbackChar] using stops
          refine ⟨⟨named, name_of_isNameChar inName, ?_⟩, ?_⟩
          · rintro _ ⟨⟩ c member
            exact bne_iff_ne.mp (inFallback c member)
          · rw [inner, brace] at apart
            simpa [written] using apart
        · cases read
      · cases read
  · cases read

theorem read?_eq_none : read? s = none ↔ ¬ Begins s := by
  constructor
  · rintro none ⟨p, tail, proper, rfl⟩
    cases none.symm.trans (read?_written proper tail)
  · intro plain
    cases read : read? s with
    | none => rfl
    | some found => exact absurd ⟨found.1, found.2, written_of_read? read⟩ plain

/-! ## The one way to split -/

theorem Splits.of_read (splits : Splits s pieces) (read : read? s = some (p, tail)) :
    ∃ others, pieces = .placeholder p :: others ∧ Splits tail others := by
  cases splits with
  | done => cases read
  | placeholder proper onward =>
    cases (read?_written proper _).symm.trans read
    exact ⟨_, rfl, onward⟩
  | copied plain onward => cases (read?_eq_none.mpr plain).symm.trans read

theorem Splits.of_plain (splits : Splits (c :: rest) pieces) (plain : read? (c :: rest) = none) :
    ∃ others, pieces = .copied c :: others ∧ Splits rest others := by
  generalize whole : c :: rest = s at splits
  cases splits with
  | done => cases whole
  | placeholder proper onward =>
    rw [whole, read?_written proper] at plain
    cases plain
  | copied none onward =>
    cases whole
    exact ⟨_, rfl, onward⟩

theorem Splits.of_nil (splits : Splits [] pieces) : pieces = [] := by
  generalize nothing : [] = s at splits
  cases splits with
  | done => rfl
  | placeholder proper onward => cases nothing
  | copied plain onward => cases nothing

theorem exists_splits (s : List Char) : ∃ pieces, Splits s pieces := by
  induction s using expand.induct with
  | case1 s p tail read ih =>
    obtain ⟨pieces, onward⟩ := ih
    obtain ⟨proper, rfl⟩ := written_of_read? read
    exact ⟨_, .placeholder proper onward⟩
  | case2 read => exact ⟨[], .done⟩
  | case3 c rest plain ih =>
    obtain ⟨pieces, onward⟩ := ih
    exact ⟨_, .copied (read?_eq_none.mp plain) onward⟩

theorem Splits.unique (splits : Splits s pieces) (again : Splits s others) : others = pieces := by
  induction s using expand.induct generalizing pieces others with
  | case1 s p tail read ih =>
    obtain ⟨first, rfl, onward⟩ := splits.of_read read
    obtain ⟨second, rfl, further⟩ := again.of_read read
    rw [ih onward further]
  | case2 read => rw [splits.of_nil, again.of_nil]
  | case3 c rest plain ih =>
    obtain ⟨first, rfl, onward⟩ := splits.of_plain plain
    obtain ⟨second, rfl, further⟩ := again.of_plain plain
    rw [ih onward further]

/-! ## What a text becomes -/

theorem expand_nil (env : Environment) : expand env [] = [] := by
  rw [expand]
  rfl

private theorem expand_of_read (env : Environment) (read : read? s = some (p, tail)) :
    expand env s = p.value env ++ expand env tail := by
  rw [expand]
  split
  · next found =>
    cases read.symm.trans found
    rfl
  · next none => cases read.symm.trans none

theorem expand_of_plain (env : Environment) (plain : ¬ Begins (c :: rest)) :
    expand env (c :: rest) = c :: expand env rest := by
  rw [expand]
  split
  · next found => cases (read?_eq_none.mpr plain).symm.trans found
  · rfl

theorem expand_written (env : Environment) (proper : p.Proper) (tail : List Char) :
    expand env (p.written ++ tail) = p.value env ++ expand env tail := expand_of_read env (read?_written proper tail)

/-- Where no placeholder begins, characters are copied, also those of a placeholder that is not well written. -/
theorem expand_copied (env : Environment) {front : List Char}
    (plain : ∀ before after, front = before ++ after → after ≠ [] → ¬ Begins (after ++ rest)) :
    expand env (front ++ rest) = front ++ expand env rest := by
  induction front with
  | nil => rfl
  | cons c front ih =>
    have here : ¬ Begins (c :: (front ++ rest)) := plain [] (c :: front) rfl (List.cons_ne_nil _ _)
    have further := ih fun before after whole => plain (c :: before) after (congrArg (c :: ·) whole)
    rw [List.cons_append, expand_of_plain env here, further, List.cons_append]

private theorem gives_value (env : Environment) (p : Placeholder) : Gives env p (p.value env) := by
  unfold value
  cases found : env.get? (String.ofList p.name) with
  | some text => exact .set found
  | none =>
    cases written : p.fallback with
    | some text => exact .fallback found written
    | none => exact .itself found written

theorem Gives.eq_value (gives : Gives env p text) : text = p.value env := by
  unfold value
  cases gives with
  | set found => rw [found]
  | fallback unset written => rw [unset, written, Option.getD_some]
  | itself unset bare => rw [unset, bare, Option.getD_none]

/-- A text becomes what its pieces give. -/
theorem Splits.fills (splits : Splits s pieces) : Fills env pieces (expand env s) := by
  induction splits with
  | done =>
    rw [expand_nil]
    exact .done
  | placeholder proper onward ih =>
    rw [expand_written env proper]
    exact .placeholder (gives_value env _) ih
  | copied plain onward ih =>
    rw [expand_of_plain env plain]
    exact .copied ih

theorem Fills.unique (fills : Fills env pieces out) (again : Fills env pieces text) : text = out := by
  induction fills generalizing text with
  | done =>
    cases again
    rfl
  | placeholder gives onward ih =>
    cases again with
    | placeholder regives further => rw [gives.eq_value, regives.eq_value, ih further]
  | copied onward ih =>
    cases again with
    | copied further => rw [ih further]

theorem expand_eq_iff : expand env s = out ↔ ∃ pieces, Splits s pieces ∧ Fills env pieces out := by
  constructor
  · rintro rfl
    obtain ⟨pieces, splits⟩ := exists_splits s
    exact ⟨pieces, splits, splits.fills⟩
  · rintro ⟨pieces, splits, fills⟩
    exact fills.unique splits.fills

/-- Only the variables that a text has placeholders for matter to it. -/
theorem expand_congr (same : ∀ name, Occurs name s → env.get? name = other.get? name) :
    expand env s = expand other s := by
  obtain ⟨pieces, splits⟩ := exists_splits s
  have alike : ∀ p, .placeholder p ∈ pieces → p.value env = p.value other := by
    intro p member
    unfold value
    rw [same _ ⟨pieces, p, splits, member, rfl⟩]
  clear same
  induction splits with
  | done => rw [expand_nil, expand_nil]
  | placeholder proper onward ih =>
    rw [expand_written env proper, expand_written other proper, alike _ (.head _),
      ih fun p member => alike p (.tail _ member)]
  | copied plain onward ih =>
    rw [expand_of_plain env plain, expand_of_plain other plain, ih fun p member => alike p (.tail _ member)]

end

end Placeholder

namespace Value
open Placeholder

/-! ## Values -/

/-- A value that is kept as it is, whatever it holds. -/
def Kept : Value → Prop
  | text _ | list _ | dict _ => False
  | _ => True

/-- What becomes of a value: texts are put together anew; a list keeps its length and a dictionary its keys in their
order, and each member is replaced by what becomes of it; everything else stays. -/
inductive Expands (env : Environment) : Value → Value → Prop where
  | text {s t : String} {pieces : List Piece} (splits : Splits s.toList pieces) (fills : Fills env pieces t.toList) :
    Expands env (.text s) (.text t)
  | list {items others : List Value} (length : others.length = items.length)
    (each : ∀ (i : Nat) v w, items[i]? = some v → others[i]? = some w → Expands env v w) :
    Expands env (.list items) (.list others)
  | dict {entries others : List (Value × Value)} (keys : others.map Prod.fst = entries.map Prod.fst)
    (each : ∀ (i : Nat) a b, entries[i]? = some a → others[i]? = some b → Expands env a.2 b.2) :
    Expands env (.dict entries) (.dict others)
  | other {v : Value} (kept : v.Kept) : Expands env v v

/-- A text of a value has a placeholder for a variable. -/
inductive Mentions (name : String) : Value → Prop where
  | text {s : String} (occurs : Occurs name s.toList) : Mentions name (.text s)
  | list {items : List Value} {v : Value} (member : v ∈ items) (mentions : Mentions name v) :
    Mentions name (.list items)
  | dict {entries : List (Value × Value)} {key v : Value} (member : (key, v) ∈ entries) (mentions : Mentions name v) :
    Mentions name (.dict entries)

/-- What holds of lists and dictionaries if it holds of their members, and of everything else, holds of all values. -/
@[elab_as_elim]
theorem induct {motive : Value → Prop} (text : ∀ s, motive (.text s))
    (list : ∀ items, (∀ v ∈ items, motive v) → motive (.list items))
    (dict : ∀ entries, (∀ entry ∈ entries, motive entry.2) → motive (.dict entries))
    (other : ∀ v, v.Kept → motive v) (v : Value) : motive v := by
  match v with
  | .text s => exact text s
  | .list items => exact list items fun v _ => induct text list dict other v
  | .dict entries => exact dict entries fun entry _ => induct text list dict other entry.2
  | .null | .bool _ | .int _ | .float _ | .bytes _ | .byteArray _ | .decimal _ | .date _ | .dateTime _ | .path _
  | .tuple _ | .set _ | .frozenSet _ | .category _ | .failure _ => exact other _ trivial
termination_by sizeOf v
decreasing_by
  · next member =>
    have smaller := List.sizeOf_lt_of_mem member
    simp only [Value.list.sizeOf_spec]
    omega
  · next member =>
    have smaller := List.sizeOf_lt_of_mem member
    obtain ⟨key, value⟩ := entry
    simp only [Value.dict.sizeOf_spec, Prod.mk.sizeOf_spec] at smaller ⊢
    omega

section
variable {env other : Environment} {v w : Value}

theorem expandItems_eq_map (env : Environment) (items : List Value) :
    expandItems env items = items.map (expand env) := by
  induction items with
  | nil => rfl
  | cons v rest ih => rw [expandItems, ih, List.map_cons]

theorem expandEntries_eq_map (env : Environment) (entries : List (Value × Value)) :
    expandEntries env entries = entries.map fun entry => (entry.1, entry.2.expand env) := by
  induction entries with
  | nil => rfl
  | cons entry rest ih =>
    obtain ⟨key, v⟩ := entry
    rw [expandEntries, ih, List.map_cons]

theorem Kept.expand (kept : v.Kept) (env : Environment) : v.expand env = v := by
  cases v with
  | text | list | dict => exact kept.elim
  | _ => rfl

private theorem expands_expand (env : Environment) (v : Value) : Expands env v (v.expand env) := by
  induction v using induct with
  | text s =>
    have becomes : Placeholder.expand env s.toList = (expandText env s).toList := String.toList_ofList.symm
    obtain ⟨pieces, splits, fills⟩ := expand_eq_iff.mp becomes
    exact .text splits fills
  | list items each =>
    rw [Value.expand, expandItems_eq_map]
    refine .list (List.length_map _) ?_
    intro i v w before after
    rw [List.getElem?_map, before, Option.map_some] at after
    cases after
    exact each v (List.mem_of_getElem? before)
  | dict entries each =>
    rw [Value.expand, expandEntries_eq_map]
    refine .dict (by rw [List.map_map]; rfl) ?_
    intro i a b before after
    rw [List.getElem?_map, before, Option.map_some] at after
    cases after
    exact each a (List.mem_of_getElem? before)
  | other v kept =>
    rw [kept.expand]
    exact .other kept

theorem Expands.eq_expand (expands : Expands env v w) : w = v.expand env := by
  induction expands with
  | text splits fills =>
    rw [Value.expand, expandText, expand_eq_iff.mpr ⟨_, splits, fills⟩, String.ofList_toList]
  | @list items others length each ih =>
    rw [Value.expand, expandItems_eq_map]
    refine congrArg Value.list (List.ext_getElem (by rw [length, List.length_map]) ?_)
    intro i late early
    have within : i < items.length := length ▸ late
    rw [List.getElem_map]
    exact ih i _ _ (List.getElem?_eq_getElem within) (List.getElem?_eq_getElem late)
  | @dict entries others keys each ih =>
    rw [Value.expand, expandEntries_eq_map]
    have length : others.length = entries.length := by simpa using congrArg List.length keys
    refine congrArg Value.dict (List.ext_getElem (by rw [length, List.length_map]) ?_)
    intro i late early
    have within : i < entries.length := length ▸ late
    have key : others[i].1 = entries[i].1 := by
      have same := congrArg (·[i]?) keys
      simpa [late, within] using same
    rw [List.getElem_map]
    exact Prod.ext key (ih i _ _ (List.getElem?_eq_getElem within) (List.getElem?_eq_getElem late))
  | other kept => exact (kept.expand env).symm

/-- Only the variables that a value mentions matter to it. -/
theorem expand_congr (same : ∀ name, Mentions name v → env.get? name = other.get? name) :
    v.expand env = v.expand other := by
  induction v using induct with
  | text s =>
    rw [Value.expand, Value.expand, expandText, expandText,
      Placeholder.expand_congr fun name occurs => same name (.text occurs)]
  | list items each =>
    rw [Value.expand, Value.expand, expandItems_eq_map, expandItems_eq_map]
    exact congrArg Value.list (List.map_congr_left fun v member =>
      each v member fun name mentions => same name (.list member mentions))
  | dict entries each =>
    rw [Value.expand, Value.expand, expandEntries_eq_map, expandEntries_eq_map]
    exact congrArg Value.dict (List.map_congr_left fun entry member =>
      congrArg (Prod.mk entry.1) (each entry member fun name mentions => same name (.dict member mentions)))
  | other v kept => rw [kept.expand, kept.expand]

/-- Every text has one way to be split, and in every environment a value becomes exactly what its pieces give, in the
same shape. What was put in is not read again; where no placeholder begins characters are copied, and those behind them
are still found; and environments that agree on the variables that a value mentions make the same of it. -/
theorem placeholders_are_filled_in_place (v : Value) :
    (∀ s, ∃! pieces, Splits s pieces) ∧
    (∀ env w, v.expand env = w ↔ Expands env v w) ∧
    (∀ env p text tail, p.Proper → Gives env p text →
      Placeholder.expand env (p.written ++ tail) = text ++ Placeholder.expand env tail) ∧
    (∀ env front rest, (∀ before after, front = before ++ after → after ≠ [] → ¬ Begins (after ++ rest)) →
      Placeholder.expand env (front ++ rest) = front ++ Placeholder.expand env rest) ∧
    ∀ env other : Environment, (∀ name, Mentions name v → env.get? name = other.get? name) →
      v.expand env = v.expand other := by
  refine ⟨fun s => ?_, fun env w => ⟨?_, ?_⟩, ?_, fun env front rest plain => expand_copied env plain,
    fun env other same => expand_congr same⟩
  · obtain ⟨pieces, splits⟩ := exists_splits s
    exact ⟨pieces, splits, fun others again => splits.unique again⟩
  · rintro rfl
    exact expands_expand env v
  · exact fun expands => expands.eq_expand.symm
  · intro env p text tail proper gives
    rw [gives.eq_value, expand_written env proper]

/-- Text that was put in, an empty default, a variable without a value, and a placeholder inside one that is not well
written. -/
example :
    Placeholder.expandText [("A", "$\x7bB\x7d"), ("B", "b")] "$\x7bA\x7d, $\x7bC:-\x7d, $\x7bC\x7d, $\x7bC:$\x7bB\x7d" =
      "$\x7bB\x7d, , $\x7bC\x7d, $\x7bC:b" := by cbv

end

end Value

end ConsumerChannel
