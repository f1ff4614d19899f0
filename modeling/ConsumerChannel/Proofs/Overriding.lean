import ConsumerChannel.Proofs.Entries
import ConsumerChannel.Proofs.Placeholders
import ConsumerChannel.Proofs.Secrecy
import ConsumerChannel.Settings.File
import Mathlib.Data.List.Nodup

/-! What the environment has to say of a settings file. One variable changes one entry, in its place or at the end, and
leaves all others; so do all three in a row, as they are for different entries. Where they say everything that the
settings take from these entries, the file has no say in them. -/
namespace ConsumerChannel

namespace SettingsFile

/-! ## One variable and several -/

/-- Entries with the one that a variable is for, if it is set. -/
def put (env : Environment) (entries : List (Value × Value)) (row : String × String) : List (Value × Value) :=
  match env.get? row.2 with
  | some s => Value.insertEntry entries (.text row.1) (.text s)
  | none => entries

/-- What variables make of entries: each that is set, also to nothing, gives the text of its entry, as it stands. -/
structure Overridden (env : Environment) (rows : List (String × String)) (entries result : List (Value × Value)) :
    Prop where
  /-- Keys keep their places, and new ones follow. -/
  keys : result.map Prod.fst = entries.map Prod.fst ++
    (rows.filter fun row => (env.get? row.2).isSome && (Value.field? entries row.1).isNone).map (Value.text ·.1)
  set : ∀ row ∈ rows, ∀ s, env.get? row.2 = some s → Value.field? result row.1 = some (.text s)
  kept : ∀ (i : Nat) (entry : Value × Value), entries[i]? = some entry →
    (∀ row ∈ rows, (env.get? row.2).isSome → entry.1 ≠ .text row.1) → result[i]? = some entry

variable {env : Environment} {row : String × String} {rows : List (String × String)}
  {entries result : List (Value × Value)} {name s : String}

theorem put_of_some (given : env.get? row.2 = some s) :
    put env entries row = Value.insertEntry entries (.text row.1) (.text s) := by
  rw [put, given]

private theorem put_of_none (unset : env.get? row.2 = none) : put env entries row = entries := by
  rw [put, unset]

theorem field?_put_of_ne (apart : row.1 ≠ name) :
    Value.field? (put env entries row) name = Value.field? entries name := by
  unfold put
  split
  · exact Value.field?_insertEntry_of_ne apart
  · rfl

theorem field?_foldl_put (apart : name ∉ rows.map Prod.fst) :
    Value.field? (rows.foldl (put env) entries) name = Value.field? entries name := by
  induction rows generalizing entries with
  | nil => rfl
  | cons row rows ih =>
    obtain ⟨own, apart⟩ := not_or.mp (mt List.mem_cons.mpr apart)
    rw [List.foldl_cons, ih apart, field?_put_of_ne (Ne.symm own)]

/-- One more variable in front of others that are for other entries. -/
theorem Overridden.cons (fresh : row.1 ∉ rows.map Prod.fst)
    (rest : Overridden env rows (put env entries row) result)
    (own : Value.field? result row.1 = Value.field? (put env entries row) row.1) :
    Overridden env (row :: rows) entries result := by
  have others : ∀ r ∈ rows, Value.field? (put env entries row) r.1 = Value.field? entries r.1 := fun r member =>
    field?_put_of_ne (ne_of_mem_of_not_mem (List.mem_map_of_mem member) fresh).symm
  have added : (rows.filter fun r => (env.get? r.2).isSome && (Value.field? (put env entries row) r.1).isNone) =
      rows.filter fun r => (env.get? r.2).isSome && (Value.field? entries r.1).isNone :=
    List.filter_congr fun r member => by rw [others r member]
  have keys := rest.keys
  rw [added] at keys
  cases given : env.get? row.2 with
  | none =>
    rw [put_of_none given] at rest keys
    refine ⟨?_, ?_, ?_⟩
    · rw [keys, List.filter_cons_of_neg (by simp [given])]
    · intro r member s found
      obtain rfl | member := List.mem_cons.mp member
      · cases given.symm.trans found
      · exact rest.set r member s found
    · exact fun i entry found apart => rest.kept i entry found fun r member => apart r (List.mem_cons_of_mem _ member)
  | some s =>
    rw [put_of_some given] at rest own keys
    refine ⟨?_, ?_, ?_⟩
    · rw [keys, Value.insertEntry_keys, List.append_assoc]
      cases there : Value.field? entries row.1 with
      | some _ => simp [there]
      | none => simp [there, given]
    · intro r member s' found
      obtain rfl | member := List.mem_cons.mp member
      · cases given.symm.trans found
        rw [own, Value.field?_insertEntry_self]
      · exact rest.set r member s' found
    · intro i entry found apart
      have other : entry.1 ≠ .text row.1 := apart row List.mem_cons_self (by rw [given]; rfl)
      exact rest.kept i entry (Value.insertEntry_keeps found other) fun r member =>
        apart r (List.mem_cons_of_mem _ member)

private theorem overridden_foldl (distinct : (rows.map Prod.fst).Nodup) :
    Overridden env rows entries (rows.foldl (put env) entries) := by
  induction rows generalizing entries with
  | nil => exact ⟨(List.append_nil _).symm, nofun, fun _ _ found _ => found⟩
  | cons row rows ih =>
    obtain ⟨fresh, distinct⟩ := List.nodup_cons.mp distinct
    exact .cons fresh (ih distinct) (field?_foldl_put fresh)

theorem override_eq (env : Environment) (entries : List (Value × Value)) :
    override env entries = overrides.foldl (put env) entries := rfl

theorem overridden_override (env : Environment) (entries : List (Value × Value)) :
    Overridden env overrides entries (override env entries) :=
  overridden_foldl (by decide)

/-! ## Files -/

/-- A document has a section with these entries, or one that is left empty. -/
def SectionOf (entries written : List (Value × Value)) : Prop :=
  Value.field? entries sectionName = some (.dict written) ∨
    Value.field? entries sectionName = some .null ∧ written = []

/-- The file at a path is a document with such a section. -/
def HasSection (files : FileSystem) (path : String) (written : List (Value × Value)) : Prop :=
  ∃ entries, document (files.find? path) = .ok (.dict entries) ∧ SectionOf entries written

/-- The file at a path is a document in which a collection holds itself. -/
def Endless (files : FileSystem) (path : String) : Prop :=
  ∃ v, document (files.find? path) = .ok v ∧ v.isEndless = true

variable {files otherFiles : FileSystem} {path : String} {written rewritten : List (Value × Value)}

private theorem sectionIn_dict {v : Value} (found : Value.field? entries sectionName = some v) :
    sectionIn (.dict entries) = .ok v := by
  have present : (entries.map Prod.fst).any (Value.sameKey · (.text sectionName)) = true := by
    have key := Value.field?_isSome_iff.mp (Option.isSome_of_eq_some found)
    exact List.any_eq_true.mpr ⟨_, key, Value.sameKey_text_iff.mpr rfl⟩
  simp only [sectionIn, hasSection, Value.members?, present, found, Option.getD_some]
  rfl

private theorem expand_dict (env : Environment) (entries : List (Value × Value)) :
    Value.expand env (.dict entries) = .dict (entries.map fun entry => (entry.1, entry.2.expand env)) := by
  rw [Value.expand, Value.expandEntries_eq_map]

private theorem entriesOf_dict (finite : (Value.dict entries).isEndless = false) (found : SectionOf entries written) :
    entriesOf env (.dict entries) = .ok (override env (written.map fun entry => (entry.1, entry.2.expand env))) := by
  unfold entriesOf
  rw [expand_dict, finite]
  obtain found | ⟨found, rfl⟩ := found
  · have inner := (Value.field?_map (Value.expand env)).trans (congrArg (Option.map _) found)
    rw [Option.map_some, expand_dict] at inner
    rw [sectionIn_dict inner]
    cases written <;> rfl
  · have inner := (Value.field?_map (Value.expand env)).trans (congrArg (Option.map _) found)
    rw [sectionIn_dict inner]
    rfl

private theorem loadSection_of_hasSection (found : HasSection files path written) (finite : ¬ Endless files path) :
    loadSection env files path =
      (.ok (.dict (override env (written.map fun entry => (entry.1, entry.2.expand env)))),
        [record Level.info ("Loading configuration from file: " ++ FilePath.normalize path) []]) := by
  obtain ⟨entries, reads, sections⟩ := found
  have ends : (Value.dict entries).isEndless = false :=
    Bool.eq_false_iff.mpr fun endless => finite ⟨_, reads, endless⟩
  unfold loadSection
  cases there : files.find? path with
  | none =>
    rw [there] at reads
    cases reads
    obtain found | ⟨found, -⟩ := sections <;> cases found
  | some tree =>
    rw [there] at reads
    simp only [reads, bind, Except.bind, entriesOf_dict ends sections]
    rfl

end SettingsFile

/-- Settings take their address from one of two entries, the second only where the first gives none. -/
theorem Settings.ofSection_congr_base {entries others : List (Value × Value)} {s : String} (given : s ≠ "")
    (base : Value.field? entries "base_url" = some (.text s))
    (same : ∀ name, name ≠ "base" → Value.field? others name = Value.field? entries name) :
    ofSection (.dict others) = ofSection (.dict entries) := by
  have truthy : Value.truthy (.text s) = true := bne_iff_ne.mpr given
  have rebase : Value.field? others "base_url" = some (.text s) := (same _ (by decide)).trans base
  unfold ofSection
  simp (disch := decide) only [base, rebase, same, orElse, truthy, Option.getD_some, if_true]

namespace SettingsFile

/-- Whether a document has a section with one entry and nothing else. -/
def isPlainDocument (name : String) (holds : Value → Bool) : Except Fault Value → Bool
  | .ok (.dict [(.text a, .dict [(.text b, v)])]) => a = sectionName && b = name && holds v
  | _ => false

theorem document_of_isPlainDocument (text name : String) (holds : Value → Bool)
    (decodes : Text.decodeStrict? (Text.encode text) = some text)
    (reads : isPlainDocument name holds (Yaml.read text) = true) :
    ∃ v, document ((Channel.workingBeside (Text.encode text)).find? "c") =
      .ok (.dict [(.text sectionName, .dict [(.text name, v)])]) ∧ holds v = true := by
  unfold isPlainDocument at reads
  split at reads
  · next a b v read =>
    simp only [Bool.and_eq_true, decide_eq_true_eq] at reads
    obtain ⟨⟨rfl, rfl⟩, held⟩ := reads
    refine ⟨v, ?_, held⟩
    rw [Channel.find?_workingBeside, document, decodes]
    simp only [read]
    rfl
  · cases reads

/-- An environment in which all three variables are set. -/
def allSet : Environment :=
  [("CHANNEL_BASE_URL", "u"), ("CHANNEL_CONSUMER_GROUP", "g"), ("CHANNEL_VERIFY_CERT_BUNDLE", "b")]

theorem allSet_filled : ∀ row ∈ overrides, ∃ s, allSet.get? row.2 = some s ∧ s ≠ "" := by
  simp only [overrides, List.forall_mem_cons]
  exact ⟨⟨"u", rfl, by decide⟩, ⟨"g", rfl, by decide⟩, ⟨"b", rfl, by decide⟩, nofun⟩

end SettingsFile

end ConsumerChannel
