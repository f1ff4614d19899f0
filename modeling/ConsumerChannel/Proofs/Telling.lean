import ConsumerChannel.Proofs.Entries
import ConsumerChannel.Proofs.JsonText
import ConsumerChannel.Proofs.Outcomes
import Mathlib.Data.List.Forall2
import Mathlib.Data.List.Nodup

/-! What the service is told when a consumer is created. The body has the extra entries in their order, and one on
commits if there is none among them; the channel goes by the very entry that the body has. -/
namespace ConsumerChannel

/-- A value that a switch may be set to. -/
def Value.IsSwitch : Value → Prop
  | .null | .bool _ | .int _ | .text _ => True
  | _ => False

namespace Settings

/-- The entries that fields are, with texts for their keys. -/
def named (fields : List (String × Value)) : List (Value × Value) := fields.map fun (name, v) => (.text name, v)

/-- Settings with fields for their extra entries, no two of one name; the one on commits is a switch. -/
structure Configured (settings : Settings) (fields : List (String × Value)) : Prop where
  extra : settings.extra = named fields
  distinct : (fields.map Prod.fst).Nodup
  switch : ∀ v, (autoCommitKey, v) ∈ fields → v.IsSwitch

/-- The fields that a new consumer is given. -/
def sent (fields : List (String × Value)) : List (String × Value) :=
  if autoCommitKey ∈ fields.map Prod.fst then fields else fields ++ [(autoCommitKey, .text "false")]

/-- What the service is told about commits. -/
def told (fields : List (String × Value)) : Value := (fields.lookup autoCommitKey).getD (.text "false")

/-- A field as a body has it: under its name, with its value in the form that values have in bodies. -/
def WrittenAs (field : String × Value) (config : String × Json) : Prop :=
  config.1 = field.1 ∧ field.2.toWire = .ok config.2

/-- A body that gives a new consumer the text of its group and the fields, one after another, among them what is told
about commits. -/
def Tells (settings : Settings) (fields : List (String × Value)) (body : String) : Prop :=
  ∃ group configs, Arguments.filledString settings.group = .ok group ∧
    body = Json.render .wire (.object [("consumerGroup", .text group), ("configs", .object configs)]) ∧
    List.Forall₂ WrittenAs (sent fields) configs ∧
    ∀ d, (autoCommitKey, d) ∈ configs → Value.ofJson d = told fields

section
variable {fields : List (String × Value)} {name : String} {v : Value} {d : Json}
  {configs : List (String × Json)} {settings : Settings}

/-! ## Fields by name -/

theorem field?_named : Value.field? (named fields) name = fields.lookup name := by
  induction fields with
  | nil => rfl
  | cons field rest ih =>
    obtain ⟨other, v⟩ := field
    by_cases same : name = other
    · subst same
      rw [List.lookup_cons_self]
      exact Value.field?_cons_self
    · have apart : Value.text other ≠ .text name := fun named => same (Value.text.inj named).symm
      rw [List.lookup_cons, beq_false_of_ne same, ← ih]
      exact Value.field?_cons_of_ne apart

theorem mem_of_lookup (found : fields.lookup name = some v) : name ∈ fields.map Prod.fst := by
  obtain ⟨before, after, rfl, -⟩ := List.lookup_eq_some_iff.mp found
  simp

theorem lookup_eq_none_iff : fields.lookup name = none ↔ name ∉ fields.map Prod.fst := by
  constructor
  · intro missing known
    obtain ⟨field, member, rfl⟩ := List.mem_map.mp known
    exact bne_iff_ne.mp (List.lookup_eq_none_iff.mp missing field member) rfl
  · intro unknown
    cases found : fields.lookup name with
    | none => rfl
    | some v => exact absurd (mem_of_lookup found) unknown

theorem lookup_eq_some_iff (distinct : (fields.map Prod.fst).Nodup) :
    fields.lookup name = some v ↔ (name, v) ∈ fields := by
  rw [List.lookup_eq_some_iff]
  constructor
  · rintro ⟨before, after, rfl, -⟩
    simp
  · intro member
    obtain ⟨before, after, rfl⟩ := List.append_of_mem member
    refine ⟨before, after, rfl, ?_⟩
    intro field earlier
    rw [List.map_append, List.map_cons, List.nodup_middle, List.nodup_cons] at distinct
    have first : field.1 ∈ before.map Prod.fst := List.mem_map_of_mem earlier
    refine bne_iff_ne.mpr ?_
    rintro rfl
    exact distinct.1 (List.mem_append_left _ first)

/-! ## What is sent -/

private theorem lookup_sent : (sent fields).lookup autoCommitKey = some (told fields) := by
  unfold sent told
  cases found : fields.lookup autoCommitKey with
  | some v =>
    rw [if_pos (mem_of_lookup found), found]
    rfl
  | none =>
    rw [if_neg (lookup_eq_none_iff.mp found), List.lookup_append, found]
    rfl

namespace Configured
variable (configured : Configured settings fields)
include configured

theorem nodup_sent : ((sent fields).map Prod.fst).Nodup := by
  unfold sent
  split
  · exact configured.distinct
  · next unknown =>
    rw [List.map_append, List.nodup_append]
    refine ⟨configured.distinct, List.nodup_singleton _, ?_⟩
    rintro name among _ added rfl
    cases List.mem_singleton.mp added
    exact unknown among

theorem consumerEntries : settings.consumerEntries = named (sent fields) := by
  unfold Settings.consumerEntries
  rw [configured.extra, field?_named]
  cases found : fields.lookup autoCommitKey with
  | some v =>
    rw [sent, if_pos (mem_of_lookup found)]
  | none =>
    rw [sent, if_neg (lookup_eq_none_iff.mp found), named, named, List.map_append]
    rfl

/-- The channel goes by what the service is told. -/
theorem autoCommits : settings.autoCommits = (told fields).saysTrue := by
  unfold Settings.autoCommits
  rw [configured.consumerEntries, field?_named, lookup_sent]
  rfl

/-- The only entry on commits is what is told about them. -/
theorem switch_sent (listed : (autoCommitKey, v) ∈ sent fields) : v = told fields ∧ v.IsSwitch := by
  unfold sent at listed
  split at listed
  · unfold told
    rw [(lookup_eq_some_iff configured.distinct).mpr listed]
    exact ⟨rfl, configured.switch v listed⟩
  · rename_i unknown
    rcases List.mem_append.mp listed with known | added
    · exact absurd (List.mem_map_of_mem known) unknown
    · cases List.mem_singleton.mp added
      unfold told
      rw [lookup_eq_none_iff.mpr unknown]
      exact ⟨rfl, trivial⟩

end Configured

/-! ## What is written -/

/-- A switch is read back as it was written. -/
theorem ofJson_toWire (switch : v.IsSwitch) (written : v.toWire = .ok d) : Value.ofJson d = v := by
  cases v with
  | null | bool _ | int _ | text _ =>
    cases written
    rfl
  | _ => exact switch.elim

private theorem entries_named (fields : List (String × Value)) : Arguments.entries (named fields) = .ok fields := by
  induction fields with
  | nil => rfl
  | cons field rest ih =>
    show Checked.join _ (Arguments.key (.text field.1)) (Arguments.entries (named rest)) = _
    rw [ih]
    rfl

/-- A dictionary of fields with different names is read as these fields. -/
private theorem dictionary_named (distinct : (fields.map Prod.fst).Nodup) :
    Arguments.dictionary (.dict (named fields)) = .ok fields := by
  show (Arguments.entries (named fields)).map Json.mergeFields = .ok fields
  rw [entries_named]
  exact congrArg Except.ok (Json.mergeFields_of_nodup distinct)

private theorem wireFields_named (written : Value.wireFields (named fields) = .ok configs) :
    List.Forall₂ WrittenAs fields configs := by
  induction fields generalizing configs with
  | nil =>
    cases written
    exact .nil
  | cons field rest ih =>
    obtain ⟨name, ⟨⟩, written⟩ := bind_eq_ok_iff.mp written
    obtain ⟨d, wrote, written⟩ := bind_eq_ok_iff.mp written
    obtain ⟨others, further, ⟨⟩⟩ := bind_eq_ok_iff.mp written
    exact .cons ⟨rfl, wrote⟩ (ih further)

/-- A config in the body was written from a field. -/
private theorem exists_field (each : List.Forall₂ WrittenAs fields configs) (member : (name, d) ∈ configs) :
    ∃ v, (name, v) ∈ fields ∧ v.toWire = .ok d := by
  induction each with
  | nil => cases member
  | @cons field _ _ _ first _ ih =>
    rcases List.mem_cons.mp member with rfl | further
    · exact ⟨field.2, List.mem_cons.mpr (.inl (Prod.ext first.1 rfl)), first.2⟩
    · obtain ⟨v, given, wrote⟩ := ih further
      exact ⟨v, .tail _ given, wrote⟩

/-- A body that can be written tells the service the group and the fields. -/
theorem Configured.tells (configured : Configured settings fields) {body : String}
    (written : Channel.creationBody settings = .ok body) : Tells settings fields body := by
  obtain ⟨made, drawn, written⟩ : ∃ made, CreateBody.ofArguments
      [("consumer_group", settings.group), ("configs", .dict settings.consumerEntries)] = .ok made ∧
        made.toText.mapError Failure.fault = .ok body := by
    unfold Channel.creationBody at written
    split at written
    · exact ⟨_, ‹_›, written⟩
    · cases written
  obtain ⟨group, others, grouped, listed, rfl⟩ := Checked.join_eq_ok_iff.mp drawn
  have grouped : Arguments.filledString settings.group = .ok group := Checked.below_eq_ok_iff.mp grouped
  have listed : Arguments.dictionary (.dict settings.consumerEntries) = .ok others := Checked.below_eq_ok_iff.mp listed
  rw [configured.consumerEntries, dictionary_named configured.nodup_sent] at listed
  cases listed
  obtain ⟨configs, wrote, ⟨⟩⟩ := bind_eq_ok_iff.mp (Channel.Operation.mapError_eq_ok written)
  have each := wireFields_named wrote
  refine ⟨group, configs, grouped, rfl, each, ?_⟩
  intro d member
  obtain ⟨v, given, wrote⟩ := exists_field each member
  obtain ⟨rfl, switch⟩ := configured.switch_sent given
  exact ofJson_toWire switch wrote

end

end Settings

end ConsumerChannel
