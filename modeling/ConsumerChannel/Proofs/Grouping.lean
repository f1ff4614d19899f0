import ConsumerChannel.Wire.Records
import Mathlib.Algebra.Ring.Nat
import Mathlib.Data.List.Induction
import Mathlib.Data.List.Nodup

/-! Batches in groups. Putting one more record into its group keeps the groups what they should be, so that in the end
every group is the batch without the records of other keys, and the groups stand in the order in which their keys came
up. What two ways of grouping have to do with each other follows from that alone. -/
namespace ConsumerChannel.Batch

/-! ## What groups should be -/

/-- Groups of records by a key: together they are the records, and each record is in the group of its key and in no
other. -/
structure Partitions {κ : Type} [BEq κ] (key : ConsumedRecord → κ) (records : List ConsumedRecord)
    (groups : List (κ × List ConsumedRecord)) : Prop where
  placed : ∀ r ∈ records, ∃ group ∈ groups, group.1 = key r ∧ r ∈ group.2 ∧
    ∀ other ∈ groups, r ∈ other.2 → other = group
  /-- A group is all records with its key, in the order of arrival and as often as they came. -/
  members : ∀ group ∈ groups, group.2 = records.filter (key · == group.1)
  inhabited : ∀ group ∈ groups, group.2 ≠ []
  /-- The keys stand in the order of their first records. -/
  keys : groups.map Prod.fst = (records.map key).eraseDups
  distinct : (groups.map Prod.fst).Nodup
  whole : (groups.flatMap Prod.snd).Perm records
  size : (groups.map fun group => group.2.length).sum = records.length

section
variable {κ : Type} [BEq κ] {key : ConsumedRecord → κ} {records : List ConsumedRecord}
  {groups : List (κ × List ConsumedRecord)} {k : κ} {ks : List κ} {r : ConsumedRecord}

/-! ## Nothing lost -/

/-- Putting a record into its group loses none and adds no other. -/
private theorem insertInto_perm (groups : List (κ × List ConsumedRecord)) (k : κ) (r : ConsumedRecord) :
    ((insertInto groups k r).flatMap Prod.snd).Perm (groups.flatMap Prod.snd ++ [r]) := by
  fun_induction insertInto groups k r with
  | case1 => exact .refl _
  | case2 k' members rest own =>
    rw [List.flatMap_cons, List.flatMap_cons, List.append_assoc, List.append_assoc]
    exact List.perm_append_comm.append_left members
  | case3 k' members rest other ih =>
    rw [List.flatMap_cons, List.flatMap_cons, List.append_assoc]
    exact ih.append_left members

theorem groupBy_concat :
    groupBy key (records ++ [r]) = insertInto (groupBy key records) (key r) r :=
  List.foldl_append

theorem groupBy_perm (key : ConsumedRecord → κ) (records : List ConsumedRecord) :
    ((groupBy key records).flatMap Prod.snd).Perm records := by
  induction records using List.reverseRecOn with
  | nil => exact .refl _
  | append_singleton records r ih =>
    rw [groupBy_concat]
    exact (insertInto_perm _ _ _).trans (ih.append_right [r])

variable [LawfulBEq κ]

/-! ## First occurrences -/

theorem eraseDups_concat : (ks ++ [k]).eraseDups = if k ∈ ks then ks.eraseDups else ks.eraseDups ++ [k] := by
  rw [List.eraseDups_append]
  by_cases known : k ∈ ks
  · rw [if_pos known, List.removeAll, List.filter_eq_nil_iff.mpr (by simp [known]), List.eraseDups_nil,
      List.append_nil]
  · rw [if_neg known, List.removeAll, List.filter_eq_self.mpr (by simp [known]), List.eraseDups_cons]
    rfl

theorem mem_eraseDups : k ∈ ks.eraseDups ↔ k ∈ ks := by
  induction ks using List.reverseRecOn with
  | nil => exact Iff.rfl
  | append_singleton ks i ih =>
    rw [eraseDups_concat]
    by_cases known : i ∈ ks
    · rw [if_pos known, ih, List.mem_append, List.mem_singleton]
      exact (or_iff_left_of_imp fun same => same ▸ known).symm
    · rw [if_neg known, List.mem_append, List.mem_append, ih]

theorem nodup_eraseDups (ks : List κ) : ks.eraseDups.Nodup := by
  induction ks using List.reverseRecOn with
  | nil => exact List.nodup_nil
  | append_singleton ks i ih =>
    rw [eraseDups_concat]
    by_cases known : i ∈ ks
    · rwa [if_pos known]
    · rw [if_neg known, ← List.concat_eq_append]
      exact ih.concat (mt mem_eraseDups.mp known)

/-- What a map makes of first occurrences comes up in the order in which it comes up at all. -/
theorem eraseDups_map {ι : Type} [BEq ι] [LawfulBEq ι] (f : ι → κ) (is : List ι) :
    (is.map f).eraseDups = (is.eraseDups.map f).eraseDups := by
  induction is using List.reverseRecOn with
  | nil => rfl
  | append_singleton is i ih =>
    have known_map : f i ∈ is.eraseDups.map f ↔ f i ∈ is.map f := by
      rw [← mem_eraseDups, ← ih, mem_eraseDups]
    rw [List.map_append, List.map_singleton, eraseDups_concat, eraseDups_concat]
    by_cases known : i ∈ is
    · rw [if_pos known, if_pos (List.mem_map_of_mem known), ih]
    · rw [if_neg known, List.map_append, List.map_singleton, eraseDups_concat, ih]
      simp only [known_map]

/-! ## One more record -/

/-- The group of a key: all records that have it. -/
def groupOf (key : ConsumedRecord → κ) (records : List ConsumedRecord) (k : κ) : κ × List ConsumedRecord :=
  (k, records.filter (key · == k))

theorem groupOf_concat_self : groupOf key (records ++ [r]) (key r) =
    (key r, (groupOf key records (key r)).2 ++ [r]) := by
  simp [groupOf]

theorem groupOf_concat_of_ne (other : k ≠ key r) : groupOf key (records ++ [r]) k = groupOf key records k := by
  simp [groupOf, Ne.symm other]

/-- Among groups that are what they should be, the group of a known key is the one that changes. -/
private theorem insertInto_of_mem (distinct : ks.Nodup) (known : key r ∈ ks) :
    insertInto (ks.map (groupOf key records)) (key r) r = ks.map (groupOf key (records ++ [r])) := by
  induction ks with
  | nil => cases known
  | cons k ks ih =>
    obtain ⟨fresh, distinct⟩ := List.nodup_cons.mp distinct
    rw [List.map_cons, List.map_cons]
    by_cases own : k = key r
    · subst own
      have others : ks.map (groupOf key records) = ks.map (groupOf key (records ++ [r])) :=
        List.map_congr_left fun i member => (groupOf_concat_of_ne (ne_of_mem_of_not_mem member fresh)).symm
      rw [groupOf_concat_self, ← others]
      exact if_pos BEq.rfl
    · rw [groupOf_concat_of_ne own, ← ih distinct ((List.mem_cons.mp known).resolve_left (Ne.symm own))]
      exact if_neg (mt eq_of_beq own)

private theorem insertInto_of_not_mem (fresh : k ∉ groups.map Prod.fst) :
    insertInto groups k r = groups ++ [(k, [r])] := by
  induction groups with
  | nil => rfl
  | cons group groups ih =>
    obtain ⟨other, fresh⟩ := not_or.mp (mt List.mem_cons.mpr fresh)
    rw [List.cons_append, ← ih fresh]
    exact if_neg (mt eq_of_beq (Ne.symm other))

private theorem insertInto_groups :
    insertInto ((records.map key).eraseDups.map (groupOf key records)) (key r) r =
      ((records ++ [r]).map key).eraseDups.map (groupOf key (records ++ [r])) := by
  rw [List.map_append, List.map_singleton, eraseDups_concat]
  by_cases known : key r ∈ records.map key
  · rw [if_pos known, insertInto_of_mem (nodup_eraseDups _) (mem_eraseDups.mpr known)]
  · have nothing : records.filter (key · == key r) = [] :=
      List.filter_eq_nil_iff.mpr fun s member same =>
        known (List.mem_map.mpr ⟨s, member, eq_of_beq same⟩)
    have others : (records.map key).eraseDups.map (groupOf key (records ++ [r])) =
        (records.map key).eraseDups.map (groupOf key records) :=
      List.map_congr_left fun i member =>
        groupOf_concat_of_ne (ne_of_mem_of_not_mem (mem_eraseDups.mp member) known)
    rw [if_neg known, insertInto_of_not_mem, List.map_append, List.map_singleton, others, groupOf_concat_self,
      groupOf, nothing]
    · rfl
    · rw [List.map_map, show Prod.fst ∘ groupOf key records = id from rfl, List.map_id, mem_eraseDups]
      exact known

/-! ## All records -/

/-- The groups as a whole: one for each key that comes up, with all records of that key. -/
theorem groupBy_eq (key : ConsumedRecord → κ) (records : List ConsumedRecord) :
    groupBy key records = (records.map key).eraseDups.map (groupOf key records) := by
  induction records using List.reverseRecOn with
  | nil => rfl
  | append_singleton records r ih => rw [groupBy_concat, ih, insertInto_groups]

theorem mem_groupBy {group : List ConsumedRecord} :
    (k, group) ∈ groupBy key records ↔ group = records.filter (key · == k) ∧ group ≠ [] := by
  rw [groupBy_eq, List.mem_map]
  constructor
  · rintro ⟨k, member, same⟩
    cases same
    obtain ⟨r, member, own⟩ := List.mem_map.mp (mem_eraseDups.mp member)
    exact ⟨rfl, List.ne_nil_of_mem (List.mem_filter.mpr ⟨member, beq_iff_eq.mpr own⟩)⟩
  · rintro ⟨rfl, some⟩
    obtain ⟨r, member⟩ := List.exists_mem_of_ne_nil _ some
    obtain ⟨member, own⟩ := List.mem_filter.mp member
    exact ⟨k, mem_eraseDups.mpr (List.mem_map.mpr ⟨r, member, eq_of_beq own⟩), rfl⟩

theorem groupBy_keys (key : ConsumedRecord → κ) (records : List ConsumedRecord) :
    (groupBy key records).map Prod.fst = (records.map key).eraseDups := by
  rw [groupBy_eq, List.map_map]
  exact List.map_id _

theorem groupBy_partitions (key : ConsumedRecord → κ) (records : List ConsumedRecord) :
    Partitions key records (groupBy key records) where
  placed r member := by
    have own : r ∈ records.filter (key · == key r) := List.mem_filter.mpr ⟨member, BEq.rfl⟩
    refine ⟨_, mem_groupBy.mpr ⟨rfl, List.ne_nil_of_mem own⟩, rfl, own, ?_⟩
    rintro ⟨k, group⟩ listed held
    obtain ⟨rfl, -⟩ := mem_groupBy.mp listed
    cases eq_of_beq (List.mem_filter.mp held).2
    rfl
  members _ listed := (mem_groupBy.mp listed).1
  inhabited _ listed := (mem_groupBy.mp listed).2
  keys := groupBy_keys key records
  distinct := groupBy_keys key records ▸ nodup_eraseDups _
  whole := groupBy_perm key records
  size := by
    rw [← (groupBy_perm key records).length_eq, List.length_flatMap]

end

/-- Both ways of grouping a batch lose, double and reorder nothing, and the groups by partition are what the groups by
topic fall into. -/
theorem groups_partition_batch (b : Batch) :
    Partitions ConsumedRecord.topic b.records b.byTopic ∧
    Partitions (fun r => (r.topic, r.partition)) b.records b.byPartition ∧
    (∀ topic partition group, ((topic, partition), group) ∈ b.byPartition ↔
      ∃ whole, (topic, whole) ∈ b.byTopic ∧ group = whole.filter (·.partition == partition) ∧ group ≠ []) ∧
    b.byTopic.map Prod.fst = (b.byPartition.map fun group => group.1.1).eraseDups := by
  refine ⟨groupBy_partitions _ _, groupBy_partitions _ _, ?_, ?_⟩
  · intro topic partition group
    have within : b.records.filter (fun r => (r.topic, r.partition) == (topic, partition)) =
        (b.records.filter (·.topic == topic)).filter (·.partition == partition) := by
      rw [List.filter_filter]
      exact List.filter_congr fun r _ => Bool.and_comm _ _
    rw [byPartition, mem_groupBy, within]
    constructor
    · rintro ⟨rfl, some⟩
      exact ⟨_, mem_groupBy.mpr ⟨rfl, fun none => some (by rw [none]; rfl)⟩, rfl, some⟩
    · rintro ⟨whole, listed, rfl, some⟩
      obtain ⟨rfl, -⟩ := mem_groupBy.mp listed
      exact ⟨rfl, some⟩
  · have topics : b.byPartition.map (fun group => group.1.1) = (b.byPartition.map Prod.fst).map Prod.fst :=
      List.map_map.symm
    rw [topics, byTopic, byPartition, groupBy_keys, groupBy_keys, ← eraseDups_map, List.map_map]
    rfl

end ConsumerChannel.Batch
