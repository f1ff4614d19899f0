import ConsumerChannel.Proofs.JsonText
import ConsumerChannel.Proofs.Readings
import Mathlib.Algebra.Group.Nat.Defs

/-! What goes over the wire reads back as what was sent. A consumed batch and the three short bodies each have one
document that stands for them: it is what they are written as, it stays within the limits of the reader, and it is
read as them. -/
namespace ConsumerChannel
open Json

/-! ## Documents as values -/

namespace Value

private theorem wireItems_ofJsonItems {items : List Json} (kept : ∀ d ∈ items, toWire (ofJson d) = .ok d) :
    wireItems (ofJsonItems items) = .ok items := by
  induction items with
  | nil => rfl
  | cons item items ih =>
    obtain ⟨first, rest⟩ := List.forall_mem_cons.mp kept
    rw [ofJsonItems, wireItems, first, ih rest]
    rfl

private theorem wireFields_ofJsonFields {fields : List (String × Json)}
    (kept : ∀ field ∈ fields, toWire (ofJson field.2) = .ok field.2) :
    wireFields (ofJsonFields fields) = .ok fields := by
  induction fields with
  | nil => rfl
  | cons field fields ih =>
    obtain ⟨first, rest⟩ := List.forall_mem_cons.mp kept
    rw [ofJsonFields, wireFields, wireKey, first, ih rest]
    rfl

/-- A document without floating-point numbers is sent as it was read. -/
theorem toWire_ofJson {d : Json} (free : d.floatFree = true) : toWire (ofJson d) = .ok d := by
  induction d using Json.induct with
  | float x => cases free
  | array items ih =>
    have free : ∀ d ∈ items, d.floatFree = true := itemsFloatFree_iff.mp free
    rw [ofJson, toWire, wireItems_ofJsonItems fun d member => ih d member (free d member)]
    rfl
  | object fields ih =>
    have free : ∀ field ∈ fields, field.2.floatFree = true := fieldsFloatFree_iff.mp free
    rw [ofJson, toWire, wireFields_ofJsonFields fun field member => ih field member (free field member)]
    rfl
  | _ => rfl

mutual
/-- A value with a form of its own in JSON: nothing, truth values, whole numbers that are written with not too many
characters, texts, lists, and dictionaries whose keys are different texts, nested at most so deep. -/
def Simple : (depth : Nat) → Value → Prop
  | _, null => True
  | _, bool _ => True
  | _, int n => (Json.writeInt n).length ≤ Numeral.digitLimit
  | _, text _ => True
  | depth + 1, list items => SimpleItems depth items
  | depth + 1, dict entries => (entries.map Prod.fst).Nodup ∧ SimpleEntries depth entries
  | _, _ => False
/-- Values of a list that have a form in JSON. -/
def SimpleItems : (depth : Nat) → List Value → Prop
  | _, [] => True
  | depth, v :: rest => Simple depth v ∧ SimpleItems depth rest
/-- Entries of a dictionary that have a form in JSON. -/
def SimpleEntries : (depth : Nat) → List (Value × Value) → Prop
  | _, [] => True
  | depth, (k, v) :: rest => (∃ name, k = text name) ∧ Simple depth v ∧ SimpleEntries depth rest
end

/-- A value stands for a document without floating-point numbers that fits the reader, where so many containers may
be open at most. -/
def StandsFor (v : Value) (depth : Nat) (d : Json) : Prop :=
  v = ofJson d ∧ d.floatFree = true ∧ ∀ level, level + depth ≤ 200 → Fits .service level d

theorem Simple.exists_leaf {v : Value} (leaf : v.Simple 0) : ∃ d, ∀ depth, v.StandsFor depth d := by
  cases v with
  | null => exact ⟨.null, fun _ => ⟨rfl, rfl, fun _ _ => trivial⟩⟩
  | bool b => exact ⟨.bool b, fun _ => ⟨rfl, rfl, fun _ _ => trivial⟩⟩
  | int n => exact ⟨.int n, fun _ => ⟨rfl, rfl, fun _ _ => decide_eq_true leaf⟩⟩
  | text s => exact ⟨.text s, fun _ => ⟨rfl, rfl, fun _ _ => trivial⟩⟩
  | _ => exact leaf.elim

theorem Simple.cases {depth : Nat} {v : Value} (simple : v.Simple (depth + 1)) :
    (∃ items, v = .list items ∧ SimpleItems depth items) ∨
      (∃ entries, v = .dict entries ∧ (entries.map Prod.fst).Nodup ∧ SimpleEntries depth entries) ∨ v.Simple 0 := by
  cases v with
  | list items => exact .inl ⟨items, rfl, simple⟩
  | dict entries => exact .inr (.inl ⟨entries, rfl, simple⟩)
  | _ => exact .inr (.inr simple)

section
variable {depth : Nat} (each : ∀ v : Value, v.Simple depth → ∃ d, v.StandsFor depth d)
include each

theorem SimpleItems.exists_json {items : List Value} (simple : SimpleItems depth items) :
    ∃ ds, items = ofJsonItems ds ∧ itemsFloatFree ds = true ∧
      ∀ level, level + depth ≤ 200 → FitItems .service level ds := by
  induction items with
  | nil => exact ⟨[], rfl, rfl, fun _ _ => trivial⟩
  | cons v items ih =>
    obtain ⟨d, rfl, free, fits⟩ := each v simple.1
    obtain ⟨ds, rfl, others, row⟩ := ih simple.2
    refine ⟨d :: ds, rfl, ?_, fun level deep => ⟨fits level deep, row level deep⟩⟩
    rw [itemsFloatFree, free, others]
    rfl

theorem SimpleEntries.exists_json {entries : List (Value × Value)} (simple : SimpleEntries depth entries) :
    ∃ fields, entries = ofJsonFields fields ∧ fieldsFloatFree fields = true ∧
      ∀ level, level + depth ≤ 200 → FitFields .service level fields := by
  induction entries with
  | nil => exact ⟨[], rfl, rfl, fun _ _ => trivial⟩
  | cons entry entries ih =>
    obtain ⟨k, v⟩ := entry
    obtain ⟨⟨name, rfl⟩, value, rest⟩ := simple
    obtain ⟨d, rfl, free, fits⟩ := each v value
    obtain ⟨fields, rfl, others, row⟩ := ih rest
    refine ⟨(name, d) :: fields, rfl, ?_, fun level deep => ⟨fits level deep, row level deep⟩⟩
    rw [fieldsFloatFree, free, others]
    rfl

end

private theorem map_fst_ofJsonFields (fields : List (String × Json)) :
    (ofJsonFields fields).map Prod.fst = (fields.map Prod.fst).map text := by
  induction fields with
  | nil => rfl
  | cons field fields ih => rw [ofJsonFields, List.map_cons, List.map_cons, List.map_cons, ih]

/-- Every simple value stands for a document. -/
theorem Simple.exists_json {depth : Nat} {v : Value} (simple : v.Simple depth) : ∃ d, v.StandsFor depth d := by
  induction depth generalizing v with
  | zero =>
    obtain ⟨d, stands⟩ := simple.exists_leaf
    exact ⟨d, stands 0⟩
  | succ depth ih =>
    have each : ∀ v : Value, v.Simple depth → ∃ d, v.StandsFor depth d := fun v => ih
    rcases simple.cases with ⟨items, rfl, simple⟩ | ⟨entries, rfl, distinct, simple⟩ | leaf
    · obtain ⟨ds, rfl, free, fits⟩ := SimpleItems.exists_json each simple
      refine ⟨.array ds, rfl, free, fun level deep => ⟨fun _ => decide_eq_true ?_, fits (level + 1) ?_⟩⟩ <;> omega
    · obtain ⟨fields, rfl, free, fits⟩ := SimpleEntries.exists_json each simple
      rw [map_fst_ofJsonFields] at distinct
      have names : (fields.map Prod.fst).Nodup :=
        (List.pairwise_map.mp distinct).imp fun different same => different (congrArg text same)
      refine ⟨.object fields, rfl, free, fun level deep => ⟨fun _ => decide_eq_true ?_, names, fits (level + 1) ?_⟩⟩ <;>
        omega
    · obtain ⟨d, stands⟩ := leaf.exists_leaf
      exact ⟨d, stands _⟩

theorem simpleEntries_of_forall {depth : Nat} {configs : List (String × Value)}
    (simple : ∀ config ∈ configs, config.2.Simple depth) :
    SimpleEntries depth (configs.map fun (n, v) => (text n, v)) := by
  induction configs with
  | nil => trivial
  | cons config configs ih =>
    obtain ⟨first, others⟩ := List.forall_mem_cons.mp simple
    exact ⟨⟨_, rfl⟩, first, ih others⟩

theorem eq_map_of_ofJsonFields {configs : List (String × Value)} {fields : List (String × Json)}
    (same : (configs.map fun (n, v) => (text n, v)) = ofJsonFields fields) :
    configs = fields.map fun (n, d) => (n, ofJson d) := by
  induction configs generalizing fields with
  | nil =>
    cases fields with
    | nil => rfl
    | cons field fields => cases same
  | cons config configs ih =>
    cases fields with
    | nil => cases same
    | cons field fields =>
      obtain ⟨n, v⟩ := config
      obtain ⟨name, d⟩ := field
      obtain ⟨head, tail⟩ := List.cons.inj same
      obtain ⟨rfl, rfl⟩ : n = name ∧ v = ofJson d := by
        obtain ⟨key, value⟩ := Prod.mk.inj head
        exact ⟨Value.text.inj key, value⟩
      rw [List.map_cons, ← ih tail]

end Value

/-! ## Whole numbers -/

namespace Schema

theorem fits_lookup {limits : Limits} {level : Nat} {fields : List (String × Json)}
    (fits : FitFields limits level fields) {name : String} {d : Json}
    (found : lookup? fields name = some d) : Fits limits level d := by
  obtain ⟨field, among, rfl⟩ := Option.map_eq_some_iff.mp found
  exact fitFields_iff.mp fits field (List.mem_of_find?_eq_some among)

/-- A row of digits is not empty, and has nothing else in it. -/
theorem digitRow_plain {after : Bool} {s digits : List Char} (row : Numeral.digitRow? after s = some digits) :
    (∀ c ∈ digits, Text.isPlainDigit c = true) ∧ (after = false → digits ≠ []) := by
  induction s generalizing after digits with
  | nil =>
    cases after with
    | false => cases row
    | true =>
      cases row
      exact ⟨List.forall_mem_nil _, nofun⟩
  | cons c s ih =>
    unfold Numeral.digitRow? at row
    split at row
    · next digit =>
      obtain ⟨rest, others, rfl⟩ := Option.map_eq_some_iff.mp row
      exact ⟨List.forall_mem_cons.mpr ⟨digit, (ih others).1⟩, fun _ => List.cons_ne_nil _ _⟩
    · split at row
      · exact ⟨(ih row).1, fun _ => (ih row).2 rfl⟩
      · cases row

private theorem wholeDigits_plain {s digits : List Char} (whole : wholeDigits? s = some digits) :
    (∀ c ∈ digits, Text.isPlainDigit c = true) ∧ digits ≠ [] := by
  have row : Numeral.digitRow? false (s.takeWhile (· != '.')) = some digits := by
    unfold wholeDigits? at whole
    split at whole
    · exact whole
    · split at whole
      · exact whole
      · cases whole
  exact ⟨(digitRow_plain row).1, (digitRow_plain row).2 rfl⟩

/-- Whatever a whole number is read from, it is short enough to be read again. -/
theorem integer_fits {level : Nat} {d : Json} {n : Int} (fits : Fits .service level d) (read : integer d = .ok n) :
    Fits .service level (.int n) := by
  cases d with
  | int k =>
    cases read
    exact fits
  | bool b =>
    cases read
    cases b
    · show allowed Limits.service.digits (writeInt 0).length = true
      decide
    · show allowed Limits.service.digits (writeInt 1).length = true
      decide
  | float x =>
    simp only [integer] at read
    split at read
    · cases read
    · split at read
      · cases read
      · split at read
        · next small =>
          cases read
          have digits : (Text.decimalText n.natAbs).length ≤ 19 :=
            (Nat.length_toDigits_le_iff (by decide) (by decide)).mpr (Nat.lt_trans small (by decide))
          have written : (writeInt n).length ≤ 20 := Nat.le_trans (length_writeInt_le n) (Nat.succ_le_succ digits)
          exact decide_eq_true (Nat.le_trans written (by decide))
        · cases read
  | text s =>
    simp only [integer, integerText] at read
    split at read
    · cases read
    · next digits whole =>
      split at read
      · cases read
      · next short =>
        cases read
        obtain ⟨plain, some⟩ := wholeDigits_plain whole
        exact decide_eq_true (Nat.le_trans (length_writeInt_signed_le _ plain some) (Nat.le_of_not_lt short))
  | _ => cases read

end Schema

/-! ## Consumed records -/

namespace ConsumedRecord

/-- A record that can be read again where it was read. -/
structure Rereads (r : ConsumedRecord) : Prop where
  headers : Fits .service 4 (.object r.headers)
  partition : Fits .service 3 (.int r.partition)
  offset : Fits .service 3 (.int r.offset)

private theorem readMessage_fits {d : Json} {headers : List (String × Json)} {payload : String}
    (fits : Fits .service 3 d)
    (read : readMessage d = .ok (headers, payload)) : Fits .service 4 (.object headers) := by
  obtain ⟨fields, rfl, read⟩ := Schema.object_eq_ok read
  obtain ⟨_, _, found, -, same⟩ := Checked.join_eq_ok_iff.mp read
  cases same
  rcases Schema.optional_eq_ok found with rfl | ⟨name, document, among, was⟩
  · exact ⟨fun some => absurd rfl some, List.nodup_nil, trivial⟩
  · rw [← Schema.dictionary_eq_ok was]
    exact Schema.fits_lookup fits.2.2 among

theorem read_rereads {d : Json} {r : ConsumedRecord} (fits : Fits .service 2 d) (read : read d = .ok r) :
    r.Rereads := by
  obtain ⟨fields, rfl, read⟩ := Schema.object_eq_ok read
  obtain ⟨⟨origin, headers, payload⟩, ⟨partition, offset⟩, contents, place, rfl⟩ := Checked.join_eq_ok_iff.mp read
  obtain ⟨_, _, -, message, same⟩ := Checked.join_eq_ok_iff.mp contents
  cases same
  obtain ⟨_, _, part, position, same⟩ := Checked.join_eq_ok_iff.mp place
  cases same
  obtain ⟨_, p, foundPartition, partition⟩ := Schema.required_eq_ok part
  obtain ⟨_, o, foundOffset, offset⟩ := Schema.required_eq_ok position
  refine ⟨?_, Schema.integer_fits (Schema.fits_lookup fits.2.2 foundPartition) partition,
    Schema.integer_fits (Schema.fits_lookup fits.2.2 foundOffset) offset⟩
  rcases Schema.optional_eq_ok message with same | ⟨_, document, among, was⟩
  · cases same
    exact ⟨fun some => absurd rfl some, List.nodup_nil, trivial⟩
  · exact readMessage_fits (Schema.fits_lookup fits.2.2 among) was

/-- A record is read as it was written. -/
theorem read_toJson (r : ConsumedRecord) : read (r.toJson r.headers) = .ok r := by
  obtain ⟨topic, shardingKey, headers, payload, partition, offset⟩ := r
  cases shardingKey <;> rfl

theorem Rereads.fits_toJson {r : ConsumedRecord} (rereads : r.Rereads) : Fits .service 2 (r.toJson r.headers) := by
  have routing : Fits .service 3 (.object [("topic", .text r.topic),
      ("shardingKey", (r.shardingKey.map Json.text).getD .null)]) := by
    refine ⟨fun _ => by decide, show ["topic", "shardingKey"].Nodup by decide, trivial, ?_, trivial⟩
    cases r.shardingKey <;> trivial
  have message : Fits .service 3 (.object [("headers", .object r.headers), ("payload", .text r.payload)]) :=
    ⟨fun _ => by decide, show ["headers", "payload"].Nodup by decide, rereads.headers, trivial, trivial⟩
  have names : ["routingData", "message", "partition", "offset"].Nodup := by decide
  exact ⟨fun _ => by decide, names, routing, message, rereads.partition, rereads.offset, trivial⟩

theorem floatFree_toJson {r : ConsumedRecord} (free : ∀ header ∈ r.headers, header.2.floatFree = true) :
    (r.toJson r.headers).floatFree = true := by
  have headers : fieldsFloatFree r.headers = true := fieldsFloatFree_iff.mpr free
  obtain ⟨topic, shardingKey, headers, payload, partition, offset⟩ := r
  cases shardingKey <;> simp_all [toJson, floatFree, fieldsFloatFree]

end ConsumedRecord

namespace Batch

theorem sentHeaders_of_floatFree {headers : List (String × Json)}
    (free : ∀ header ∈ headers, header.2.floatFree = true) : sentHeaders headers = .ok headers :=
  Value.wireFields_ofJsonFields fun header member => Value.toWire_ofJson (free header member)

theorem mapM_eq_ok {ε : Type} {f : α → Except ε β} {g : α → β} {xs : List α} (each : ∀ x ∈ xs, f x = .ok (g x)) :
    xs.mapM f = .ok (xs.map g) := by
  induction xs with
  | nil => rfl
  | cons x xs ih =>
    obtain ⟨first, others⟩ := List.forall_mem_cons.mp each
    rw [List.mapM_cons, first, ih others]
    rfl

end Batch

/-- The entries of a dictionary that is an argument have different names. -/
theorem Arguments.nodup_of_optional {arguments : Arguments} {names : String × String} {entries : List (String × Value)}
    (given : arguments.optional names [] dictionary = .ok entries) : (entries.map Prod.fst).Nodup := by
  unfold optional at given
  split at given
  · next v _ =>
    cases v with
    | dict pairs =>
      obtain ⟨read, -, rfl⟩ := map_eq_ok_iff.mp (Checked.below_eq_ok_iff.mp given)
      exact nodup_mergeFields read
    | _ => cases given
  · cases given
    exact List.nodup_nil

/-! ## Models -/

/-- What goes over the wire: consumed records, a new consumer, a subscription, and the identity of a consumer. -/
inductive WireModel where
  | records (b : Batch)
  | creation (b : CreateBody)
  | subscription (b : TopicsBody)
  | identity (c : CreatedConsumer)

namespace WireModel

/-- The text that a model is written as. -/
def toText : WireModel → Except Fault String
  | records b => b.toText
  | creation b => b.toText
  | subscription b => .ok b.toText
  | identity c => .ok c.toText

/-- Reads a text as a model of the same kind. -/
def reread (like : WireModel) (s : String) : Checked WireModel :=
  match like with
  | records _ => (Batch.ofText s).map records
  | creation _ => (CreateBody.ofText s).map creation
  | subscription _ => (TopicsBody.ofText s).map subscription
  | identity _ => (CreatedConsumer.ofText s).map identity

/-- The models that are sent and received: batches that were read, without floating-point numbers in their headers, and
bodies that were made of arguments, with simple values for settings. -/
inductive Sound : WireModel → Prop
  | records {s : String} {b : Batch} (read : Batch.ofText s = .ok b)
      (free : ∀ r ∈ b.records, ∀ header ∈ r.headers, header.2.floatFree = true) : Sound (.records b)
  | creation {arguments : Arguments} {b : CreateBody} (made : CreateBody.ofArguments arguments = .ok b)
      (simple : ∀ config ∈ b.configs, config.2.Simple 150) : Sound (.creation b)
  | subscription {arguments : Arguments} {b : TopicsBody} (made : TopicsBody.ofArguments arguments = .ok b) :
      Sound (.subscription b)
  | identity {arguments : Arguments} {c : CreatedConsumer} (made : CreatedConsumer.ofArguments arguments = .ok c) :
      Sound (.identity c)

/-- Reads a document as a model of the same kind. -/
def readLike (like : WireModel) (d : Json) : Checked WireModel :=
  match like with
  | records _ => (Batch.read d).map records
  | creation _ => (CreateBody.read d).map creation
  | subscription _ => (TopicsBody.read d).map subscription
  | identity _ => (CreatedConsumer.read d).map identity

/-- The name of the first field of a model. -/
def heading : WireModel → String
  | records _ => "records"
  | creation _ => "consumerGroup"
  | subscription _ => "topics"
  | identity _ => "consumerInstanceId"

/-- The document that a model is written as and read from. -/
structure Document (m : WireModel) (d : Json) : Prop where
  text : m.toText = .ok (render .wire d)
  free : d.floatFree = true
  fits : Fits .service 0 d
  read : m.readLike d = .ok m
  heading : ∃ first rest, d = .object ((m.heading, first) :: rest)

theorem reread_eq (like : WireModel) {s : String} {d : Json} (parsed : parse? .service s = some d) :
    like.reread s = like.readLike d := by
  cases like
  · rw [reread, Batch.ofText, Batch.readText, parsed]
    rfl
  · rw [reread, CreateBody.ofText, Batch.readText, parsed]
    rfl
  · rw [reread, TopicsBody.ofText, Batch.readText, parsed]
    rfl
  · rw [reread, CreatedConsumer.ofText, Batch.readText, parsed]
    rfl

theorem Document.records {b : Batch} (rereads : ∀ r ∈ b.records, r.Rereads)
    (free : ∀ r ∈ b.records, ∀ header ∈ r.headers, header.2.floatFree = true) :
    Document (.records b) (.object [("records", .array (b.records.map fun r => r.toJson r.headers))]) where
  text := by
    have items : (b.records.mapM fun r => do return r.toJson (← Batch.sentHeaders r.headers)) =
        (Except.ok (b.records.map fun r => r.toJson r.headers) : Except Fault (List Json)) :=
      Batch.mapM_eq_ok fun r member => by
        rw [Batch.sentHeaders_of_floatFree (free r member)]
        rfl
    rw [toText, Batch.toText, items]
    rfl
  free := by
    have each : ∀ d ∈ b.records.map fun r => r.toJson r.headers, d.floatFree = true :=
      List.forall_mem_map.mpr fun r member => ConsumedRecord.floatFree_toJson (free r member)
    simp only [floatFree, fieldsFloatFree, itemsFloatFree_iff.mpr each, Bool.and_true]
  fits := by
    have each : ∀ d ∈ b.records.map fun r => r.toJson r.headers, Fits .service 2 d :=
      List.forall_mem_map.mpr fun r member => (rereads r member).fits_toJson
    exact ⟨fun _ => by decide, show ["records"].Nodup by decide, ⟨fun _ => by decide, fitItems_iff.mpr each⟩, trivial⟩
  read := by
    have row : Checked.row 0 ((b.records.map fun r => r.toJson r.headers).map ConsumedRecord.read) = .ok b.records :=
      Checked.row_of_forall 0 fun r _ => r.read_toJson
    show ((Checked.below _ (Checked.row 0 _)).map Batch.mk).map WireModel.records = _
    rw [row]
    rfl
  heading := ⟨_, _, rfl⟩

/-- A batch that was read has a document. -/
theorem exists_document_of_batch {s : String} {b : Batch} (read : Batch.ofText s = .ok b)
    (free : ∀ r ∈ b.records, ∀ header ∈ r.headers, header.2.floatFree = true) : ∃ d, Document (.records b) d := by
  refine ⟨_, Document.records (fun r member => ?_) free⟩
  unfold Batch.ofText Batch.readText at read
  split at read
  · next d parsed =>
    obtain ⟨fields, rfl, batch⟩ := Schema.object_eq_ok read
    obtain ⟨rs, records, rfl⟩ := map_eq_ok_iff.mp batch
    have fits : Fits .service 0 (.object fields) := fits_of_parse parsed
    rcases Schema.optional_eq_ok records with rfl | ⟨name, document, among, was⟩
    · cases member
    · obtain ⟨items, rfl, each⟩ := Schema.list_eq_ok was
      obtain ⟨item, inside, made⟩ := each r member
      have array : Fits .service 1 (.array items) := Schema.fits_lookup fits.2.2 among
      exact ConsumedRecord.read_rereads (fitItems_iff.mp array.2 item inside) made
  · cases read

private theorem exists_document_of_creation {b : CreateBody} (named : b.group ≠ "")
    (distinct : (b.configs.map Prod.fst).Nodup)
    (simple : ∀ config ∈ b.configs, config.2.Simple 150) : ∃ d, Document (.creation b) d := by
  obtain ⟨group, configs⟩ := b
  obtain ⟨fields, entries, free, fits⟩ := Value.SimpleEntries.exists_json (fun _ => Value.Simple.exists_json)
    (Value.simpleEntries_of_forall simple)
  have same : configs = fields.map fun (n, d) => (n, Value.ofJson d) := Value.eq_map_of_ofJsonFields entries
  have names : configs.map Prod.fst = fields.map Prod.fst := by
    rw [same, List.map_map]
    rfl
  have body : Fits .service 1 (.object fields) :=
    ⟨fun _ => by decide, names ▸ distinct, fits 2 (by decide)⟩
  have each : ∀ field ∈ fields, Value.toWire (Value.ofJson field.2) = .ok field.2 := fun field member =>
    Value.toWire_ofJson (fieldsFloatFree_iff.mp free field member)
  refine ⟨.object [("consumerGroup", .text group), ("configs", .object fields)], ?_, ?_, ?_, ?_, _, _, rfl⟩
  · rw [toText, CreateBody.toText, entries, Value.wireFields_ofJsonFields each]
    rfl
  · simp only [floatFree, fieldsFloatFree, free, Bool.and_true]
  · exact ⟨fun _ => by decide, show ["consumerGroup", "configs"].Nodup by decide, trivial, body, trivial⟩
  · have read : Schema.filledString (.text group) = .ok group := Schema.filledString_text named
    show (Checked.join _ (Checked.below _ (Schema.filledString (.text group))) _).map WireModel.creation = _
    rw [read, same]
    rfl

theorem Document.subscription (b : TopicsBody) :
    Document (.subscription b) (.object [("topics", .array (b.topics.map Json.text))]) where
  text := rfl
  free := by
    have each : ∀ d ∈ b.topics.map Json.text, d.floatFree = true := List.forall_mem_map.mpr fun _ _ => rfl
    simp only [floatFree, fieldsFloatFree, itemsFloatFree_iff.mpr each, Bool.and_true]
  fits := by
    have each : ∀ d ∈ b.topics.map Json.text, Fits .service 2 d := List.forall_mem_map.mpr fun _ _ => trivial
    exact ⟨fun _ => by decide, show ["topics"].Nodup by decide, ⟨fun _ => by decide, fitItems_iff.mpr each⟩, trivial⟩
  read := by
    have row : Checked.row 0 ((b.topics.map Json.text).map Schema.string) = .ok b.topics :=
      Checked.row_of_forall 0 fun _ _ => rfl
    show ((Checked.below _ (Checked.row 0 _)).map TopicsBody.mk).map WireModel.subscription = _
    rw [row]
    rfl
  heading := ⟨_, _, rfl⟩

theorem Document.identity {c : CreatedConsumer} (named : c.id ≠ "") :
    Document (.identity c) (.object [("consumerInstanceId", .text c.id)]) where
  text := rfl
  free := rfl
  fits := ⟨fun _ => by decide, show ["consumerInstanceId"].Nodup by decide, trivial, trivial⟩
  read := by
    have read : Schema.filledString (.text c.id) = .ok c.id := Schema.filledString_text named
    show ((Checked.below _ (Schema.filledString (.text c.id))).map CreatedConsumer.mk).map WireModel.identity = _
    rw [read]
    rfl
  heading := ⟨_, _, rfl⟩

/-- Every model that is sent or received has a document. -/
theorem Sound.exists_document {m : WireModel} (sound : m.Sound) : ∃ d, m.Document d := by
  cases sound with
  | records read free => exact exists_document_of_batch read free
  | creation made simple =>
    obtain ⟨group, configs, given, listed, rfl⟩ := Checked.join_eq_ok_iff.mp made
    exact exists_document_of_creation (Arguments.filled_of_required given) (Arguments.nodup_of_optional listed) simple
  | subscription made => exact ⟨_, Document.subscription _⟩
  | identity made =>
    obtain ⟨id, given, rfl⟩ := map_eq_ok_iff.mp made
    exact ⟨_, Document.identity (Arguments.filled_of_required given)⟩

theorem Document.parse {m : WireModel} {d : Json} (document : m.Document d) :
    parse? .service (render .wire d) = some d :=
  parse_render Style.wire_standard document.free document.fits

/-- Models of one kind are told by their document. -/
theorem Document.inj {m other : WireModel} {d : Json} (document : m.Document d) (same : other.Document d) :
    other = m := by
  obtain ⟨first, rest, fields⟩ := document.heading
  obtain ⟨_, _, named⟩ := same.heading
  rw [fields] at named
  obtain ⟨heading, -⟩ := Prod.mk.inj (List.cons.inj (Json.object.inj named)).1
  have like : other.readLike = m.readLike := by
    cases m <;> cases other <;> first | rfl | simp [WireModel.heading] at heading
  have read := same.read
  rw [like, document.read] at read
  exact (Except.ok.inj read).symm

/-- What is sent to create a consumer with one number among its settings. -/
def numbered (n : Int) : CreateBody := ⟨"g", [("n", .int n)]⟩

/-- The document of such a body. -/
def numberedDocument (n : Int) : Json :=
  .object [("consumerGroup", .text "g"), ("configs", .object [("n", .int n)])]

/-- A body with a number is not read back if the number is written with too many characters. -/
private theorem reread_numbered {n : Int} (long : Numeral.digitLimit < (writeInt n).length) (m : WireModel) :
    (creation (numbered n)).reread (render .wire (numberedDocument n)) ≠ .ok m := by
  have names : ["consumerGroup", "configs"].Nodup := by decide
  have single : ["n"].Nodup := by decide
  have unread : parse? .service (render .wire (numberedDocument n)) = none := by
    refine Option.eq_none_iff_forall_not_mem.mpr fun d parsed => ?_
    obtain ⟨-, fits⟩ := fits_of_parse_render Style.wire_standard (rfl : (numberedDocument n).floatFree = true)
      ⟨fun _ => rfl, names, trivial, ⟨fun _ => rfl, single, rfl, trivial⟩, trivial⟩ parsed
    obtain ⟨-, -, -, ⟨-, -, short, -⟩, -⟩ := fits
    exact Nat.not_lt.mpr (of_decide_eq_true short) long
  intro read
  rw [reread.eq_def, CreateBody.ofText, Batch.readText, unread] at read
  cases read

/-- The least number with so many digits. -/
def leastOfDigits (digits : Nat) : Int := -((10 ^ digits - 1 : Nat) : Int)

private theorem length_writeInt_leastOfDigits {k : Nat} (positive : 0 < k) :
    Binary64.digitCount (leastOfDigits (k + 1)).natAbs = k + 1 ∧ (writeInt (leastOfDigits (k + 1))).length = k + 2 := by
  have size : (leastOfDigits (k + 1)).natAbs = 10 ^ (k + 1) - 1 := (Int.natAbs_neg _).trans (Int.natAbs_natCast _)
  have some : 0 < 10 ^ k := Nat.pow_pos (by decide)
  have ten : 10 ^ (k + 1) = 10 ^ k * 10 := Nat.pow_succ ..
  have digits : Binary64.digitCount (10 ^ (k + 1) - 1) = k + 1 := by
    refine Nat.le_antisymm ((Nat.length_toDigits_le_iff (by decide) (by omega)).mpr (by omega)) (Nat.not_lt.mp ?_)
    intro few
    have bound := (Nat.length_toDigits_le_iff (by decide) positive).mp (Nat.le_of_lt_succ few)
    omega
  have negative : leastOfDigits (k + 1) < 0 := by
    unfold leastOfDigits
    omega
  rw [writeInt, if_pos negative, List.length_cons, Text.decimalText, size]
  exact ⟨digits, congrArg (· + 1) digits⟩

/-- A batch with nothing in it that may be left out, and its numbers in other forms. -/
def terseBatch : String :=
  "\x7b\"records\": [\x7b\"routing_data\": \x7b\"topic\": \"t\"\x7d, \"partition\": \"7\", \"offset\": -0," ++
    "\"message\": \x7b\"headers\": \x7b\"k\": [1, \"\\u001F\"]\x7d\x7d\x7d]\x7d"

/-- The same batch as it is written. -/
def wholeBatch : String :=
  "\x7b\"records\":[\x7b\"routingData\":\x7b\"topic\":\"t\",\"shardingKey\":null\x7d," ++
    "\"message\":\x7b\"headers\":\x7b\"k\":[1,\"\\u001f\"]\x7d,\"payload\":\"\"\x7d,\"partition\":7," ++
    "\"offset\":0\x7d]\x7d"

end WireModel

end ConsumerChannel
