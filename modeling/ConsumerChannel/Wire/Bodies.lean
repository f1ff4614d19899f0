import ConsumerChannel.Wire.Records

/-!
The bodies of requests and the short answers. Each body is made of named arguments, which are checked,
and is written with the names of the service; each can also be read back from its text.
-/
namespace ConsumerChannel

/-- Arguments by name. -/
abbrev Arguments := List (String × Value)

namespace Arguments

/-- An argument under one of two names; the first wins. -/
def named? (arguments : Arguments) (names : String × String) : Option (String × Value) :=
  match List.find? (fun pair => pair.1 == names.1) arguments with
  | some found => some found
  | none => List.find? (fun pair => pair.1 == names.2) arguments

/-- An argument that has to be there; its issues go by the name that was used. -/
def required {α : Type} (arguments : Arguments) (names : String × String) (reader : Value → Checked α) :
    Checked α :=
  match arguments.named? names with
  | some (name, v) => Checked.below (.field name) (reader v)
  | none => Checked.below (.field names.1) (.refuse .missing)

/-- An argument that may be left out. -/
def optional {α : Type} (arguments : Arguments) (names : String × String) (default : α)
    (reader : Value → Checked α) : Checked α :=
  match arguments.named? names with
  | some (name, v) => Checked.below (.field name) (reader v)
  | none => .ok default

/-- The text that bytes encode. -/
def decoded (b : List UInt8) : Checked String :=
  match Text.decodeStrict? b with
  | some s => .ok s
  | none => .refuse .notUnicode

/-- The text that a value is or stands for: bytes encode theirs, and a category has one. -/
def string : Value → Checked String
  | .text s => .ok s
  | .bytes b => decoded b
  | .byteArray b => decoded b
  | .category c => .ok c.text
  | _ => .refuse .notString

/-- A text that is not empty. -/
def filledString (v : Value) : Checked String := do
  let s ← string v
  if s = "" then .refuse .tooShort else return s

/-- The members of a list, a row or a set. -/
def list {α : Type} (reader : Value → Checked α) : Value → Checked (List α)
  | .list items => .row 0 (items.map reader)
  | .tuple items => .row 0 (items.map reader)
  | .set items => .row 0 (items.map reader)
  | .frozenSet items => .row 0 (items.map reader)
  | _ => .refuse .notList

/-- How a key that is no text is told in the place of an issue. -/
def keyPlace : Value → Place
  | .text s => .field s
  | .int n => if -(Nat.pow 2 63) ≤ n ∧ n < Nat.pow 2 63 then .index n else .field (toString n)
  | .bool b => .index (if b then 1 else 0)
  | other => .field other.plain

/-- A key that has to be a text or stand for one. -/
def key (k : Value) : Checked String :=
  Checked.below (keyPlace k) (Checked.below (.field "[key]") (string k))

/-- The entries of a dictionary under the texts of their keys. -/
def entries : List (Value × Value) → Checked (List (String × Value))
  | [] => .ok []
  | (k, v) :: rest => Checked.join (fun name others => (name, v) :: others) (key k) (entries rest)

/-- A dictionary by the texts of its keys. Of keys with one text the last one has the value. -/
def dictionary : Value → Checked (List (String × Value))
  | .dict pairs => (entries pairs).map Json.mergeFields
  | _ => .refuse .notDictionary

end Arguments

/-- What is sent to create a consumer. -/
structure CreateBody where
  group : String
  configs : List (String × Value)

namespace CreateBody

/-- The two names of the group. -/
def groupNames : String × String := ("consumerGroup", "consumer_group")

/-- The body made of named arguments. -/
def ofArguments (arguments : Arguments) : Checked CreateBody :=
  Checked.join CreateBody.mk
    (arguments.required groupNames Arguments.filledString)
    (arguments.optional ("configs", "configs") [] Arguments.dictionary)

/-- Reads a body. -/
def read : Json → Checked CreateBody :=
  Schema.object fun fields =>
    Checked.join (fun group configs => ⟨group, configs.map fun (n, d) => (n, Value.ofJson d)⟩)
      (Schema.required groupNames Schema.filledString fields)
      (Schema.optional ("configs", "configs") [] Schema.dictionary fields)

/-- The body that a text writes. -/
def ofText (s : String) : Checked CreateBody := Batch.readText read s

/-- The text that writes the body. -/
def toText (b : CreateBody) : Except Fault String := do
  let configs ← Value.wireFields (b.configs.map fun (n, v) => (.text n, v))
  return Json.render .wire (.object [("consumerGroup", .text b.group), ("configs", .object configs)])

end CreateBody

/-- What is sent to subscribe. -/
structure TopicsBody where
  topics : List String
  deriving DecidableEq, Repr

namespace TopicsBody

/-- The body made of named arguments. -/
def ofArguments (arguments : Arguments) : Checked TopicsBody :=
  (arguments.required ("topics", "topics") (Arguments.list Arguments.string)).map TopicsBody.mk

/-- Reads a body. -/
def read : Json → Checked TopicsBody :=
  Schema.object fun fields =>
    (Schema.required ("topics", "topics") (Schema.list Schema.string) fields).map TopicsBody.mk

/-- The body that a text writes. -/
def ofText (s : String) : Checked TopicsBody := Batch.readText read s

/-- The text that writes the body. -/
def toText (b : TopicsBody) : String :=
  Json.render .wire (.object [("topics", .array (b.topics.map Json.text))])

end TopicsBody

/-- What the service answers when a consumer is created. -/
structure CreatedConsumer where
  id : String
  deriving DecidableEq, Repr

namespace CreatedConsumer

/-- The two names of the identity. -/
def idNames : String × String := ("consumerInstanceId", "consumer_instance_id")

/-- The answer made of named arguments. -/
def ofArguments (arguments : Arguments) : Checked CreatedConsumer :=
  (arguments.required idNames Arguments.filledString).map CreatedConsumer.mk

/-- Reads an answer. -/
def read : Json → Checked CreatedConsumer :=
  Schema.object fun fields =>
    (Schema.required idNames Schema.filledString fields).map CreatedConsumer.mk

/-- The answer that a text writes. -/
def ofText (s : String) : Checked CreatedConsumer := Batch.readText read s

/-- The text that writes the answer. -/
def toText (c : CreatedConsumer) : String :=
  Json.render .wire (.object [("consumerInstanceId", .text c.id)])

end CreatedConsumer

/-- The topics that a text lists. -/
def topicsOfText (s : String) : Checked (List String) :=
  Batch.readText (Schema.list Schema.string) s

end ConsumerChannel
