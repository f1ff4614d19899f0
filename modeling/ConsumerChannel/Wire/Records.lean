import ConsumerChannel.Json.Reader
import ConsumerChannel.Json.Writer
import ConsumerChannel.Text.Base64
import ConsumerChannel.Value.Document
import ConsumerChannel.Wire.Schema

/-!
Consumed records. A batch arrives as one document; each record tells its topic, its partition, its
offset, and carries headers and a payload in base 64.
-/
namespace ConsumerChannel

/-- A consumed record. -/
structure ConsumedRecord where
  topic : String
  shardingKey : Option String
  headers : List (String × Json)
  payload : String
  partition : Int
  offset : Int

/-- The records of one answer, in the order of arrival. -/
structure Batch where
  records : List ConsumedRecord

namespace ConsumedRecord

/-- The name that a field goes by if it has only one. -/
def sameName (name : String) : String × String := (name, name)

/-- Reads where a record came from. -/
def readRouting : Json → Checked (String × Option String) :=
  Schema.object fun fields =>
    Checked.join Prod.mk
      (Schema.required (sameName "topic") Schema.string fields)
      (Schema.optional ("shardingKey", "sharding_key") none (Schema.nullable Schema.string) fields)

/-- Reads headers and payload. -/
def readMessage : Json → Checked (List (String × Json) × String) :=
  Schema.object fun fields =>
    Checked.join Prod.mk
      (Schema.optional (sameName "headers") [] Schema.dictionary fields)
      (Schema.optional (sameName "payload") "" Schema.string fields)

/-- Reads a record. -/
def read : Json → Checked ConsumedRecord :=
  Schema.object fun fields =>
    Checked.join
      (fun (origin : (String × Option String) × (List (String × Json) × String)) (place : Int × Int) =>
        ⟨origin.1.1, origin.1.2, origin.2.1, origin.2.2, place.1, place.2⟩)
      (Checked.join Prod.mk
        (Schema.required ("routingData", "routing_data") readRouting fields)
        (Schema.optional (sameName "message") ([], "") readMessage fields))
      (Checked.join Prod.mk
        (Schema.required (sameName "partition") Schema.integer fields)
        (Schema.required (sameName "offset") Schema.integer fields))

/-- A record as a document. -/
def toJson (r : ConsumedRecord) (headers : List (String × Json)) : Json :=
  .object
    [("routingData", .object
        [("topic", .text r.topic), ("shardingKey", (r.shardingKey.map Json.text).getD .null)]),
      ("message", .object [("headers", .object headers), ("payload", .text r.payload)]),
      ("partition", .int r.partition),
      ("offset", .int r.offset)]

/-- The text of a refused payload that is not in the plain alphabet. -/
def notPlainMessage : String := "string argument should contain only ASCII characters"

/-- The place of a record in its topic. -/
def position (r : ConsumedRecord) : String :=
  r.topic ++ "/" ++ toString r.partition ++ "@" ++ toString r.offset

/-- The bytes of the payload. -/
def decodePayload (r : ConsumedRecord) : Except Fault (List UInt8) :=
  let cs := r.payload.toList
  if cs.any (fun c => 0x80 ≤ c.toNat) then .error (.badValue (some notPlainMessage))
  else
    match Text.Base64.decode? cs with
    | some bytes => .ok bytes
    | none => .error (.badValue (some ("Invalid base64 payload at " ++ r.position)))

end ConsumedRecord

namespace Batch

/-- Reads a batch. -/
def read : Json → Checked Batch :=
  Schema.object fun fields =>
    (Schema.optional (ConsumedRecord.sameName "records") [] (Schema.list ConsumedRecord.read) fields).map
      Batch.mk

/-- A document read from a text, or the one issue that the text is no document. -/
def readText {α : Type} (reader : Json → Checked α) (s : String) : Checked α :=
  match Json.parse? .service s with
  | some document => reader document
  | none => .refuse .invalidJson

/-- The batch that a text writes. -/
def ofText (s : String) : Checked Batch := readText read s

/-- Headers as they stand in a document that is sent. -/
def sentHeaders (headers : List (String × Json)) : Except Fault (List (String × Json)) :=
  Value.wireFields (Value.ofJsonFields headers)

/-- The text that writes the batch. -/
def toText (b : Batch) : Except Fault String := do
  let items ← b.records.mapM fun r => do return r.toJson (← sentHeaders r.headers)
  return Json.render .wire (.object [("records", .array items)])

/-- The record at an index; a negative index counts from the end. -/
def get (b : Batch) (index : Int) : Except Fault ConsumedRecord :=
  let place := if index < 0 then index + b.records.length else index
  if place < 0 then .error .outOfRange
  else
    match b.records[place.toNat]? with
    | some r => .ok r
    | none => .error .outOfRange

/-- The groups with a record put into the group of its key: at the end of the group that is there, or
as a new group at the end. -/
def insertInto {κ : Type} [BEq κ] (groups : List (κ × List ConsumedRecord)) (key : κ)
    (r : ConsumedRecord) : List (κ × List ConsumedRecord) :=
  match groups with
  | [] => [(key, [r])]
  | (k, members) :: rest =>
    if k == key then (k, members ++ [r]) :: rest else (k, members) :: insertInto rest key r

/-- The records grouped by a key, groups in the order of their first members. -/
def groupBy {κ : Type} [BEq κ] (key : ConsumedRecord → κ) (records : List ConsumedRecord) :
    List (κ × List ConsumedRecord) :=
  records.foldl (fun groups r => insertInto groups (key r) r) []

/-- The records by topic. -/
def byTopic (b : Batch) : List (String × List ConsumedRecord) :=
  groupBy ConsumedRecord.topic b.records

/-- The records by topic and partition. -/
def byPartition (b : Batch) : List ((String × Int) × List ConsumedRecord) :=
  groupBy (fun r => (r.topic, r.partition)) b.records

end Batch

end ConsumerChannel
