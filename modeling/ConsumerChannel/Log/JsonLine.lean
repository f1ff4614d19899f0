import ConsumerChannel.Json.Writer
import ConsumerChannel.Log.Message
import ConsumerChannel.Log.Redaction
import ConsumerChannel.LogContext
import ConsumerChannel.Value.Document

/-!
Log records as JSON lines. A line has the time, the level, the logger and the message, then what the
context attributes it to, the place for debugging and for errors, the known fields, and the failure.
-/
namespace ConsumerChannel.JsonLine

/-- The fields that are taken over from a record, in the order of the line. -/
def fieldNames : List String :=
  ["consumer_group", "consumer_id", "api", "topics", "retry_on_fail", "auto_commit", "http_status",
    "http_method", "http_url", "error_category", "error_message", "error_type", "records_count",
    "timeout_ms", "duration_ms", "wait_seconds"]

/-- The fields that hold whole numbers. -/
def wholeFields : List String := ["http_status", "records_count", "timeout_ms"]

/-- The fields that hold floating-point numbers. -/
def floatFields : List String := ["duration_ms", "wait_seconds"]

/-- The fields that hold addresses. -/
def addressFields : List String := ["http_url", "url"]

/-- A number, or nothing where the value has none; a number that does not fit stays a fault. -/
def orNull (converted : Except Fault Value) : Except Fault Value :=
  match converted with
  | .error .wrongSort => .ok .null
  | .error (.badValue _) => .ok .null
  | other => other

/-- The value of a field with the sort that the field has. -/
def typed (name : String) (v : Value) : Except Fault Value :=
  if wholeFields.contains name then orNull (v.toInt.map .int)
  else if floatFields.contains name then orNull (v.toFloat.map .float)
  else .ok v

/-- The value of a field with secrets in addresses replaced. -/
def safe (name : String) (v : Value) : Value :=
  match v with
  | .text s => if addressFields.contains name then .text (Redaction.redactText s) else v
  | other => other

/-- The fields of a line. -/
abbrev Fields := List (String × Value)

/-- The fields with a value put under a name, in place of the one that is there. -/
def put (fields : Fields) (name : String) (v : Value) : Fields :=
  match fields with
  | [] => [(name, v)]
  | (n, old) :: rest => if n = name then (n, v) :: rest else (n, old) :: put rest name v

/-- What the context attributes the line to, unless that is blank. -/
def contextFields (c : LogContext) : Fields :=
  [("consumer_group", c.group), ("consumer_id", c.consumer), ("api", c.api)].filter
    fun field => field.2.truthy

/-- Whether a line tells its place: when debugging, and for errors. -/
def tellsPlace (level : Level) : Bool :=
  level == Level.debug || level == Level.error || level == Level.critical

/-- The place that logs. -/
def placeFields (r : LogRecord) : Fields :=
  if tellsPlace r.level then [("file", .text (r.file ++ ":" ++ toString r.line))] else []

/-- The fields with the known ones of a record put in. -/
def putExtras (r : LogRecord) (fields : Fields) : Except Fault Fields :=
  fieldNames.foldlM (fun fields name =>
    match r.extra? name with
    | none => .ok fields
    | some v => do return put fields name (safe name (← typed name v))) fields

/-- The name of the kind of a failure, with the place where the channel's own kinds are defined. -/
def qualifiedName (f : Failure) : String :=
  match f with
  | .channel .. => "core.errors.exceptions." ++ f.name
  | .stop .. => "core.errors.exceptions." ++ f.name
  | other => other.name

/-- A failure as a report of it ends: its kind, and its text if it has one. -/
def report (f : Failure) : String :=
  if f.text = "" then qualifiedName f else qualifiedName f ++ ": " ++ f.text

/-- The report of a failure, or of none. -/
def reportOf : Option Failure → String
  | some f => report f
  | none => "NoneType: None"

/-- The failure of a record. -/
def failureFields (r : LogRecord) : Fields :=
  match r.failure with
  | none => []
  | some found =>
    [("exception", .dict
      [(.text "type", (found.map fun f => Value.text f.name).getD .null),
        (.text "message", (found.map fun f => Value.text f.text).getD .null),
        (.text "stacktrace", .text (reportOf found))])]

/-- The line of a record as fields, without the time. -/
def entry (context : LogContext) (r : LogRecord) : Except Fault Fields := do
  let message ← r.text
  let head : Fields := [("level", .text r.level.name), ("logger", .text r.logger),
    ("message", .text message)]
  let fields ← putExtras r (head ++ contextFields context ++ placeFields r)
  return fields ++ failureFields r

/-- Fields as they stand in a line. -/
def document (fields : Fields) : Except Fault Json :=
  (Value.lineFields (fields.map fun field => (.text field.1, field.2))).map .object

/-- The line of a record as an observer sees it who is interested in neither clock nor place. -/
def observed (context : LogContext) (r : LogRecord) : Except Fault Json := do
  document ((← entry context r).filter fun f => f.1 != "file" && f.1 != "duration_ms")

/-- The line of a record at a time. -/
def format (now : DateTime) (context : LogContext) (r : LogRecord) : Except Fault String := do
  let fields ← entry context r
  return Json.render .line (← document (("ts", .text now.universalStamp) :: fields))

end ConsumerChannel.JsonLine
