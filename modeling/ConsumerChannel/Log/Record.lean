import ConsumerChannel.Value

/-!
Log records: what is said, by which logger, how urgent it is, and the fields that go with it.
-/
namespace ConsumerChannel

/-- How urgent a record is, as a number. -/
abbrev Level := Int

namespace Level

def debug : Level := 10
def info : Level := 20
def warning : Level := 30
def error : Level := 40
def critical : Level := 50

/-- The name of a level; one without a name of its own shows its number. -/
def name (level : Level) : String :=
  if level = debug then "DEBUG"
  else if level = info then "INFO"
  else if level = warning then "WARNING"
  else if level = error then "ERROR"
  else if level = critical then "CRITICAL"
  else if level = 0 then "NOTSET"
  else "Level " ++ toString level

/-- The level of a name; two levels have a second name. -/
def ofName? : String → Option Level
  | "DEBUG" => some debug
  | "INFO" => some info
  | "WARNING" => some warning
  | "WARN" => some warning
  | "ERROR" => some error
  | "CRITICAL" => some critical
  | "FATAL" => some critical
  | "NOTSET" => some 0
  | _ => none

end Level

/-- A log record. -/
structure LogRecord where
  /-- The dotted name of the logger. -/
  logger : String
  level : Level
  /-- The file that logs. -/
  file : String
  /-- The line that logs. -/
  line : Int
  /-- What is said; with arguments it is a pattern for them. -/
  message : Value
  arguments : List Value
  /-- The fields that go with the record. -/
  extras : List (String × Value)
  /-- A failure that is reported along, or the report that there is none. -/
  failure : Option (Option Failure)

namespace LogRecord

/-- A record without arguments and failure, from a place that is not told. -/
def event (logger : String) (level : Level) (message : String) (extras : List (String × Value)) :
    LogRecord :=
  ⟨logger, level, "", 0, .text message, [], extras, none⟩

/-- The field of a record, unless it is absent or nothing. -/
def extra? (r : LogRecord) (name : String) : Option Value :=
  match (r.extras.find? fun pair => pair.1 == name).map Prod.snd with
  | some .null => none
  | found => found

end LogRecord

end ConsumerChannel
