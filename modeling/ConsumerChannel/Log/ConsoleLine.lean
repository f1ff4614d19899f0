import ConsumerChannel.Log.JsonLine

/-!
Log records as lines for a person. The level is coloured on a terminal; the group, the operation and
the first characters of the consumer stand in brackets.
-/
namespace ConsumerChannel.ConsoleLine

/-- The colour of a level. -/
def colour (level : Level) : Option String :=
  if level = Level.debug then some "\x1b[36m"
  else if level = Level.info then some "\x1b[32m"
  else if level = Level.warning then some "\x1b[33m"
  else if level = Level.error then some "\x1b[31m"
  else if level = Level.critical then some "\x1b[35m"
  else none

/-- Ends a colour. -/
def colourEnd : String := "\x1b[0m"

/-- The name of a level, coloured if the line goes to a terminal. -/
def levelText (colours : Bool) (level : Level) : String :=
  match colour level with
  | some start => if colours then start ++ level.name ++ colourEnd else level.name
  | none => level.name

/-- The first members of a value that is a row; other values have no first members. -/
def beginning (count : Nat) : Value → Except Fault Value
  | .text s => .ok (.text (String.ofList (s.toList.take count)))
  | .bytes b => .ok (.bytes (b.take count))
  | .byteArray b => .ok (.byteArray (b.take count))
  | .list items => .ok (.list (items.take count))
  | .tuple items => .ok (.tuple (items.take count))
  | _ => .error .wrongSort

/-- A value of the record if it counts as true, of the context otherwise. -/
def preferred (r : LogRecord) (name : String) (other : Value) : Value :=
  match r.extra? name with
  | some v => if v.truthy then v else other
  | none => other

/-- The operation and the consumer in brackets. -/
def tags (context : LogContext) (r : LogRecord) : Except Fault (List String) := do
  let api := preferred r "api" context.api
  let consumer := preferred r "consumer_id" context.consumer
  let first := if api.truthy then ["[" ++ api.plain ++ "]"] else []
  if consumer.truthy then return first ++ ["[cid:" ++ (← beginning 8 consumer).plain ++ "]"]
  else return first

/-- The line of a record at a time. -/
def format (colours : Bool) (now : DateTime) (context : LogContext) (r : LogRecord) :
    Except Fault String := do
  let head := [now.localStamp, levelText colours r.level] ++
    (if context.group.truthy then ["[" ++ context.group.plain ++ "]"] else [])
  let tags ← tags context r
  let said ← r.text
  let message := match r.failure with
    | none => said
    | some found => said ++ "\n" ++ JsonLine.reportOf found
  let body := if tags.isEmpty then message else " ".intercalate tags ++ " " ++ message
  return " - ".intercalate head ++ " - " ++ body

end ConsumerChannel.ConsoleLine
