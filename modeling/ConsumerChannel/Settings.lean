import ConsumerChannel.Value.Text

/-!
The settings of a channel. They come from a caller or from a file, and keep whatever sort of value
they were given; only the two that bound waiting are checked when the settings are made.
-/
namespace ConsumerChannel

/-- The settings of a channel. -/
structure Settings where
  /-- The address of the service. -/
  base : Value
  /-- The consumer group; a channel without one cannot create consumers. -/
  group : Value
  /-- The path of the service below its address, which wins over the next one. -/
  pathPrefix : Value
  /-- The path of the service below its address. -/
  consumerPathPrefix : Value
  /-- Whether a running loop goes on after the service has lost the consumer. -/
  retryOnFail : Value
  /-- The certificates to trust; empty turns verification off. -/
  certificates : Value
  /-- Entries that are sent along when a consumer is created. -/
  extra : List (Value × Value)
  /-- Seconds between two looks at a loop that is asked to stop. -/
  stopPeriod : Value
  /-- Milliseconds that the service may wait for records. -/
  consumeTimeout : Value

namespace Settings

/-- The entry that tells whether the service commits by itself. -/
def autoCommitKey : String := "enable.auto.commit"

/-- The path of the service where none is given. -/
def defaultPath : String := "/databus/consumer-service/v1"

/-- One second. -/
def defaultStopPeriod : Value := .float (Binary64.ofRatio false 1 1)

/-- A dictionary made of a value: of a dictionary its entries, of anything else that has members the
pairs that they are. A member that is no row of values, and a value without members, are of the
wrong sort; a row of another length than two means nothing. -/
def dictOf (v : Value) : Except Fault (List (Value × Value)) :=
  match v with
  | .dict entries => .ok entries
  | other =>
    match other.members? with
    | none => .error .wrongSort
    | some items => items.foldlM addPair []
where
  addPair (entries : List (Value × Value)) (item : Value) : Except Fault (List (Value × Value)) :=
    match item.members? with
    | none => .error .wrongSort
    | some [key, value] =>
      if key.isKey then .ok (Value.insertEntry entries key value) else .error .wrongSort
    | some _ => .error (.badValue none)

/-- The settings, if the period is above zero, the timeout not below it, and the extra entries can be
made a dictionary. -/
def check (s : Settings) (extra : Value) : Except Fault Settings := do
  if ← s.stopPeriod.isNonPositive then
    throw (.badValue (some ("stop_wait_period must be > 0, got " ++ s.stopPeriod.plain)))
  if ← s.consumeTimeout.isNegative then
    throw (.badValue (some ("consume_timeout_ms must be >= 0, got " ++ s.consumeTimeout.plain)))
  let entries ← if extra.truthy then dictOf extra else .ok []
  return { s with extra := entries }

/-- The names of the arguments that settings are made of. -/
def argumentNames : List String :=
  ["base", "consumer_group", "path_prefix", "consumer_path_prefix", "retry_on_fail",
    "verify_cert_bundle", "extra_configs", "stop_wait_period", "consume_timeout_ms"]

/-- The settings made of named arguments. The address has to be among them, and no unknown name. -/
def ofArguments (arguments : List (String × Value)) : Except Fault Settings :=
  let argument (name : String) (default : Value) : Value :=
    ((arguments.find? fun pair => pair.1 == name).map Prod.snd).getD default
  if arguments.any (fun pair => !argumentNames.contains pair.1) then .error .wrongSort
  else if !arguments.any (fun pair => pair.1 == "base") then .error .wrongSort
  else
    check
      { base := argument "base" .null
        group := argument "consumer_group" .null
        pathPrefix := argument "path_prefix" .null
        consumerPathPrefix := argument "consumer_path_prefix" .null
        retryOnFail := argument "retry_on_fail" (.bool false)
        certificates := argument "verify_cert_bundle" (.text "")
        extra := []
        stopPeriod := argument "stop_wait_period" defaultStopPeriod
        consumeTimeout := argument "consume_timeout_ms" (.int 0) }
      (argument "extra_configs" .null)

/-- A value, or another in place of one that counts as false. -/
def orElse (v other : Value) : Value := if v.truthy then v else other

/-- The settings made of a section of a settings file, where numbers may be written as texts. -/
def ofSection (section' : Value) : Except Fault Settings := do
  let .dict entries := section' | throw .noSuchPart
  let field (name : String) (default : Value) : Value := (Value.field? entries name).getD default
  let base := orElse (field "base_url" .null) (field "base" .null)
  if !base.truthy then
    throw (.badValue (some "Invalid channel config: 'base_url' is required"))
  let stopPeriod ← (field "stop_wait_period" defaultStopPeriod).toFloat
  let consumeTimeout ← (field "consume_timeout_ms" (.int 0)).toInt
  check
    { base := base
      group := field "consumer_group" .null
      pathPrefix := field "path_prefix" .null
      consumerPathPrefix := field "consumer_path_prefix" .null
      retryOnFail := .bool (field "retry_on_fail" (.bool false)).saysTrue
      certificates := orElse (field "verify_cert_bundle" .null) (.text "")
      extra := []
      stopPeriod := .float stopPeriod
      consumeTimeout := .int consumeTimeout }
    (field "consumer_configs" .null)

/-- The path of the service: the first of the two settings that is given, or the default. -/
def path (s : Settings) : Value :=
  match s.pathPrefix with
  | .null =>
    match s.consumerPathPrefix with
    | .null => .text defaultPath
    | given => given
  | given => given

/-- The entries that are sent when a consumer is created: the extra ones, and commits left to the
channel unless they say otherwise. -/
def consumerEntries (s : Settings) : List (Value × Value) :=
  match Value.field? s.extra autoCommitKey with
  | some _ => s.extra
  | none => s.extra ++ [(.text autoCommitKey, .text "false")]

/-- Whether the service commits by itself. -/
def autoCommits (s : Settings) : Bool :=
  ((Value.field? s.consumerEntries autoCommitKey).map Value.saysTrue).getD false

end Settings

end ConsumerChannel
