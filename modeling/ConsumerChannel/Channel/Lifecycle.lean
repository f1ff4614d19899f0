import ConsumerChannel.Channel.Operation
import ConsumerChannel.Wire.Bodies

/-!
The operations on a consumer: create it, subscribe it, ask for its topics, pull records, commit, and
delete it. Each holds the guard for its whole length and names itself in its failures.
-/
namespace ConsumerChannel.Channel
open Operation

/-- The text of a refusal because the group is missing. -/
def missingGroupMessage : String := "No value specified for 'consumerGroup' during channel init"

/-- The text of a refusal because there are no topics. -/
def missingTopicsMessage : String := "Non-empty value must be specified for topics"

/-- The path under which consumers are kept. -/
def consumersPath (settings : Settings) : String := settings.path.plain ++ "/consumers"

/-- A text value, or nothing. -/
def optionalText : Option String → Value
  | some s => .text s
  | none => .null

/-- The consumer that is held, if it is not blank. -/
def heldConsumer? (s : Session String Value) : Option String :=
  match s.consumer with
  | some id => if id = "" then none else some id
  | none => none

/-- The path of the consumer that is held, with a suffix. -/
def consumerPath (settings : Settings) (api : Api) (suffix : String) : Operation String := do
  match heldConsumer? (← session) with
  | some id => return consumersPath settings ++ "/" ++ id ++ suffix
  | none => throw (.permanent "Consumer not created" (some api.name))

/-- Sends a request of an operation, whose failures go by its name. -/
def sendFor (api : Api) (method : Method) (path : String) (body : Option String) :
    Operation (Option String) :=
  tagged api (send ⟨method, path, body, .ofApi api⟩)

/-- A body checked and written, or its issues as a failure. -/
def written {α : Type} (checked : Checked α) (write : α → Except Fault String) : Operation String :=
  match checked with
  | .ok a => ofFault (write a)
  | .error issues => throw (.invalid issues)

/-- What an answer's text denotes. A text that is missing or does not read is transient trouble. -/
def understand {α : Type} (api : Api) (reader : String → Checked α) (answer : Option String) :
    Operation α :=
  match answer with
  | none => throw (.transient "Error while parsing response: empty body" (some api.name))
  | some "" => throw (.transient "Error while parsing response: empty body" (some api.name))
  | some text =>
    match reader text with
    | .ok a => pure a
    | .error issues =>
      throw (.channel .transient
        ("Error while parsing response: ValidationError " ++ toString issues.length ++ " error(s)")
        (some api.name) none (some (.invalid issues)))

/-- Creates a consumer in place of whatever the session held. -/
def create (settings : Settings) : Operation Unit :=
  named settings .create do
    if !settings.group.truthy then
      throw (.permanent missingGroupMessage (some Api.create.name))
    reset .create
    let body ← written
      (CreateBody.ofArguments
        [("consumer_group", settings.group), ("configs", .dict settings.consumerEntries)])
      CreateBody.toText
    let answer ← sendFor .create .post (consumersPath settings) (some body)
    let created ← understand .create CreatedConsumer.ofText answer
    setConsumer created.id .create
    changeContext { LogContext.Change.none with consumer := some (.text created.id) }
    log Level.info "Created consumer"
      [("consumer_group", settings.group), ("consumer_id", .text created.id)]

/-- The topics that an operation is given. -/
inductive Topics where
  /-- None are given. -/
  | absent
  /-- One name. -/
  | single (name : String)
  /-- Members one by one, and the failure that going through them ends in, if it does. -/
  | many (members : List Value) (failure : Option Failure)

/-- The topics that a value gives. -/
def Topics.ofValue : Value → Topics
  | .null => absent
  | .text name => single name
  | other =>
    match other.members? with
    | some members => many members none
    | none => many [] (some (.fault .wrongSort))

/-- The members that count as true, in order. -/
def usable (members : List Value) : List Value := members.filter Value.truthy

/-- The topics that a subscription asks for: blank names are left out, and at least one is needed. -/
def wantedTopics (topics : Topics) : Except Failure (List Value) :=
  let refusal : Failure := .permanent missingTopicsMessage (some Api.subscribe.name)
  let nonempty (wanted : List Value) : Except Failure (List Value) :=
    if wanted.isEmpty then .error refusal else .ok wanted
  match topics with
  | .absent => .error refusal
  | .single name => nonempty (usable [.text name])
  | .many _ (some e) => .error e
  | .many members none => nonempty (usable members)

/-- Subscribes the consumer that is held. The service is sent the texts of the topics. The topics
themselves, as they are given, take the place of the former ones. -/
def subscribeHeld (settings : Settings) (wanted : List Value) : Operation Unit := do
  let path ← consumerPath settings .subscribe "/subscription"
  let body ← written (TopicsBody.ofArguments [("topics", .list wanted)]) fun b => .ok b.toText
  let _ ← sendFor .subscribe .post path (some body)
  replaceTopics wanted .subscribe
  let s ← session
  log Level.info "Subscribed to topics"
    [("consumer_id", optionalText s.consumer), ("topics", .list wanted)]

/-- Subscribes the consumer to topics, creating it first if none is held. -/
def subscribe (settings : Settings) (topics : Topics) : Operation Unit :=
  named settings .subscribe do
    let wanted ← settle (wantedTopics topics)
    if !(← session).hasConsumer then
      create settings
    subscribeHeld settings wanted

/-- The topics that the service has recorded for the consumer. -/
def subscriptions (settings : Settings) : Operation (List String) :=
  named settings .subscriptions do
    let path ← consumerPath settings .subscriptions "/subscription"
    match ← sendFor .subscriptions .get path none with
    | none => return []
    | some "" => return []
    | some text => understand .subscriptions topicsOfText (some text)

/-- Asks for the deletion of a consumer. One that the service does not know counts as deleted. -/
def deletion (settings : Settings) (id : String) : Operation Unit :=
  rescue
    (do
      let path ← consumerPath settings .delete ""
      let _ ← send ⟨.delete, path, none, .ofApi .delete⟩
      log Level.info "Deleted consumer" [("consumer_id", .text id)])
    fun e =>
      match e.class? with
      | some .sessionLost =>
        log Level.warning "Consumer not found. Resetting consumer anyways."
          [("consumer_id", .text id)]
      | _ => throw (e.tag Api.delete.name)

/-- Deletes the consumer, if one is held. Whatever comes of it the session is reset, and a consumer
that the service no longer knows counts as deleted. -/
def delete (settings : Settings) : Operation Unit :=
  named settings .delete do
    match heldConsumer? (← session) with
    | none => return ()
    | some id => ensuring (deletion settings id) (reset .delete)

/-- Pulls the next batch of the topics that are recorded. -/
def consume (settings : Settings) (timeout : Value) : Operation Batch :=
  named settings .consume do
    if !(← session).isSubscribed then
      throw (.permanent "Consumer is not subscribed to any topics" (some Api.consume.name))
    let path ← consumerPath settings .consume "/records"
    let path := if ← ofFault timeout.isPositive then path ++ "?timeout=" ++ timeout.plain else path
    let answer ← sendFor .consume .get path none
    let batch ← understand .consume Batch.ofText answer
    let s ← session
    log Level.debug "Consumed records"
      [("consumer_id", optionalText s.consumer), ("records_count", .int batch.records.length),
        ("timeout_ms", timeout)]
    return batch

/-- Commits everything that has been consumed, unless the service commits by itself. -/
def commit (settings : Settings) : Operation Unit :=
  named settings .commit do
    if settings.autoCommits then return ()
    let path ← consumerPath settings .commit "/offsets"
    let _ ← sendFor .commit .post path none

end ConsumerChannel.Channel
