import ConsumerChannel.Proofs.Admission
import ConsumerChannel.Proofs.Readings

/-! What each operation on a consumer comes to: its result, the session it leaves, and the signals it
gives. Every way out of an operation is one case; whatever holds of an operation is read off its cases. -/
namespace ConsumerChannel.Channel

/-! ## Requests -/

/-- The path of a consumer. -/
def consumerAddress (settings : Settings) (id : String) : String := consumersPath settings ++ "/" ++ id

namespace Request
variable (settings : Settings) (id : String)

/-- Asks for a new consumer. -/
def creation (body : String) : Request := ⟨.post, consumersPath settings, some body, .ofApi .create⟩

/-- Subscribes a consumer to topics. -/
def subscription (topics : List String) : Request :=
  ⟨.post, consumerAddress settings id ++ "/subscription", some (TopicsBody.toText ⟨topics⟩),
    .ofApi .subscribe⟩

/-- Asks for the topics of a consumer. -/
def inquiry : Request := ⟨.get, consumerAddress settings id ++ "/subscription", none, .ofApi .subscriptions⟩

/-- Pulls records for a consumer; the service is told how long it may wait if that is above zero. -/
def pull (timeout : Value) : Request :=
  let path := consumerAddress settings id ++ "/records"
  ⟨.get, match timeout.isPositive with
    | .ok true => path ++ "?timeout=" ++ timeout.plain
    | _ => path, none, .ofApi .consume⟩

/-- Commits what a consumer has consumed. -/
def offsets : Request := ⟨.post, consumerAddress settings id ++ "/offsets", none, .ofApi .commit⟩

/-- Deletes a consumer. -/
def deletion : Request := ⟨.delete, consumerAddress settings id, none, .ofApi .delete⟩

end Request

/-- Going by the name of an operation is no matter of the class of a failure. -/
theorem class?_tag {e : Failure} (api : String) : (e.tag api).class? = e.class? := by
  cases e <;> rfl

/-! ## Answers -/

/-- The text of an answer reads as a value. -/
def Denotes (reader : String → Checked α) (answer : Option String) (a : α) : Prop :=
  ∃ text, answer = some text ∧ text ≠ "" ∧ reader text = .ok a

/-- The failure of an operation whose answer does not read. -/
def Misread (api : Api) (e : Failure) : Prop :=
  ∃ message cause, e = .channel .transient message (some api.name) none cause

/-- The failure of an operation whose answer has no text. -/
def emptyFailure (api : Api) : Failure :=
  .transient "Error while parsing response: empty body" (some api.name)

/-- The failure of an operation whose answer does not read, with the issues that were found. -/
def illegibleFailure (api : Api) (issues : List Issue) : Failure :=
  .channel .transient
    ("Error while parsing response: ValidationError " ++ toString issues.length ++ " error(s)")
    (some api.name) none (some (.invalid issues))

/-- What an operation makes of an answer. -/
def comprehended (api : Api) (reader : String → Checked α) (answer : Option String) : Except Failure α :=
  if answer.getD "" = "" then .error (emptyFailure api)
  else (reader (answer.getD "")).mapError (illegibleFailure api)

/-- The body of a request for a consumer, or why it cannot be written. -/
def creationBody (settings : Settings) : Except Failure String :=
  match CreateBody.ofArguments
    [("consumer_group", settings.group), ("configs", .dict settings.consumerEntries)] with
  | .ok body => body.toText.mapError .fault
  | .error issues => .error (.invalid issues)

/-! ## Outcomes -/

/-- A memory while an operation has its request under way. -/
abbrev State.Amid (surroundings : Surroundings) (caller : Thread) (settings : Settings) (api : Api)
    (m : State) (session : Session String Value) (within : State) : Prop :=
  (m.inside caller settings api).Becomes surroundings session (m.inside caller settings api).context within

section
variable (surroundings : Surroundings) (caller : Thread) (settings : Settings)

/-- What creating a consumer comes to. -/
inductive Creates (m : State) : Except Failure Unit → Session String Value → List Event → Prop where
  | groupless (missing : settings.group.truthy = false) :
      Creates m (.error (.permanent missingGroupMessage (some Api.create.name))) m.session []
  | unsent (e : Failure) (reason : surroundings.Dependable → creationBody settings = .error e) :
      Creates m (.error e) .fresh []
  | failed (written : creationBody settings = .ok body)
      (amid : m.Amid surroundings caller settings .create .fresh within) (e : Failure) :
      Creates m (.error (e.tag Api.create.name)) .fresh
        [⟨within, .sent m.transport (.creation settings body) (.error e)⟩]
  | unread (written : creationBody settings = .ok body)
      (amid : m.Amid surroundings caller settings .create .fresh within)
      (meaningless : ∀ created, ¬ Denotes CreatedConsumer.ofText answer created)
      (misread : Misread .create e) :
      Creates m (.error e) .fresh [⟨within, .sent m.transport (.creation settings body) (.ok answer)⟩]
  | made {id : String} (written : creationBody settings = .ok body)
      (amid : m.Amid surroundings caller settings .create .fresh within)
      (named : Denotes CreatedConsumer.ofText answer ⟨id⟩) (quiet : surroundings.LogsQuietly → r = .ok ()) :
      Creates m r ⟨some id, [], true⟩ [⟨within, .sent m.transport (.creation settings body) (.ok answer)⟩]

/-- The failure of an operation that needs a consumer where none is held. -/
def unheldFailure (api : Api) : Failure := .permanent "Consumer not created" (some api.name)

/-- What asking for the topics comes to. -/
inductive Inquires (m : State) :
    Except Failure (List String) → Session String Value → List Event → Prop where
  | unheld (absent : heldConsumer? m.session = none) :
      Inquires m (.error (unheldFailure .subscriptions)) m.session []
  | failed (held : heldConsumer? m.session = some consumer)
      (amid : m.Amid surroundings caller settings .subscriptions m.session within) (e : Failure) :
      Inquires m (.error (e.tag Api.subscriptions.name)) m.session
        [⟨within, .sent m.transport (.inquiry settings consumer) (.error e)⟩]
  | unread (held : heldConsumer? m.session = some consumer)
      (amid : m.Amid surroundings caller settings .subscriptions m.session within)
      (filled : answer ≠ none ∧ answer ≠ some "")
      (meaningless : ∀ topics, ¬ Denotes topicsOfText answer topics) (misread : Misread .subscriptions e) :
      Inquires m (.error e) m.session [⟨within, .sent m.transport (.inquiry settings consumer) (.ok answer)⟩]
  | listed (held : heldConsumer? m.session = some consumer)
      (amid : m.Amid surroundings caller settings .subscriptions m.session within)
      (denoted : (answer = none ∨ answer = some "") ∧ topics = [] ∨ Denotes topicsOfText answer topics) :
      Inquires m (.ok topics) m.session [⟨within, .sent m.transport (.inquiry settings consumer) (.ok answer)⟩]

/-- The result of a deletion by its answer: a consumer that the service does not know is deleted. -/
def deletionResult : Except Failure (Option String) → Except Failure Unit
  | .ok _ => .ok ()
  | .error e => if e.class? = some .sessionLost then .ok () else .error (e.tag Api.delete.name)

/-- What deleting the consumer comes to. -/
inductive Deletes (m : State) : Except Failure Unit → Session String Value → List Event → Prop where
  | unheld (absent : heldConsumer? m.session = none) : Deletes m (.ok ()) m.session []
  | sent (held : heldConsumer? m.session = some consumer)
      (amid : m.Amid surroundings caller settings .delete m.session within)
      (settled : surroundings.Dependable → r = deletionResult answer) :
      Deletes m r .fresh [⟨within, .sent m.transport (.deletion settings consumer) answer⟩]

/-- What pulling a batch comes to. -/
inductive Consumes (timeout : Value) (m : State) :
    Except Failure Batch → Session String Value → List Event → Prop where
  | unsubscribed (topicless : m.session.isSubscribed = false) :
      Consumes timeout m
        (.error (.permanent "Consumer is not subscribed to any topics" (some Api.consume.name))) m.session []
  | unheld (absent : heldConsumer? m.session = none) :
      Consumes timeout m (.error (unheldFailure .consume)) m.session []
  | incomparable (fault : timeout.isPositive = .error f) : Consumes timeout m (.error (.fault f)) m.session []
  | failed (subscribed : m.session.isSubscribed = true) (held : heldConsumer? m.session = some consumer)
      (amid : m.Amid surroundings caller settings .consume m.session within) (e : Failure) :
      Consumes timeout m (.error (e.tag Api.consume.name)) m.session
        [⟨within, .sent m.transport (.pull settings consumer timeout) (.error e)⟩]
  | unread (subscribed : m.session.isSubscribed = true) (held : heldConsumer? m.session = some consumer)
      (amid : m.Amid surroundings caller settings .consume m.session within)
      (meaningless : ∀ batch, ¬ Denotes Batch.ofText answer batch) (misread : Misread .consume e) :
      Consumes timeout m (.error e) m.session
        [⟨within, .sent m.transport (.pull settings consumer timeout) (.ok answer)⟩]
  | read (subscribed : m.session.isSubscribed = true) (held : heldConsumer? m.session = some consumer)
      (amid : m.Amid surroundings caller settings .consume m.session within)
      (denoted : Denotes Batch.ofText answer batch) (quiet : surroundings.LogsQuietly → r = .ok batch) :
      Consumes timeout m r m.session [⟨within, .sent m.transport (.pull settings consumer timeout) (.ok answer)⟩]

/-- What committing comes to. -/
inductive Commits (m : State) : Except Failure Unit → Session String Value → List Event → Prop where
  | automatic (automatic : settings.autoCommits = true) : Commits m (.ok ()) m.session []
  | unheld (manual : settings.autoCommits = false) (absent : heldConsumer? m.session = none) :
      Commits m (.error (unheldFailure .commit)) m.session []
  | failed (manual : settings.autoCommits = false) (held : heldConsumer? m.session = some consumer)
      (amid : m.Amid surroundings caller settings .commit m.session within) (e : Failure) :
      Commits m (.error (e.tag Api.commit.name)) m.session
        [⟨within, .sent m.transport (.offsets settings consumer) (.error e)⟩]
  | sent (manual : settings.autoCommits = false) (held : heldConsumer? m.session = some consumer)
      (amid : m.Amid surroundings caller settings .commit m.session within) (answer : Option String) :
      Commits m (.ok ()) m.session [⟨within, .sent m.transport (.offsets settings consumer) (.ok answer)⟩]

/-- How a subscription gets its consumer: the one that is held, or a new one. -/
inductive Equips (m : State) : Session String Value → List Event → Prop where
  | held (holding : m.session.hasConsumer = true) : Equips m m.session []
  | created {fresh : Session String Value} (lacking : m.session.hasConsumer = false)
      (creates : Creates surroundings caller settings (m.inside caller settings .subscribe) (.ok ()) fresh
        signals) :
      Equips m fresh signals

/-- What subscribing comes to. -/
inductive Subscribes (topics : Topics) (m : State) :
    Except Failure Unit → Session String Value → List Event → Prop where
  | topicless (refused : wantedTopics topics = .error e) : Subscribes topics m (.error e) m.session []
  | uncreated {fresh : Session String Value} (wanted : wantedTopics topics = .ok chosen)
      (lacking : m.session.hasConsumer = false)
      (creates : Creates surroundings caller settings (m.inside caller settings .subscribe) (.error e) fresh
        signals) :
      Subscribes topics m (.error e) fresh signals
  | unwritten {equipped : Session String Value} (wanted : wantedTopics topics = .ok chosen)
      (equips : Equips surroundings caller settings m equipped signals)
      (refused : TopicsBody.ofArguments [("topics", .list chosen)] = .error issues) :
      Subscribes topics m (.error (.invalid issues)) equipped signals
  | failed {equipped : Session String Value} (wanted : wantedTopics topics = .ok chosen)
      (texts : Arguments.Texts chosen names) (equips : Equips surroundings caller settings m equipped signals)
      (held : heldConsumer? equipped = some consumer)
      (amid : m.Amid surroundings caller settings .subscribe equipped within) (e : Failure) :
      Subscribes topics m (.error (e.tag Api.subscribe.name)) equipped
        (signals ++ [⟨within, .sent m.transport (.subscription settings consumer names) (.error e)⟩])
  | done {equipped : Session String Value} (wanted : wantedTopics topics = .ok chosen)
      (texts : Arguments.Texts chosen names) (equips : Equips surroundings caller settings m equipped signals)
      (held : heldConsumer? equipped = some consumer)
      (amid : m.Amid surroundings caller settings .subscribe equipped within)
      (quiet : surroundings.LogsQuietly → r = .ok ()) :
      Subscribes topics m r { equipped with topics := chosen }
        (signals ++ [⟨within, .sent m.transport (.subscription settings consumer names) (.ok answer)⟩])

end

end ConsumerChannel.Channel
