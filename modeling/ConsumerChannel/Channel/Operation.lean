import ConsumerChannel.Channel.Query
import ConsumerChannel.Settings

/-!
Operations of a channel as programs that may fail. A failure in the last part of a block, which runs
on every way out, takes the place of the failure that ended the block.
-/
namespace ConsumerChannel.Channel

/-- A program of a channel that may fail. -/
abbrev Operation (α : Type) := ExceptT Failure (Program Query Query.Answer) α

namespace Operation
variable {α β : Type}

/-- The program that asks one question. -/
def ask (q : Query) : Program Query Query.Answer q.Answer := Program.query q

/-- A step of a channel, with whatever it answers. -/
def step (s : Step) : Operation s.Reply := ExceptT.lift (ask (.step s))

/-- The result of a program that was run to its end. -/
def settle : Except Failure α → Operation α
  | .ok a => pure a
  | .error e => throw e

/-- A value, or its fault as a failure. -/
def ofFault : Except Fault α → Operation α
  | .ok a => pure a
  | .error f => throw (.fault f)

/-- The outcome of an operation, whichever it is. -/
def outcome (body : Operation α) : Operation (Except Failure α) := ExceptT.lift body.run

/-- A block and what runs on every way out of it. -/
def ensuring (body : Operation α) (last : Operation Unit) : Operation α := do
  let result ← outcome body
  last
  settle result

/-- A block and what is done about its failure. -/
def rescue (body : Operation α) (repair : Failure → Operation α) : Operation α := do
  match ← outcome body with
  | .ok a => return a
  | .error e => repair e

/-- A block whose channel failures go by the name of an operation. -/
def tagged (api : Api) (body : Operation α) : Operation α :=
  rescue body fun e => throw (e.tag api.name)

/-- Claims the guard. -/
def acquire (api : String) : Operation Unit :=
  ExceptT.mk (ask (.step (.acquire (some api))))

/-- Gives up the latest claim of the guard. -/
def release : Operation Unit := ExceptT.mk (ask (.step .release))

/-- The session as it is. -/
def session : Operation (Session String Value) := step .session

/-- The flags of the loop as they are. -/
def flags : Operation RunFlags := step .flags

/-- How many claims of the guard are open. -/
def depth : Operation Nat := step .depth

/-- Whether the caller owns the guard. -/
def held : Operation Bool := step .held

/-- Asks the loop to stop; false if it has been asked. -/
def tryRequestStop : Operation Bool := step .tryRequestStop

/-- Claims the right to destroy the channel; false if somebody has it. -/
def lockDestroy : Operation Bool := step .lockDestroy

/-- Gives up the right to destroy the channel. -/
def unlockDestroy : Operation Unit := ExceptT.mk (ask (.step .unlockDestroy))

/-- Waits until a loop has ended or may have. -/
def wait : Operation Unit := ExceptT.mk (ask (.outside .wait))

/-- Sleeps for some seconds. -/
def sleep (seconds : Value) : Operation Unit := ExceptT.mk (ask (.outside (.sleep seconds)))

/-- Hands a batch and the consumer it came from to a callback. -/
def callBack (id : CallbackId) (batch : Batch) (consumer : Option String) : Operation Value :=
  ExceptT.mk (ask (.outside (.callback id batch consumer)))

/-- Records the consumer. -/
def setConsumer (id : String) (api : Api) : Operation Unit :=
  ExceptT.mk (ask (.step (.setConsumer id (some api.name))))

/-- Records the topics. -/
def replaceTopics (topics : List Value) (api : Api) : Operation Unit :=
  ExceptT.mk (ask (.step (.replaceTopics topics (some api.name))))

/-- Changes the log context. -/
def changeContext (change : LogContext.Change) : Operation Unit := step (.changeContext change)

/-- Logs a record of the channel. -/
def log (level : Level) (message : String) (extras : List (String × Value)) : Operation Unit :=
  ExceptT.mk (ask (.outside (.log (.event "streaming_client.channel" level message extras))))

/-- Sends a request through the transport in use. -/
def send (request : Request) : Operation (Option String) := do
  let n ← step .transport
  ExceptT.mk (ask (.outside (.send n request)))

/-- Closes the transport in use. -/
def closeTransport : Operation Unit := do
  let n ← step .transport
  ExceptT.mk (ask (.outside (.closeTransport n)))

/-- Builds a transport and takes it into use. -/
def openTransport : Operation Unit := do
  let n ← (ExceptT.mk (ask (.outside .openTransport)) : Operation Nat)
  step (.useTransport n)

/-- Forgets consumer and topics, and what the transport in use remembers. -/
def reset (api : Api) : Operation Unit := do
  ExceptT.mk (ask (.step (.resetSession (some api.name))))
  let n ← step .transport
  ExceptT.mk (ask (.outside (.resetCookies n)))
  ExceptT.mk (ask (.outside (.resetAuthorization n)))

/-- Claims the guard of an active channel; a destroyed one gives it up again and refuses. -/
def acquireActive (api : String) : Operation Unit := do
  acquire api
  if !(← session).active then
    release
    throw (.permanent destroyedMessage (some api))

/-- A block under the guard. -/
def holding (api : String) (body : Operation α) : Operation α := do
  acquireActive api
  ensuring body release

/-- A block in a changed log context. -/
def inContext (change : LogContext.Change) (body : Operation α) : Operation α := do
  let found ← step .context
  changeContext change
  ensuring body (changeContext found.restoring)

/-- The block of one operation: under the guard, its log records attributed to the group, to the
consumer that is held, and to the operation. -/
def named (settings : Settings) (api : Api) (body : Operation α) : Operation α :=
  holding api.name do
    let s ← session
    let group := match settings.group with
      | .null => none
      | given => some given
    inContext ⟨group, s.consumer.map .text, some (.text api.name)⟩ body

end Operation

end ConsumerChannel.Channel
