import ConsumerChannel.Channel.State
import ConsumerChannel.Log.Record
import ConsumerChannel.Program
import ConsumerChannel.Status
import ConsumerChannel.Wire.Records

/-!
What the operations of a channel ask for: steps on its own memory, and calls to the outside. Requests
go through a transport, which tells only the text of a good answer or the failure of a bad one.
-/
namespace ConsumerChannel.Channel

/-- The methods of requests. -/
inductive Method where
  | get
  | post
  | delete
  deriving DecidableEq, Repr

/-- The name of a method. -/
def Method.name : Method → String
  | get => "GET"
  | post => "POST"
  | delete => "DELETE"

/-- A request as a transport is given it. -/
structure Request where
  method : Method
  path : String
  body : Option String
  /-- What the failed statuses of the answer mean. -/
  table : StatusTable
  deriving DecidableEq

/-- Which of the callbacks that the outside knows is meant. -/
abbrev CallbackId := Nat

/-- A call to the outside. -/
inductive Outside where
  /-- Sends a request through the transport of a number. -/
  | send (transport : Nat) (request : Request)
  /-- Builds another transport. -/
  | openTransport
  /-- Closes a transport. -/
  | closeTransport (transport : Nat)
  /-- Drops what the service had a transport remember. -/
  | resetCookies (transport : Nat)
  /-- Drops what a transport remembers of its authorization. -/
  | resetAuthorization (transport : Nat)
  /-- Hands a batch and the consumer it came from to a callback. -/
  | callback (id : CallbackId) (batch : Batch) (consumer : Option String)
  /-- Sleeps for some seconds. -/
  | sleep (seconds : Value)
  /-- Waits until a loop has ended or may have. -/
  | wait
  /-- Logs a record. -/
  | log (record : LogRecord)

/-- What a call to the outside answers. -/
def Outside.Reply : Outside → Type
  | send _ _ => Except Failure (Option String)
  | openTransport => Except Failure Nat
  | closeTransport _ => Except Failure Unit
  | resetCookies _ => Except Failure Unit
  | resetAuthorization _ => Except Failure Unit
  | callback _ _ _ => Except Failure Value
  | sleep _ => Except Failure Unit
  | wait => Except Failure Unit
  | log _ => Except Failure Unit

/-- What an operation of a channel asks for. -/
inductive Query where
  | step (s : Step)
  | outside (o : Outside)

/-- What an operation of a channel is answered. -/
def Query.Answer : Query → Type
  | step s => s.Reply
  | outside o => o.Reply

/-- Answers steps from the memory of a channel, and hands everything else to the outside. -/
def answering {σ : Type} (caller : Thread) (memory : σ → State) (remember : State → σ → σ)
    (outside : (o : Outside) → σ → o.Reply × σ) : (q : Query) → σ → q.Answer × σ
  | .step s, w =>
    let (reply, state) := s.apply caller (memory w)
    (reply, remember state w)
  | .outside o, w => outside o w

end ConsumerChannel.Channel
