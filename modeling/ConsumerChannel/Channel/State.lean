import ConsumerChannel.LogContext
import ConsumerChannel.RunFlags
import ConsumerChannel.Session

/-!
What a channel holds in memory, and the steps that change it. A step is atomic: threads may be
interleaved between any two steps, but not inside one.
-/
namespace ConsumerChannel.Channel

/-- What a channel holds in memory. -/
structure State where
  guard : Guard
  session : Session String Value
  flags : RunFlags
  context : LogContext
  /-- Whether a thread is destroying the channel. -/
  destroying : Bool
  /-- The number of the transport in use. -/
  transport : Nat

/-- A channel before its first step. -/
def State.initial : State := ⟨.free, .fresh, .idle, .empty, false, 0⟩

/-- A step on the memory of a channel. -/
inductive Step where
  /-- Claims the guard for the caller. -/
  | acquire (api : Option String)
  /-- Gives up the latest claim of the guard. -/
  | release
  /-- How many claims of the guard are open. -/
  | depth
  /-- Whether the caller owns the guard. -/
  | held
  /-- The session as it is. -/
  | session
  /-- Records the consumer. -/
  | setConsumer (id : String) (api : Option String)
  /-- Records the topics. -/
  | replaceTopics (topics : List Value) (api : Option String)
  /-- Forgets consumer and topics. -/
  | resetSession (api : Option String)
  /-- Freezes the session. -/
  | deactivate
  /-- The flags of the loop as they are. -/
  | flags
  /-- Marks a loop as running unless one is. -/
  | tryStart
  /-- Ends the loop. -/
  | finish
  /-- Asks the loop to stop unless it has been asked. -/
  | tryRequestStop
  /-- Takes the request back. -/
  | clearStopRequest
  /-- The log context as it is. -/
  | context
  /-- Changes the log context. -/
  | changeContext (change : LogContext.Change)
  /-- Claims the right to destroy the channel, if nobody has it. -/
  | lockDestroy
  /-- Gives that right up. -/
  | unlockDestroy
  /-- The number of the transport in use. -/
  | transport
  /-- Takes another transport into use. -/
  | useTransport (n : Nat)

namespace Step

/-- What a step answers. -/
def Reply : Step → Type
  | acquire _ => Except Failure Unit
  | release => Except Failure Unit
  | depth => Nat
  | held => Bool
  | session => Session String Value
  | setConsumer _ _ => Except Failure Unit
  | replaceTopics _ _ => Except Failure Unit
  | resetSession _ => Except Failure Unit
  | deactivate => Unit
  | flags => RunFlags
  | tryStart => Bool
  | finish => Unit
  | tryRequestStop => Bool
  | clearStopRequest => Unit
  | context => LogContext
  | changeContext _ => Unit
  | lockDestroy => Bool
  | unlockDestroy => Except Failure Unit
  | transport => Nat
  | useTransport _ => Unit

/-- A change that may be refused; a refused one leaves the state as it is. -/
def attempt {α : Type} (s : State) (changed : Except Failure α) (put : α → State) :
    Except Failure Unit × State :=
  match changed with
  | .ok a => (.ok (), put a)
  | .error e => (.error e, s)

/-- The answer of a step that a thread takes, and the state it leaves. -/
def apply (caller : Thread) : (step : Step) → State → step.Reply × State
  | acquire api, s => attempt s (s.guard.acquire caller api) fun g => { s with guard := g }
  | release, s => attempt s s.guard.release fun g => { s with guard := g }
  | depth, s => (s.guard.depth, s)
  | held, s => (s.guard.heldBy caller, s)
  | session, s => (s.session, s)
  | setConsumer id api, s =>
    attempt s (s.session.setConsumer (some id) api) fun t => { s with session := t }
  | replaceTopics topics api, s =>
    attempt s (s.session.replaceTopics topics api) fun t => { s with session := t }
  | resetSession api, s => attempt s (s.session.reset api) fun t => { s with session := t }
  | deactivate, s => ((), { s with session := s.session.deactivate })
  | flags, s => (s.flags, s)
  | tryStart, s => (s.flags.tryStart.1, { s with flags := s.flags.tryStart.2 })
  | finish, s => ((), { s with flags := s.flags.finish })
  | tryRequestStop, s => (s.flags.tryRequestStop.1, { s with flags := s.flags.tryRequestStop.2 })
  | clearStopRequest, s => ((), { s with flags := s.flags.clearStopRequest })
  | context, s => (s.context, s)
  | changeContext change, s => ((), { s with context := s.context.apply change })
  | lockDestroy, s => (!s.destroying, { s with destroying := true })
  | unlockDestroy, s =>
    if s.destroying then (.ok (), { s with destroying := false })
    else (.error (.fault (.notHeld none)), s)
  | transport, s => (s.transport, s)
  | useTransport n, s => ((), { s with transport := n })

end Step

end ConsumerChannel.Channel
