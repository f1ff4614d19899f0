import ConsumerChannel.Failure

/-!
The guard of a channel. One thread at a time owns it and may claim it as often as it likes; every
other thread is refused at once instead of waiting.
-/
namespace ConsumerChannel

/-- The identity of a thread. -/
abbrev Thread := Int

/-- The text of a refusal because another thread is inside. -/
def contentionMessage : String := "Channel is not safe for multi-threaded access"

/-- The text of a refusal because the channel is destroyed. -/
def destroyedMessage : String := "Channel has been destroyed."

/-- Who owns the guard, and how many claims are open. -/
structure Guard where
  owner : Option Thread
  depth : Nat
  deriving DecidableEq, Repr

namespace Guard

/-- A guard that nobody owns. -/
def free : Guard := ⟨none, 0⟩

/-- Whether the guard belongs to the thread. -/
def heldBy (g : Guard) (caller : Thread) : Bool := g.owner == some caller

/-- A claim by a thread. It is refused if another thread owns the guard. -/
def acquire (g : Guard) (caller : Thread) (api : Option String) : Except Failure Guard :=
  match g.owner with
  | none => .ok ⟨some caller, g.depth + 1⟩
  | some owner =>
    if owner = caller then .ok ⟨some caller, g.depth + 1⟩
    else .error (.transient contentionMessage api)

/-- The text of a refused release. -/
def notHeldMessage : String := "release() called on a guard that is not held"

/-- Gives up the latest claim; the last one frees the guard. -/
def release (g : Guard) : Except Failure Guard :=
  match g.depth with
  | 0 => .error (.fault (.notHeld (some notHeldMessage)))
  | 1 => .ok ⟨none, 0⟩
  | depth + 2 => .ok ⟨g.owner, depth + 1⟩

/-- A claim that is given up again, with a failure, if the channel is no longer active. -/
def acquireActive (g : Guard) (caller : Thread) (active : Bool) (api : Option String) :
    Except Failure Unit × Guard :=
  match g.acquire caller api with
  | .error e => (.error e, g)
  | .ok claimed =>
    if active then (.ok (), claimed)
    else
      match claimed.release with
      | .ok freed => (.error (.permanent destroyedMessage api), freed)
      | .error e => (.error e, claimed)

end Guard

end ConsumerChannel
