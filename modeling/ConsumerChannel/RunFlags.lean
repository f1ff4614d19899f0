/-!
The flags that a running loop shares with those who want it to stop.
-/
namespace ConsumerChannel

/-- Whether a loop runs, and whether it has been asked to stop. -/
structure RunFlags where
  running : Bool
  stopRequested : Bool
  deriving DecidableEq, Repr

namespace RunFlags

/-- No loop, no request. -/
def idle : RunFlags := ⟨false, false⟩

/-- Marks a loop as running; false if one runs already. A request to stop stays as it is. -/
def tryStart (f : RunFlags) : Bool × RunFlags :=
  if f.running then (false, f) else (true, { f with running := true })

/-- The end of the loop, which answers every request to stop. -/
def finish (_ : RunFlags) : RunFlags := ⟨false, false⟩

/-- Asks the loop to stop; false if it has been asked already. -/
def tryRequestStop (f : RunFlags) : Bool × RunFlags :=
  if f.stopRequested then (false, f) else (true, { f with stopRequested := true })

/-- Takes a request to stop back. -/
def clearStopRequest (f : RunFlags) : RunFlags := { f with stopRequested := false }

end RunFlags

end ConsumerChannel
