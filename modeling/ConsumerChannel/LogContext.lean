import ConsumerChannel.Value

/-!
The log context: the group, the consumer and the operation that log records are attributed to.
-/
namespace ConsumerChannel

/-- What log records are attributed to; an empty text stands for nothing. -/
structure LogContext where
  group : Value
  consumer : Value
  api : Value

namespace LogContext

/-- Nothing to attribute to. -/
def empty : LogContext := ⟨.text "", .text "", .text ""⟩

/-- A change of some of the three. -/
structure Change where
  group : Option Value
  consumer : Option Value
  api : Option Value

/-- No change. -/
def Change.none : Change := ⟨.none, .none, .none⟩

/-- The context with a change made. -/
def apply (c : LogContext) (change : Change) : LogContext :=
  ⟨change.group.getD c.group, change.consumer.getD c.consumer, change.api.getD c.api⟩

/-- The change that brings a context back whatever it has become. -/
def restoring (c : LogContext) : Change := ⟨some c.group, some c.consumer, some c.api⟩

end LogContext

/-- A block that changes the context while it is open: the change, and the context it found. -/
structure LogScope where
  change : LogContext.Change
  found : LogContext

namespace LogScope

/-- A block that has not been opened. -/
def ofChange (change : LogContext.Change) : LogScope := ⟨change, .empty⟩

/-- Opens the block: it keeps the context it finds and makes its change. -/
def enter (scope : LogScope) (c : LogContext) : LogScope × LogContext :=
  ({ scope with found := c }, c.apply scope.change)

/-- Closes the block: the context is as it was found. -/
def exit (scope : LogScope) : LogContext := scope.found

end LogScope

end ConsumerChannel
