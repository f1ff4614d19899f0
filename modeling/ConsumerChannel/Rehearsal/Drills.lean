import ConsumerChannel.LogContext
import ConsumerChannel.Session

/-!
Drills of the smaller parts on their own: a guard, a session, and blocks of the log context. A drill
gives one entry per move, with what the part looks like after it.
-/
namespace ConsumerChannel.Rehearsal

/-- A move with a guard. A move that tells whether the session is active stands for a claim that is
given up again if it is not. -/
inductive GuardMove where
  | acquire (thread : Option Thread) (api : Option String)
  | release (thread : Option Thread)
  /-- A claim that needs to know whether the session is active, and is told nothing if it is left out. -/
  | ensureActive (thread : Option Thread) (active : Option Bool) (api : Option String)
  /-- Opens a block that is closed by a later move. -/
  | enter (thread : Option Thread) (active : Bool) (api : Option String)
  /-- Closes the block that was opened last. -/
  | exit (thread : Option Thread)
  /-- A block around other moves, which may fail in the end. -/
  | hold (thread : Option Thread) (active : Bool) (api : Option String) (moves : List GuardMove)
      (failure : Option Failure)
  deriving Inhabited

/-- What is seen after a move with a guard. -/
structure GuardEntry where
  label : String
  result : Except Failure Unit
  guard : Guard
  /-- Whether the thread of the move owns the guard. -/
  held : Bool

/-- A guard, and how many blocks are open. -/
structure GuardDrill where
  guard : Guard
  openBlocks : Nat
  /-- The entries, the latest first. -/
  entries : List GuardEntry

namespace GuardDrill

/-- A drill before its first move. -/
def start : GuardDrill := ⟨.free, 0, []⟩

/-- The drill with an entry for a move that has changed the guard. -/
def note (d : GuardDrill) (label : String) (thread : Thread) (result : Except Failure Unit) : GuardDrill :=
  { d with entries := ⟨label, result, d.guard, d.guard.heldBy thread⟩ :: d.entries }

/-- A change of the guard that may be refused. -/
def attempt (d : GuardDrill) (changed : Except Failure Guard) : Except Failure Unit × GuardDrill :=
  match changed with
  | .ok g => (.ok (), { d with guard := g })
  | .error e => (.error e, d)

/-- A claim of an active session's guard. -/
def claim (d : GuardDrill) (thread : Thread) (active : Bool) (api : Option String) :
    Except Failure Unit × GuardDrill :=
  let (result, guard) := d.guard.acquireActive thread active api
  (result, { d with guard := guard })

mutual
/-- Makes one move, by default as a thread. -/
def move (thread : Thread) : GuardMove → GuardDrill → GuardDrill
  | .acquire t api, d =>
    let self := t.getD thread
    let (result, d) := d.attempt (d.guard.acquire self api)
    d.note "acquire" self result
  | .release t, d =>
    let (result, d) := d.attempt d.guard.release
    d.note "release" (t.getD thread) result
  | .ensureActive t active api, d =>
    let self := t.getD thread
    match active with
    | none => d.note "ensure" self (.error (.fault .wrongSort))
    | some known =>
      let (result, d) := d.claim self known api
      d.note "ensure" self result
  | .enter t active api, d =>
    let self := t.getD thread
    match d.claim self active api with
    | (.ok (), d) => ({ d with openBlocks := d.openBlocks + 1 }).note "enter" self (.ok ())
    | (.error e, d) => d.note "enter" self (.error e)
  | .exit t, d =>
    let self := t.getD thread
    if d.openBlocks = 0 then d.note "exit" self (.error (.fault .outOfRange))
    else
      let (result, d) := { d with openBlocks := d.openBlocks - 1 }.attempt d.guard.release
      d.note "exit" self result
  | .hold t active api moves failure, d =>
    let self := t.getD thread
    match d.claim self active api with
    | (.error e, d) => d.note "hold" self (.error e)
    | (.ok (), d) =>
      let d := moveAll self moves d
      let (released, d) := d.attempt d.guard.release
      match released, failure with
      | .error e, _ => d.note "hold" self (.error e)
      | .ok (), some e => d.note "hold" self (.error e)
      | .ok (), none => d.note "hold" self (.ok ())
/-- Makes moves in turn, by default as a thread. -/
def moveAll (thread : Thread) : List GuardMove → GuardDrill → GuardDrill
  | [], d => d
  | m :: rest, d => moveAll thread rest (move thread m d)
end

end GuardDrill

/-- A move with a session. -/
inductive SessionMove where
  | setConsumer (id : Value) (api : Option String)
  /-- Records the members of a value as topics. -/
  | replace (topics : Value) (api : Option String)
  | reset (api : Option String)
  | deactivate

/-- A session over values of any sort. -/
abbrev ValueSession := Session Value Value

namespace SessionMove

/-- What a move is called. -/
def label : SessionMove → String
  | setConsumer _ _ => "set_consumer"
  | replace _ _ => "replace"
  | reset _ => "reset"
  | deactivate => "deactivate"

/-- The identity that a value stands for; nothing is none. -/
def identity : Value → Option Value
  | .null => none
  | v => some v

/-- Records the members of a value as topics, after the session has agreed to take topics of that
truth. A value without members is of the wrong sort. -/
def replaced (s : ValueSession) (topics : Value) (api : Option String) : Except Failure ValueSession :=
  let stands := if topics.truthy then [topics] else []
  match s.replaceTopics stands api, topics.members? with
  | .error e, _ => .error e
  | .ok _, none => .error (.fault .wrongSort)
  | .ok _, some members => .ok { s with topics := members }

/-- The session after a move, or the failure that it was refused with. -/
def make : SessionMove → ValueSession → Except Failure ValueSession
  | setConsumer id api, s => s.setConsumer (identity id) api
  | replace topics api, s => replaced s topics api
  | reset api, s => s.reset api
  | deactivate, s => .ok s.deactivate

/-- The entries of moves made in turn: each with its label, its failure if it was refused, and the
session after it. -/
def makeAll : List SessionMove → ValueSession → List (String × Option Failure × ValueSession)
  | [], _ => []
  | m :: rest, s =>
    match m.make s with
    | .ok changed => (m.label, none, changed) :: makeAll rest changed
    | .error e => (m.label, some e, s) :: makeAll rest s

end SessionMove

/-- A move with the log context and blocks of it, which go by names. -/
inductive ContextMove where
  | set (change : LogContext.Change)
  | clear
  | make (name : String) (change : LogContext.Change)
  | enter (name : String)
  | exit (name : String)

namespace ContextMove

/-- The log context and the blocks that have been made. -/
structure Drill where
  context : LogContext
  scopes : List (String × LogScope)

/-- The block of a name; one that was never made changes nothing. -/
def Drill.scope (d : Drill) (name : String) : LogScope :=
  ((d.scopes.find? fun row => row.1 == name).map Prod.snd).getD (.ofChange .none)

/-- The drill with a block under a name. -/
def Drill.put (d : Drill) (name : String) (scope : LogScope) : Drill :=
  { d with scopes := (name, scope) :: d.scopes.filter fun row => row.1 != name }

/-- The drill after a move. -/
def step : ContextMove → Drill → Drill
  | set change, d => { d with context := d.context.apply change }
  | clear, d => { d with context := .empty }
  | make name change, d => d.put name (.ofChange change)
  | enter name, d =>
    let (scope, context) := (d.scope name).enter d.context
    { d.put name scope with context := context }
  | exit name, d => { d with context := (d.scope name).exit }

/-- The contexts after each of several moves. -/
def stepAll : List ContextMove → Drill → List LogContext
  | [], _ => []
  | m :: rest, d => (m.step d).context :: stepAll rest (m.step d)

end ContextMove

end ConsumerChannel.Rehearsal
