import ConsumerChannel.Rehearsal.Stage

/-!
Playing a script. Moves are made in turn on the spot, whatever thread they belong to; moves within
other moves are played to their end before the outer one goes on. A depth bounds how far moves are
nested.
-/
namespace ConsumerChannel.Rehearsal
open Channel

/-- Plays moves that are nested in another, by default as a thread, and gives the failure that ended
them, if one did. -/
abbrev Nested := Thread → List Move → Stage → Option Failure × Stage

/-- A failure of nested moves, or an answer. -/
def failingOr {α : Type} (failed : Option Failure) (answer : Except Failure α) : Except Failure α :=
  match failed with
  | some e => .error e
  | none => answer

/-- Answers what an endpoint asks for: sends requests through the transport of a number. -/
def answerHttp (nested : Nested) (thread : Thread) (transport : Nat) :
    (q : Http.Query) → Stage → q.Answer × Stage
  | .log r, s => s.logging r
  | .exchange e, s =>
    if Stage.requestLimit ≤ s.requests then
      (Http.Outcome.broken (.fault (.wouldBlock "too many requests")), s)
    else
      let s := { s with requests := s.requests + 1 }.see (.requested (s.seen transport e))
      let (moves, interrupts) := Stage.takeFor (Service.apiOf e.method e.url) s.interrupts
      let (failed, s) := nested thread (moves.getD []) { s with interrupts := interrupts }
      match failed with
      | some failure => (Http.Outcome.broken failure, s)
      | none => s.respond transport e

/-- The next reaction of a callback, and the stage without it. -/
def nextReaction (id : CallbackId) (s : Stage) : Option Reaction × Stage :=
  match s.callbacks[id]? with
  | some (reaction :: rest) => (some reaction, { s with callbacks := s.callbacks.set id rest })
  | _ => (none, s)

/-- Answers a channel's calls to the outside. -/
def answerOutside (nested : Nested) (thread : Thread) : (o : Outside) → Stage → o.Reply × Stage
  | .send transport request, s =>
    (Http.perform s.endpoint request).run.execute (answerHttp nested thread transport) s
  | .openTransport, s =>
    let n := s.opened + 1
    (.ok n, { s with opened := n }.see (.opened n))
  | .closeTransport n, s => (.ok (), s.see (.closed n))
  | .resetCookies n, s => (.ok (), s.setJar n [])
  | .resetAuthorization _, s =>
    match s.endpoint.credentials.bind Credentials.resetRecord with
    | some r => s.logging r
    | none => (.ok (), s)
  | .callback id batch consumer, s =>
    let s := s.see (.called consumer batch s.memory.context)
    match nextReaction id s with
    | (none, s) => (.ok (.bool false), s)
    | (some (moves, failure, answer), s) =>
      let (failed, s) := nested thread moves s
      (failingOr failed (failingOr failure (.ok answer)), s)
  | .sleep seconds, s =>
    let s := s.see (.slept seconds)
    match s.sleeps with
    | [] => (.error (.foreign "OSError" "sleep script exhausted"), s)
    | slumber :: rest =>
      let (failed, s) := nested thread slumber.moves { s with sleeps := rest }
      (failingOr failed
        (failingOr (slumber.interruption.map (Failure.foreign "OSError")) (.ok ())), s)
  | .wait, s =>
    match s.waits with
    | [] => (.error (.fault (.wouldBlock "wait for the running loop")), s)
    | moves :: rest =>
      let (failed, s) := nested thread moves ({ s with waits := rest }.see .waited)
      (failingOr failed (.ok ()), s)
  | .log r, s => s.logging r

/-- Runs an operation of the channel as a thread. -/
def operate {α : Type} (nested : Nested) (thread : Thread) (operation : Operation α) (s : Stage) :
    Except Failure α × Stage :=
  operation.run.execute
    (answering thread Stage.memory (fun memory s => { s with memory := memory })
      (answerOutside nested thread)) s

/-- A result as a report. -/
def reported {α : Type} (report : α → Report) (outcome : Except Failure α × Stage) :
    Except Failure Report × Stage :=
  (outcome.1.map report, outcome.2)

/-- Makes one move as a thread. -/
def perform (nested : Nested) (thread : Thread) (act : Act) (s : Stage) :
    Except Failure Report × Stage :=
  let nothing := reported fun (_ : Unit) => Report.nothing
  let settings := s.settings
  match act with
  | .create => nothing (operate nested thread (create settings) s)
  | .subscribe topics => nothing (operate nested thread (subscribe settings (.ofValue topics)) s)
  | .subscriptions => reported .texts (operate nested thread (subscriptions settings) s)
  | .delete => nothing (operate nested thread (delete settings) s)
  | .consume timeout => reported .batch (operate nested thread (consume settings timeout) s)
  | .commit => nothing (operate nested thread (commit settings) s)
  | .run callback topics =>
    let id := s.callbacks.length
    let (known, s) := match callback with
      | none => (none, s)
      | some reactions => (some id, { s with callbacks := s.callbacks ++ [reactions] })
    nothing (operate nested thread (run settings s.rounds known (.ofValue topics)) s)
  | .stop => nothing (operate nested thread (stop settings s.rounds) s)
  | .destroy => nothing (operate nested thread (destroy settings s.rounds) s)
  | .within moves failure =>
    let (failed, s) := nested thread moves s
    let block := failingOr failed (failingOr failure (.ok ()))
    let (ended, s) := operate nested thread (destroy settings s.rounds) s
    (match ended with
      | .error e => .error e
      | .ok () => block.map fun _ => .nothing, s)
  | .shown => (.ok (.text (shown settings s.memory.session)), s)
  | .context => (.ok (.context s.memory.context), s)
  | .lose => (.ok .nothing, { s with service := { s.service with consumers := [] } })
  | .tell api answers =>
    (.ok .nothing, { s with answers := s.answers ++ answers.map fun a => (api, a) })
  | .interrupt api moves => (.ok .nothing, { s with interrupts := s.interrupts ++ [(api, moves)] })
  | .tryStart patient => reported .flag (operate nested thread (tryStart s.rounds patient) s)
  | .finish => nothing (operate nested thread (Operation.step .finish) s)
  | .tryRequestStop => reported .flag (operate nested thread Operation.tryRequestStop s)
  | .clearStopRequest => nothing (operate nested thread (Operation.step .clearStopRequest) s)
  | .acquire api =>
    nothing (operate nested thread (ExceptT.mk (Operation.ask (.step (.acquire api)))) s)
  | .release => nothing (operate nested thread Operation.release s)
  | .lockDestroy => reported .flag (operate nested thread Operation.lockDestroy s)
  | .unlockDestroy => nothing (operate nested thread Operation.unlockDestroy s)

/-- Makes moves in turn; a failure that propagates ends them. -/
def playAll (play : Move → Stage → Option Failure × Stage) : List Move → Stage → Option Failure × Stage
  | [], s => (none, s)
  | move :: rest, s =>
    match play move s with
    | (some e, s) => (some e, s)
    | (none, s) => playAll play rest s

/-- Plays moves at a level of nesting, by default as a thread. -/
def play : (depth level : Nat) → Nested
  | 0, _ => fun _ _ s => (some (.fault .unfinished), s)
  | depth + 1, level => fun thread moves s =>
    playAll
      (fun move s =>
        let self := move.1.thread.getD thread
        let (result, s) := perform (play depth (level + 1)) self move.2 s
        let s := s.see (.moved move.1.label self level result s.memory)
        match result with
        | .error e => (if move.1.propagate then some e else none, s)
        | .ok _ => (none, s))
      moves s

/-- How far moves may be nested. -/
def depthLimit : Nat := 1000

/-- The stage before the first move, with the channel made, or the failure to make it. -/
def opening (settings : Settings) (endpoint : Http.Endpoint) (script : Script) :
    Except Failure Unit × Stage :=
  let s : Stage :=
    { settings := settings
      rounds := Stage.requestLimit + script.sleeps.length + script.waits.length + 2
      endpoint := endpoint
      memory := State.initial
      jars := []
      opened := 0
      service := .empty
      requests := 0
      answers := script.answers
      interrupts := script.interrupts
      callbacks := []
      sleeps := script.sleeps
      waits := script.waits
      observesLogs := script.observesLogs
      trace := [] }
  operate (fun _ _ s => (none, s)) 1 (establish settings) s

/-- Plays a script with a channel of its own. -/
def rehearse (settings : Settings) (endpoint : Http.Endpoint) (script : Script) :
    Option Failure × Stage :=
  match opening settings endpoint script with
  | (.error e, s) => (some e, s)
  | (.ok (), s) => play depthLimit 0 1 script.moves s

end ConsumerChannel.Rehearsal
