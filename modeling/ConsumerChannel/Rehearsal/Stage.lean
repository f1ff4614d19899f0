import ConsumerChannel.Log.JsonLine
import ConsumerChannel.Rehearsal.Script
import ConsumerChannel.Rehearsal.Service

/-!
The stage of a rehearsal: the channel's memory, the service, what is left of the script, and the trace
of everything that an observer sees, in order.
-/
namespace ConsumerChannel.Rehearsal

/-- A request as an observer sees it. -/
structure SeenRequest where
  exchange : Http.Exchange
  /-- The number of the transport. -/
  transport : Nat
  /-- The cookies that go along, by name. -/
  cookies : List (String × String)
  authorization : Option String
  timeout : Value
  verification : Value

/-- Cookies with more put in, in the order of their names. -/
def keepCookies (cookies more : List (String × String)) : List (String × String) :=
  (more.foldl (fun kept cookie => kept.filter (fun c => c.1 != cookie.1) ++ [cookie]) cookies).mergeSort
    fun a b => decide (a.1 ≤ b.1)

/-- What a move answers. -/
inductive Report where
  | nothing
  | flag (b : Bool)
  | batch (b : Batch)
  | texts (items : List String)
  | text (s : String)
  | context (c : LogContext)

/-- What an observer sees. -/
inductive Event where
  | opened (transport : Nat)
  | closed (transport : Nat)
  | requested (r : SeenRequest)
  | logged (entry : Json)
  | called (consumer : Option String) (batch : Batch) (context : LogContext)
  | slept (seconds : Value)
  | waited
  /-- A move at a depth has ended and left the channel in a state. -/
  | moved (label : String) (thread : Thread) (depth : Nat) (result : Except Failure Report)
      (state : Channel.State)

/-- The stage. -/
structure Stage where
  settings : Settings
  /-- How often a loop may go on. -/
  rounds : Nat
  endpoint : Http.Endpoint
  memory : Channel.State
  /-- The cookies of each transport. -/
  jars : List (Nat × List (String × String))
  opened : Nat
  service : Service
  /-- How many requests have been sent. -/
  requests : Nat
  answers : List (Api × ToldAnswer)
  interrupts : List (Api × List Move)
  callbacks : List (List Reaction)
  sleeps : List Slumber
  waits : List (List Move)
  observesLogs : Bool
  /-- The trace, the latest first. -/
  trace : List Event

namespace Stage

/-- The stage with an event seen. -/
def see (s : Stage) (e : Event) : Stage := { s with trace := e :: s.trace }

/-- The trace in order. -/
def events (s : Stage) : List Event := s.trace.reverse

/-- The stage with a record logged. If logs are observed, a record that cannot be written fails
whoever logs it. -/
def logging (s : Stage) (r : LogRecord) : Except Failure Unit × Stage :=
  if s.observesLogs then
    match JsonLine.observed s.memory.context r with
    | .error f => (.error (.fault f), s)
    | .ok entry => (.ok (), s.see (.logged entry))
  else (.ok (), s)

/-- The first entry for an operation of a row, and the row without it. -/
def takeFor {α : Type} (api : Api) : List (Api × α) → Option α × List (Api × α)
  | [] => (none, [])
  | (a, x) :: rest =>
    if a = api then (some x, rest)
    else
      let found := takeFor api rest
      (found.1, (a, x) :: found.2)

/-- The cookies of a transport. -/
def jar (s : Stage) (transport : Nat) : List (String × String) :=
  ((s.jars.find? fun row => row.1 == transport).map Prod.snd).getD []

/-- The stage with other cookies in a transport. -/
def setJar (s : Stage) (transport : Nat) (cookies : List (String × String)) : Stage :=
  { s with jars := (transport, cookies) :: s.jars.filter fun row => row.1 != transport }

/-- A request as an observer sees it. -/
def seen (s : Stage) (transport : Nat) (e : Http.Exchange) : SeenRequest :=
  { exchange := e
    transport := transport
    cookies := s.jar transport
    authorization := s.endpoint.credentials.bind Credentials.header
    timeout := s.endpoint.timeout
    verification := s.endpoint.verification }

/-- The outcome of a request: the next one told for its operation, or the service's own. Cookies of an
answer are kept whatever its status. -/
def respond (s : Stage) (transport : Nat) (e : Http.Exchange) : Http.Outcome × Stage :=
  let api := Service.apiOf e.method e.url
  let (told, answers) := takeFor api s.answers
  let (outcome, s) : Http.Outcome × Stage := match told with
    | some t =>
      let service := match t.alive with
        | some id => s.service.register id []
        | none => s.service
      (t.outcome, { s with answers := answers, service := service })
    | none =>
      let (response, service) := s.service.answer e
      (.answered response, { s with service := service })
  match outcome with
  | .answered response =>
    if response.cookies.isEmpty then (outcome, s)
    else (outcome, s.setJar transport (keepCookies (s.jar transport) response.cookies))
  | _ => (outcome, s)

/-- The most requests of a rehearsal. -/
def requestLimit : Nat := 300

end Stage

end ConsumerChannel.Rehearsal
