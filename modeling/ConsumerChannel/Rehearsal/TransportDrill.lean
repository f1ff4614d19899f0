import ConsumerChannel.Rehearsal.Stage

/-!
Drills of an endpoint on its own. Each request brings the outcome that it is to have; cookies are kept
from one request to the next, and a closed endpoint goes on working.
-/
namespace ConsumerChannel.Rehearsal

/-- A move with an endpoint. -/
inductive TransportMove where
  /-- Sends a request to a path, with the outcome that it is to have. -/
  | send (method : Channel.Method) (path : Value) (body : Option String) (table : StatusTable)
      (outcome : Http.Outcome)
  | resetCookies
  | resetAuthorization
  | close

/-- What is seen of an endpoint. -/
inductive TransportEvent where
  | requested (r : SeenRequest)
  | logged (entry : Json)
  | closed
  /-- A move has ended with a text, with nothing, or with a failure. -/
  | moved (label : String) (result : Except Failure (Option String))

/-- An endpoint and what it remembers. -/
structure TransportDrill where
  endpoint : Http.Endpoint
  cookies : List (String × String)
  /-- Whether log records are part of what is seen. -/
  observesLogs : Bool
  /-- What has been seen, the latest first. -/
  trace : List TransportEvent

namespace TransportDrill

/-- A drill before its first move. -/
def start (endpoint : Http.Endpoint) (observesLogs : Bool) : TransportDrill :=
  ⟨endpoint, [], observesLogs, []⟩

/-- The drill with an event seen. -/
def see (d : TransportDrill) (e : TransportEvent) : TransportDrill := { d with trace := e :: d.trace }

/-- The drill with a record logged. -/
def logging (d : TransportDrill) (r : LogRecord) : Except Failure Unit × TransportDrill :=
  if d.observesLogs then
    match JsonLine.observed .empty r with
    | .error f => (.error (.fault f), d)
    | .ok entry => (.ok (), d.see (.logged entry))
  else (.ok (), d)

/-- The only transport of a drill. -/
def number : Nat := 1

/-- A request as an observer sees it. -/
def seen (d : TransportDrill) (e : Http.Exchange) : SeenRequest :=
  { exchange := e
    transport := number
    cookies := d.cookies
    authorization := d.endpoint.credentials.bind Credentials.header
    timeout := d.endpoint.timeout
    verification := d.endpoint.verification }

/-- Answers what the endpoint asks for, requests with one outcome. -/
def answer (outcome : Http.Outcome) : (q : Http.Query) → TransportDrill → q.Answer × TransportDrill
  | .log r, d => d.logging r
  | .exchange e, d =>
    let d := d.see (.requested (d.seen e))
    match outcome with
    | .answered response => (outcome, { d with cookies := keepCookies d.cookies response.cookies })
    | _ => (outcome, d)

/-- The drill after a move, and the result of the move. -/
def perform : TransportMove → TransportDrill → Except Failure (Option String) × TransportDrill
  | .send method path body table outcome, d =>
    match Http.Endpoint.textOf path with
    | .error f => (.error (.fault f), d)
    | .ok path => (Http.perform d.endpoint ⟨method, path, body, table⟩).run.execute (answer outcome) d
  | .resetCookies, d => (.ok none, { d with cookies := [] })
  | .resetAuthorization, d =>
    match d.endpoint.credentials.bind Credentials.resetRecord with
    | none => (.ok none, d)
    | some r => ((d.logging r).1.map fun _ => none, (d.logging r).2)
  | .close, d => (.ok none, d.see .closed)

/-- Makes moves in turn, each under a label. -/
def performAll (moves : List (String × TransportMove)) (d : TransportDrill) : TransportDrill :=
  moves.foldl (fun d move =>
    let (result, d) := perform move.2 d
    d.see (.moved move.1 result)) d

end TransportDrill

end ConsumerChannel.Rehearsal
