import ConsumerChannel.Channel.FromFile
import ConsumerChannel.Proofs.Chronicle

/-! A channel deployed: every transport that it builds is an endpoint of its own, for the address of its settings and
with its credentials, and every request goes out through one. A journal keeps all that is seen of the channel and of
its requests. Whatever decides how a channel fares sees the journal without the credentials. -/
namespace ConsumerChannel

namespace Http

/-- The headers that every request carries. -/
def contentHeaders : List (String × String) :=
  [("Content-Type", "application/json"), ("Accept", "application/json")]

/-- The name of the header that credentials put on a request. -/
def authorizationName : String := "Authorization"

/-- The headers of each request through an endpoint. -/
def Endpoint.headers (e : Endpoint) : List (String × String) :=
  match e.credentials with
  | none => contentHeaders
  | some credentials => credentials.authorize contentHeaders

/-- The cookies that the service has had a transport remember. -/
abbrev Jar := List (String × String)

/-- A jar once something has come of a request: cookies of an answer take the place of those with the same names. -/
def Jar.after (jar : Jar) : Outcome → Jar
  | .answered response =>
    response.cookies.foldl (fun kept cookie => kept.filter (fun other => other.1 != cookie.1) ++ [cookie]) jar
  | _ => jar

end Http

namespace Channel
open Operation

/-- What a channel is deployed with: its settings, and what authorizes its requests. -/
structure Deployment where
  settings : Settings
  credentials : Option Credentials

/-- What a public operation gives back. -/
inductive Yield where
  | nothing
  | topics (names : List String)
  | batch (batch : Batch)

/-- The operation of a move, with its result. -/
def Move.yielding (settings : Settings) : Move → Operation Yield
  | subscriptions => do return .topics (← Channel.subscriptions settings)
  | consume timeout => do return .batch (← Channel.consume settings timeout)
  | move => do
    move.operation settings
    return .nothing

/-- A request as it goes out. -/
structure Dispatch where
  /-- The number of the transport. -/
  transport : Nat
  exchange : Http.Exchange
  headers : List (String × String)
  cookies : List (String × String)
  verification : Value
  timeout : Value

/-- A request without its authorization. -/
def Dispatch.unsigned (d : Dispatch) : Dispatch :=
  { d with headers := d.headers.filter fun header => header.1 != Http.authorizationName }

/-- What is seen of a deployed channel. -/
inductive Entry where
  /-- A request went out, and this came of it. -/
  | sent (dispatch : Dispatch) (outcome : Http.Outcome)
  /-- A record was logged in a context. -/
  | logged (record : LogRecord) (context : LogContext)
  /-- A transport was asked for. -/
  | opened (answer : Except Failure Nat)
  /-- A callback was handed a batch and the consumer it came from. -/
  | called (id : CallbackId) (batch : Batch) (consumer : Option String)
  /-- Another call was answered. -/
  | answered (call : Outside) (reply : call.Reply)
  /-- A move of a thread came to its end and left the channel so. -/
  | ended (caller : Thread) (move : Move) (result : Except Failure Yield) (memory : State)

/-- What is seen, without the authorization of requests. -/
def Entry.unsigned : Entry → Entry
  | sent dispatch outcome => sent dispatch.unsigned outcome
  | entry => entry

/-- A channel's memory, the endpoints and the jars of its transports by their numbers, and all that has been seen, in
order. -/
structure Journal where
  memory : State
  endpoints : List Http.Endpoint
  jars : List Http.Jar
  entries : List Entry

namespace Journal

/-- A journal before anything has happened. -/
def blank : Journal := ⟨.initial, [], [], []⟩

/-- What has been seen, without the authorization of requests. -/
def view (j : Journal) : List Entry := j.entries.map Entry.unsigned

/-- The journal with something that was seen just now. -/
def note (j : Journal) (entry : Entry) : Journal := { j with entries := j.entries ++ [entry] }

/-- The journal with another memory. -/
def remember (memory : State) (j : Journal) : Journal := { j with memory := memory }

/-- The journal with one more transport. -/
def connect (j : Journal) (endpoint : Http.Endpoint) : Journal :=
  { j with endpoints := j.endpoints ++ [endpoint], jars := j.jars ++ [[]] }

/-- The journal with the jar of a transport changed. -/
def store (j : Journal) (n : Nat) (change : Http.Jar → Http.Jar) : Journal :=
  { j with jars := j.jars.modify n change }

end Journal

/-- Everything that decides how deployed channels fare. Each choice may depend on all that was seen before, but for the
authorization of requests. -/
structure Network where
  /-- What comes of a request. -/
  outcome : List Entry → Dispatch → Http.Outcome
  /-- The answer to any other call. -/
  reply : List Entry → (call : Outside) → call.Reply
  /-- What other threads make of the flags of the loop while a call is under way. -/
  meanwhile : List Entry → RunFlags → RunFlags
  /-- What a callback that has been called does with the channel before it comes back. -/
  moves : List Entry → List Move

namespace Network
variable (network : Network)

/-- Logs a record. -/
def log (record : LogRecord) (j : Journal) : Except Failure Unit × Journal :=
  (network.reply j.view (.log record), j.note (.logged record j.memory.context))

/-- Answers a call and notes it. -/
def answer (call : Outside) (j : Journal) : call.Reply × Journal :=
  let reply := network.reply j.view call
  (reply, j.note (.answered call reply))

/-- Answers what the endpoint of a transport asks for. -/
def serve (n : Nat) (endpoint : Http.Endpoint) : (q : Http.Query) → Journal → q.Answer × Journal
  | .exchange exchange, j =>
    let dispatch : Dispatch :=
      ⟨n, exchange, endpoint.headers, j.jars.getD n [], endpoint.verification, endpoint.timeout⟩
    let outcome := network.outcome j.view dispatch.unsigned
    (outcome, (j.note (.sent dispatch outcome)).store n (·.after outcome))
  | .log record, j => network.log record j

end Network

namespace Deployment
variable (d : Deployment) (network : Network) (nested : List Move → Journal → Journal)

/-- The endpoint of each transport, or why there is none. -/
def endpoint : Except Fault Http.Endpoint :=
  Http.Endpoint.ofBase d.settings.base d.credentials d.settings.certificates .null

/-- Answers a call of the channel. -/
def outside : (call : Outside) → Journal → call.Reply × Journal
  | .send n request, j =>
    match j.endpoints[n]? with
    | some endpoint => (Http.perform endpoint request).run.execute (network.serve n endpoint) j
    | none => (.error (.fault .outOfRange), j)
  | .openTransport, j =>
    match d.endpoint with
    | .ok endpoint =>
      let n := j.endpoints.length
      (.ok n, (j.connect endpoint).note (.opened (.ok n)))
    | .error fault => (.error (.fault fault), j.note (.opened (.error (.fault fault))))
  | .resetCookies n, j =>
    let answered := network.answer (.resetCookies n) j
    (answered.1, answered.2.store n fun _ => [])
  | .resetAuthorization n, j =>
    match (j.endpoints[n]?.bind Http.Endpoint.credentials).bind Credentials.resetRecord with
    | some record => network.log record j
    | none => (.ok (), j)
  | .callback id batch consumer, j =>
    let called := j.note (.called id batch consumer)
    network.answer (.callback id batch consumer) (nested (network.moves called.view) called)
  | .log record, j => network.log record j
  | call, j => network.answer call j

/-- The host of the operations that a thread runs. While a call is under way, other threads touch the flags. -/
def host (caller : Thread) : (q : Query) → Journal → q.Answer × Journal :=
  answering caller Journal.memory Journal.remember fun call j =>
    let answered := d.outside network nested call j
    let flags := network.meanwhile answered.2.view answered.2.memory.flags
    (answered.1, answered.2.remember { answered.2.memory with flags := flags })

/-- Makes one move as a thread. -/
def make (caller : Thread) (move : Move) (j : Journal) : Journal :=
  let ran := exec (d.host network nested caller) (move.yielding d.settings) j
  ran.2.note (.ended caller move ran.1 ran.2.memory)

/-- Makes moves in turn as one thread; moves of callbacks are made within, to a depth. -/
def carryOut (caller : Thread) : (depth : Nat) → List Move → Journal → Journal
  | 0, _, j => j
  | depth + 1, moves, j =>
    moves.foldl (fun j move => d.make network (carryOut caller depth) caller move j) j

/-- Makes a channel, and then moves with it in turn, each as some thread. Without a transport there is no channel. -/
def live (depth : Nat) (calls : List (Thread × Move)) : Except Failure Unit × Journal :=
  let made := exec (d.host network (fun _ => id) 0) (establish d.settings) .blank
  let make (j : Journal) (call : Thread × Move) : Journal :=
    d.make network (d.carryOut network call.1 depth) call.1 call.2 j
  match made.1 with
  | .error e => (.error e, made.2)
  | .ok () => (.ok (), calls.foldl make made.2)

end Deployment

end Channel

end ConsumerChannel
