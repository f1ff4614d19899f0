import ConsumerChannel.Channel.Query
import ConsumerChannel.Credentials

/-!
Requests over HTTP. An endpoint sends each request once: a network that fails and a status from 400
to 599 become channel failures at once, and any other answer gives its text.
-/
namespace ConsumerChannel.Http

/-- Where requests go, and how. -/
structure Endpoint where
  /-- The address without slashes at its end. -/
  base : String
  credentials : Option Credentials
  /-- The certificates to trust; anything that counts as false turns verification off. -/
  certificates : Value
  /-- How long to wait for an answer. -/
  timeout : Value

/-- An answer. -/
structure Response where
  status : Int
  reason : Option String
  body : List UInt8
  /-- Cookies to remember. -/
  cookies : List (String × String)

/-- What comes of sending a request. -/
inductive Outcome where
  | answered (response : Response)
  /-- The network failed, with the name and the text of its failure. -/
  | unreachable (name text : String)
  /-- Something else failed on the way. -/
  | broken (failure : Failure)

/-- A request as it goes out. -/
structure Exchange where
  method : Channel.Method
  url : String
  body : Option String

/-- What an endpoint asks for. -/
inductive Query where
  | exchange (e : Exchange)
  | log (r : LogRecord)

/-- What an endpoint is answered. -/
def Query.Answer : Query → Type
  | exchange _ => Outcome
  | log _ => Except Failure Unit

namespace Endpoint

/-- The text of an address or of a path, which nothing else can stand for. -/
def textOf : Value → Except Fault String
  | .text s => .ok s
  | .bytes _ => .error .wrongSort
  | .byteArray _ => .error .wrongSort
  | _ => .error .noSuchPart

/-- The endpoint of an address, which has to be a text that is more than slashes. -/
def ofBase (base : Value) (credentials : Option Credentials) (certificates timeout : Value) :
    Except Fault Endpoint := do
  let address ← if base.truthy then (textOf base).map (Text.dropTrailing '/') else pure ""
  if address = "" then throw (.badValue (some "Request requires 'base'"))
  return ⟨address, credentials, certificates, timeout⟩

/-- The verification that an endpoint asks for. -/
def verification (e : Endpoint) : Value :=
  if e.certificates.truthy then e.certificates else .bool false

/-- The address of a path: one slash stands between the two. -/
def url (e : Endpoint) (path : String) : String := e.base ++ "/" ++ Text.dropLeading '/' path

end Endpoint

namespace Response

/-- Whether a status is no failure. -/
def isGood (r : Response) : Bool := r.status < 400 || 600 ≤ r.status

/-- The body as text. -/
def text (r : Response) : String := Text.decodeLenient r.body

/-- The most characters of a body that a failure quotes. -/
def quotedLength : Nat := 500

/-- The body as a failure quotes it. -/
def quotedBody (r : Response) : String :=
  let cs := r.text.toList
  if quotedLength < cs.length then String.ofList (cs.take quotedLength) ++ "..." else r.text

/-- The message of the failure of a bad status. -/
def failureMessage (r : Response) : String :=
  let head := "Unexpected response status " ++ toString r.status ++ " " ++ r.reason.getD ""
  String.ofList (Text.trimRight Text.isBlank head.toList) ++
    (if r.quotedBody = "" then "" else ": " ++ r.quotedBody)

end Response

/-- A program of an endpoint that may fail. -/
abbrev Sending (α : Type) := ExceptT Failure (Program Query Query.Answer) α

/-- A record of the endpoint. -/
def record (level : Level) (message : String) (extras : List (String × Value)) : LogRecord :=
  .event "streaming_client.transport" level message extras

/-- The program that asks one question. -/
def ask (q : Query) : Program Query Query.Answer q.Answer := Program.query q

/-- Logs a record. -/
def log (r : LogRecord) : Sending Unit := ExceptT.mk (ask (.log r))

/-- Sends a request. -/
def exchange (e : Exchange) : Sending Outcome := ExceptT.lift (ask (.exchange e))

/-- Sends a request of a channel: gives the text of a good answer, nothing if it is empty. -/
def perform (endpoint : Endpoint) (request : Channel.Request) : Sending (Option String) := do
  let method := request.method.name
  let url := endpoint.url request.path
  let about : List (String × Value) := [("http_method", .text method), ("http_url", .text url)]
  match ← exchange ⟨request.method, url, request.body⟩ with
  | .broken failure => throw failure
  | .unreachable name text =>
    log (record Level.warning "HTTP request failed"
      (about ++ [("error_type", .text name), ("error_message", .text (String.ofList (text.toList.take 200)))]))
    throw (.channel .transient (method ++ " " ++ url ++ " failed: " ++ name) none none
      (some (.foreign name text)))
  | .answered response =>
    if response.isGood then
      log (record Level.debug "HTTP request completed" (about ++ [("http_status", .int response.status)]))
      if response.text = "" then return none else return some response.text
    else
      let failure := Failure.ofStatus request.table response.status response.failureMessage none none
      let category := (request.table.classify response.status).text
      log (record Level.warning "HTTP request returned error status"
        (about ++ [("http_status", .int response.status), ("error_category", .text category)]))
      throw failure

end ConsumerChannel.Http
