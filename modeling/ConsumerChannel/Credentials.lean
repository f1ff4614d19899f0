import ConsumerChannel.Environment
import ConsumerChannel.Log.Record
import ConsumerChannel.Value.Text

/-!
Authorization of requests. A bearer token is put on every request; the plain sort puts nothing.
-/
namespace ConsumerChannel

/-- What authorizes requests. -/
inductive Credentials where
  /-- Leaves requests as they are. -/
  | plain
  /-- Puts a token on each request. -/
  | bearer (token : String)
  deriving DecidableEq, Repr

namespace Credentials

/-- Credentials of a token, which has to count as true. -/
def ofToken (token : Value) : Except Fault Credentials :=
  if token.truthy then .ok (.bearer token.plain)
  else .error (.badValue (some "ChannelAuthToken requires 'token'"))

/-- The authorization header that credentials put on a request. -/
def header : Credentials → Option String
  | plain => none
  | bearer token => some ("Bearer " ++ token)

/-- The headers of a request with a value put under a name. -/
def putHeader (headers : List (String × String)) (name value : String) : List (String × String) :=
  match headers with
  | [] => [(name, value)]
  | (n, v) :: rest => if n = name then (n, value) :: rest else (n, v) :: putHeader rest name value

/-- The headers of a request with the credentials put on. -/
def authorize (c : Credentials) (headers : List (String × String)) : List (String × String) :=
  match c.header with
  | none => headers
  | some value => putHeader headers "Authorization" value

/-- What is logged when the authorization is reset. A fixed token has nothing to renew. -/
def resetRecord : Credentials → Option LogRecord
  | plain => none
  | bearer _ => some
    (.event "streaming_client.auth" Level.debug "Static token authorization reset requested" [])

/-- Credentials as messages show them; a token is never shown. -/
def shown : Credentials → Option String
  | plain => none
  | bearer _ => some "ChannelAuthToken(token=[REDACTED])"

/-- The variable that holds a token. -/
def tokenVariable : String := "CHANNEL_TOKEN"

/-- The text of the warning that there is no token. -/
def missingTokenRecord : LogRecord :=
  .event "streaming_client.config" Level.warning "Channel auth token not configured" []

/-- The token of a section of a settings file: the variable wins over the section. -/
def tokenOf (env : Environment) (section' : Value) : Except Fault Value := do
  let .dict entries := section' | throw .noSuchPart
  let auth := (Value.field? entries "auth").getD .null
  match env.get? tokenVariable with
  | some token => if token ≠ "" then return .text token else fromSection auth
  | none => fromSection auth
where
  fromSection (auth : Value) : Except Fault Value :=
    if !auth.truthy then .ok .null
    else
      match auth with
      | .dict entries => .ok ((Value.field? entries "token").getD .null)
      | _ => .error .noSuchPart

/-- The credentials of a section of a settings file, or none with a warning. -/
def ofSection (env : Environment) (section' : Value) : Except Fault (Option Credentials) × List LogRecord :=
  match tokenOf env section' with
  | .error f => (.error f, [])
  | .ok token =>
    if token.truthy then ((ofToken token).map some, []) else (.ok none, [missingTokenRecord])

end Credentials

end ConsumerChannel
