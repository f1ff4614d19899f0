import ConsumerChannel.Http.Endpoint
import ConsumerChannel.Json.Reader

/-!
A small consumer service to rehearse against. It keeps the consumers that it was asked for, with their
topics, and knows the operation of a request from its method and address.
-/
namespace ConsumerChannel.Rehearsal

/-- The service: its consumers with their topics, and how many it has named itself. -/
structure Service where
  consumers : List (String × List String)
  named : Nat

namespace Service

/-- A service without consumers. -/
def empty : Service := ⟨[], 0⟩

/-- What stands before and after the last occurrence of a mark, if there is one. -/
def aroundLast? (mark : List Char) : List Char → Option (List Char × List Char)
  | [] => none
  | c :: rest =>
    match aroundLast? mark rest with
    | some (before, after) => some (c :: before, after)
    | none => if mark.isPrefixOf (c :: rest) then some ([], (c :: rest).drop mark.length) else none

/-- The part of a text before the last occurrence of a mark, or the whole text. -/
def beforeLast (mark s : String) : String :=
  ((aroundLast? mark.toList s.toList).map fun around => String.ofList around.1).getD s

/-- The part of a text after the last occurrence of a mark, or the whole text. -/
def afterLast (mark s : String) : String :=
  ((aroundLast? mark.toList s.toList).map fun around => String.ofList around.2).getD s

/-- The text without a number of characters at its end. -/
def dropEnd (count : Nat) (s : String) : String :=
  String.ofList (s.toList.take (s.length - count))

/-- The suffixes of addresses of an existing consumer. -/
def suffix : Api → String
  | .subscribe => "/subscription"
  | .subscriptions => "/subscription"
  | .consume => "/records"
  | .commit => "/offsets"
  | .create => ""
  | .delete => ""

/-- The address without the time that the service may wait. -/
def address (url : String) : String := beforeLast "?timeout=" url

/-- The operation that a request is for. -/
def apiOf (method : Channel.Method) (url : String) : Api :=
  let place := address url
  if method = .delete then .delete
  else if place.endsWith (suffix .subscribe) then
    if method = .post then .subscribe else .subscriptions
  else if place.endsWith (suffix .consume) then .consume
  else if place.endsWith (suffix .commit) then .commit
  else .create

/-- The consumer that a request is for. -/
def consumerOf (api : Api) (url : String) : String :=
  dropEnd (suffix api).length (afterLast "/consumers/" (address url))

/-- The topics of a consumer, if the service knows it. -/
def topicsOf? (s : Service) (id : String) : Option (List String) :=
  (s.consumers.find? fun row => row.1 == id).map Prod.snd

/-- The service with a consumer and its topics. -/
def register (s : Service) (id : String) (topics : List String) : Service :=
  { s with consumers := s.consumers.filter (fun row => row.1 != id) ++ [(id, topics)] }

/-- The service without a consumer. -/
def forget (s : Service) (id : String) : Service :=
  { s with consumers := s.consumers.filter fun row => row.1 != id }

/-- A good answer with a text. -/
def good (text : String) : Http.Response := ⟨200, some "OK", Text.encode text, []⟩

/-- The answer about a consumer that the service does not know. -/
def unknown : Http.Response := ⟨404, some "Not Found", [], []⟩

/-- The topics that a body lists. -/
def bodyTopics (body : Option String) : List String :=
  match (body.bind (Json.parse? .none)).bind (·.get? "topics") with
  | some (.array items) => items.filterMap fun
    | .text s => some s
    | _ => none
  | _ => []

/-- The service's own answer to a request. -/
def answer (s : Service) (e : Http.Exchange) : Http.Response × Service :=
  match apiOf e.method e.url with
  | .create =>
    let id := "consumer-" ++ toString (s.named + 1)
    (good (Json.render .wire (.object [("consumerInstanceId", .text id)])),
      { s with named := s.named + 1 }.register id [])
  | api =>
    let id := consumerOf api e.url
    match s.topicsOf? id with
    | none => (unknown, s)
    | some topics =>
      match api with
      | .subscribe => (good "", s.register id (bodyTopics e.body))
      | .subscriptions => (good (Json.render .wire (.array (topics.map .text))), s)
      | .delete => (good "", s.forget id)
      | .consume => (good (Json.render .wire (.object [("records", .array [])])), s)
      | _ => (good "", s)

end Service

end ConsumerChannel.Rehearsal
