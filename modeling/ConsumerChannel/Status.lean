import ConsumerChannel.Failure

/-!
What a response status means. The same status means different things to different operations: an
unknown path while creating a consumer is a mistake in the settings, an unknown path of an existing
consumer says that the service has forgotten it.
-/
namespace ConsumerChannel

/-- The operations that send a request. -/
inductive Api where
  | create
  | delete
  | subscribe
  | subscriptions
  | consume
  | commit
  deriving DecidableEq, Repr

namespace Api

/-- The name of an operation in failures and logs. -/
def name : Api → String
  | create => "create"
  | delete => "delete"
  | subscribe => "subscribe"
  | subscriptions => "subscriptions"
  | consume => "consume"
  | commit => "commit"

/-- The operation with the given name. -/
def ofName? : String → Option Api
  | "create" => some create
  | "delete" => some delete
  | "subscribe" => some subscribe
  | "subscriptions" => some subscriptions
  | "consume" => some consume
  | "commit" => some commit
  | _ => none

end Api

/-- Which category each failed status has; a status that is not listed is transient. -/
abbrev StatusTable := List (Int × Category)

namespace StatusTable

/-- The table of consumer creation. -/
def creation : StatusTable :=
  [(400, .permanent), (401, .transient), (403, .transient), (404, .permanent), (500, .transient)]

/-- The table of every operation that addresses an existing consumer. -/
def existing : StatusTable :=
  [(400, .permanent), (401, .transient), (403, .transient), (404, .sessionLost), (409, .transient),
    (500, .transient)]

/-- The table of an operation. -/
def ofApi : Api → StatusTable
  | .create => creation
  | _ => existing

/-- The category of a status in a table. -/
def classify (table : StatusTable) (status : Int) : Category :=
  ((table.find? fun row => row.1 == status).map Prod.snd).getD .transient

/-- The category of a status for the operation of a given name; unknown operations have an empty
table. -/
def classifyFor (api : String) (status : Int) : Category :=
  classify (((Api.ofName? api).map ofApi).getD []) status

end StatusTable

namespace Failure

/-- The channel failure of the class that stands for a category. -/
def ofCategory (category : Category) (message : String) (cause : Option Failure) (api : Option String)
    (status : Option Int) : Failure :=
  .channel (.ofCategory category) message api status cause

/-- The channel failure for a failed status. -/
def ofStatus (table : StatusTable) (status : Int) (message : String) (cause : Option Failure)
    (api : Option String) : Failure :=
  ofCategory (table.classify status) message cause api (some status)

end Failure

end ConsumerChannel
