import ConsumerChannel.Number.Binary64

/-!
JSON documents as trees. Objects keep the order of their fields; whole numbers of any size and
floating-point numbers are told apart.
-/
namespace ConsumerChannel

/-- A JSON document. -/
inductive Json where
  | null
  | bool (b : Bool)
  | int (n : Int)
  | float (x : Binary64)
  | text (s : String)
  | array (items : List Json)
  | object (fields : List (String × Json))

instance : Inhabited Json := ⟨.null⟩

namespace Json

/-- The fields with something put under a name: in place of what was there if the name is there, at
the end otherwise. -/
def insertField {α : Type} (fields : List (String × α)) (name : String) (a : α) : List (String × α) :=
  match fields with
  | [] => [(name, a)]
  | (n, b) :: rest => if n = name then (n, a) :: rest else (n, b) :: insertField rest name a

/-- The fields with the last of what stands under a repeated name at the place of the first. -/
def mergeFields {α : Type} (pairs : List (String × α)) : List (String × α) :=
  pairs.foldl (fun fields pair => insertField fields pair.1 pair.2) []

/-- The document under a name. -/
def lookup? (fields : List (String × Json)) (name : String) : Option Json :=
  (fields.find? fun pair => pair.1 == name).map Prod.snd

/-- The document under a name of an object. -/
def get? (document : Json) (name : String) : Option Json :=
  match document with
  | object fields => lookup? fields name
  | _ => none

end Json

end ConsumerChannel
