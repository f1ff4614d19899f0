import ConsumerChannel.Yaml.Resolution
import ConsumerChannel.Yaml.Token

/-!
Nodes: the tree that the tokens of a document build. Each node has a tag, given or found out from the
text of a plain scalar; an alias stands for the node of its anchor. Inside the node of an anchor its
alias leads back to that node.
-/
namespace ConsumerChannel.Yaml

/-- A node. -/
inductive Node where
  | scalar (tag : Tag) (text : String)
  | list (tag : Tag) (items : List Node)
  | dict (tag : Tag) (entries : List (Node × Node))
  /-- A collection that this node is a part of, by its anchor. -/
  | around (anchor : String)

namespace Node

/-- The tag of a node. -/
def tag : Node → Tag
  | scalar t _ => t
  | list t _ => t
  | dict t _ => t
  | around _ => .list

/-- The node where nothing is written. -/
def empty : Node := scalar .null ""

/-- What is known while nodes are built. -/
structure Builder where
  tokens : List Token
  /-- What is wrong where the tokens end too early. -/
  ending : Fault
  /-- What handles of tags stand for. -/
  handles : List (String × String)
  /-- The nodes of anchors; nothing for a node that is not complete. -/
  anchors : List (String × Option Node)

/-- A step of building. -/
abbrev Build (α : Type) := StateT Builder (Except Fault) α

/-- Gives up. -/
def fail {α : Type} : Build α := throw .malformedDocument

/-- The next token. -/
def peek : Build Token := do
  let b ← get
  match b.tokens with
  | t :: _ => return t
  | [] => throw b.ending

/-- Past one token. -/
def advance : Build Unit := modify fun b => { b with tokens := b.tokens.tail }

/-- The name of a written tag. -/
def tagName (t : TagName) : Build String := do
  match t.handle with
  | none => return t.suffix
  | some handle =>
    match (← get).handles.find? fun row => row.1 == handle with
    | some (_, meaning) => return meaning ++ t.suffix
    | none => fail

/-- What stands in front of a node: an anchor and a tag, in either order. -/
def properties : Build (Option String × Option TagName) := do
  match ← peek with
  | .anchor name =>
    advance
    match ← peek with
    | .tag t => advance; return (some name, some t)
    | _ => return (some name, none)
  | .tag t =>
    advance
    match ← peek with
    | .anchor name => advance; return (some name, some t)
    | _ => return (none, some t)
  | _ => return (none, none)

/-- An anchor comes into use for a node that is about to be built. -/
def announce : Option String → Build Unit
  | none => return ()
  | some name => do
    if (← get).anchors.any fun row => row.1 == name then fail
    else modify fun b => { b with anchors := (name, none) :: b.anchors }

/-- Whether a node leads back to the collection of an anchor. -/
def leadsTo (name : String) : Node → Bool
  | around anchor => anchor == name
  | _ => false

/-- A dictionary without merging itself into itself, which adds nothing to it. -/
def withoutOwn (name : String) : Node → Node
  | dict t entries =>
    dict t (entries.filterMap fun entry =>
      match entry.1.tag, entry.2 with
      | .merge, around anchor => if anchor == name then none else some entry
      | .merge, list s items => some (entry.1, list s (items.filter (!leadsTo name ·)))
      | _, _ => some entry)
  | other => other

/-- A node is complete, under its anchor if it has one. -/
def settle (anchor : Option String) (n : Node) : Build Node := do
  match anchor with
  | none => return n
  | some name =>
    let n := n.withoutOwn name
    modify fun b => { b with
      anchors := b.anchors.map fun row => if row.1 == name then (name, some n) else row }
    return n

/-- The node of an alias. -/
def aliased (name : String) : Build Node := do
  match (← get).anchors.find? fun row => row.1 == name with
  | some (_, some n) => return n
  | some (_, none) => return around name
  | none => fail

/-- Whether a list or a dictionary inside brackets goes on: it ends at its closing bracket, and
anything after the first member comes behind a comma. -/
def goesOn (isClosing : Token → Bool) (isFirst : Bool) : Build Bool := do
  if isClosing (← peek) then advance; return false
  else if isFirst then return true
  else
    match ← peek with
    | .separator =>
      advance
      if isClosing (← peek) then advance; return false else return true
    | _ => fail

/-- A bracket that closes a list. -/
def closesList : Token → Bool
  | .listClose => true
  | _ => false

/-- A bracket that closes a dictionary. -/
def closesDict : Token → Bool
  | .dictClose => true
  | _ => false

/-- Whether nothing is written where a node could be: what comes next belongs to what is around it. -/
def isOmitted (inEntries inKeys : Bool) : Token → Bool
  | .dedent => true
  | .entry => inEntries
  | .key => inKeys
  | .value => inKeys
  | _ => false

mutual
/-- The node that comes next. Indentation counts outside brackets; the entries of a list that is the
value of a key need none. -/
def build : Nat → (isBlock isValue : Bool) → Build Node
  | 0, _, _ => throw .unfinished
  | fuel + 1, isBlock, isValue => do
    match ← peek with
    | .alias name => advance; aliased name
    | _ =>
      let (anchor, written) ← properties
      let name ← written.mapM tagName
      let given := name.filter (· != plainTag)
      let tagOr (usual : Tag) : Tag := (given.map Tag.ofName).getD usual
      match isValue, isBlock, ← peek with
      | true, _, .entry =>
        announce anchor
        settle anchor (.list (tagOr .list) (← buildOpenEntries fuel))
      | _, _, .scalar text isPlain =>
        advance
        announce anchor
        let usual := if (isPlain && name.isNone) || name == some plainTag then Tag.ofPlain text else .text
        settle anchor (.scalar (tagOr usual) text)
      | _, _, .listOpen =>
        advance
        announce anchor
        settle anchor (.list (tagOr .list) (← buildMembers fuel true))
      | _, _, .dictOpen =>
        advance
        announce anchor
        settle anchor (.dict (tagOr .dict) (← buildFields fuel true))
      | _, true, .entriesStart =>
        advance
        announce anchor
        settle anchor (.list (tagOr .list) (← buildEntries fuel))
      | _, true, .keysStart =>
        advance
        announce anchor
        settle anchor (.dict (tagOr .dict) (← buildKeys fuel))
      | _, _, _ =>
        if anchor.isNone && name.isNone then fail
        else
          announce anchor
          settle anchor (.scalar (tagOr .null) "")
/-- The entries of an indented list. -/
def buildEntries : Nat → Build (List Node)
  | 0 => throw .unfinished
  | fuel + 1 => do
    match ← peek with
    | .entry =>
      advance
      let item ← if isOmitted true false (← peek) then pure empty else build fuel true false
      return item :: (← buildEntries fuel)
    | .dedent => advance; return []
    | _ => fail
/-- The entries of a list that is not indented further than the key it belongs to. -/
def buildOpenEntries : Nat → Build (List Node)
  | 0 => throw .unfinished
  | fuel + 1 => do
    match ← peek with
    | .entry =>
      advance
      let item ← if isOmitted true true (← peek) then pure empty else build fuel true false
      return item :: (← buildOpenEntries fuel)
    | _ => return []
/-- The keys and values of an indented dictionary. -/
def buildKeys : Nat → Build (List (Node × Node))
  | 0 => throw .unfinished
  | fuel + 1 => do
    match ← peek with
    | .key =>
      advance
      let key ← if isOmitted false true (← peek) then pure empty else build fuel true true
      let value ← buildValue fuel
      return (key, value) :: (← buildKeys fuel)
    | .dedent => advance; return []
    | _ => fail
/-- The value behind a colon of an indented dictionary, if there is a colon. -/
def buildValue : Nat → Build Node
  | 0 => throw .unfinished
  | fuel + 1 => do
    match ← peek with
    | .value =>
      advance
      if isOmitted false true (← peek) then return empty else build fuel true true
    | _ => return empty
/-- The members of a list inside brackets. A key there makes a dictionary of one entry. -/
def buildMembers : Nat → (isFirst : Bool) → Build (List Node)
  | 0, _ => throw .unfinished
  | fuel + 1, isFirst => do
    if ← goesOn closesList isFirst then
      match ← peek with
      | .key =>
        advance
        let entry ← buildPair fuel closesList
        return .dict .dict [entry] :: (← buildMembers fuel false)
      | _ =>
        let item ← build fuel false false
        return item :: (← buildMembers fuel false)
    else return []
/-- A key and a value inside brackets, from behind the mark of the key. -/
def buildPair : Nat → (isClosing : Token → Bool) → Build (Node × Node)
  | 0, _ => throw .unfinished
  | fuel + 1, isClosing => do
    let isOver (t : Token) : Bool :=
      match t with
      | .separator => true
      | other => isClosing other
    let isKeyOver (t : Token) : Bool :=
      match t with
      | .value => true
      | other => isOver other
    let key ← if isKeyOver (← peek) then pure empty else build fuel false false
    match ← peek with
    | .value =>
      advance
      let value ← if isOver (← peek) then pure empty else build fuel false false
      return (key, value)
    | _ => return (key, empty)
/-- The entries of a dictionary inside brackets. One without a key mark has no value. -/
def buildFields : Nat → (isFirst : Bool) → Build (List (Node × Node))
  | 0, _ => throw .unfinished
  | fuel + 1, isFirst => do
    if ← goesOn closesDict isFirst then
      match ← peek with
      | .key =>
        advance
        let entry ← buildPair fuel closesDict
        return entry :: (← buildFields fuel false)
      | _ =>
        let key ← build fuel false false
        return (key, empty) :: (← buildFields fuel false)
    else return []
end

/-- What handles stand for where no directive says otherwise. -/
def usualHandles : List (String × String) := [("!", "!"), ("!!", Tag.standard)]

/-- The directives in front of a document. There may be one of the version, which has to be the first
one, and one for each handle. -/
def directives : Nat → (hasVersion : Bool) → List (String × String) → Build Unit
  | 0, _, _ => throw .unfinished
  | fuel + 1, hasVersion, handles => do
    match ← peek with
    | .directive (.version major) =>
      advance
      if hasVersion || major != 1 then fail else directives fuel true handles
    | .directive (.handle name meaning) =>
      advance
      if handles.any fun row => row.1 == name then fail
      else directives fuel hasVersion ((name, meaning) :: handles)
    | .directive .other => advance; directives fuel hasVersion handles
    | _ => modify fun b => { b with handles := handles ++ usualHandles }

/-- Past marks of the end of a document. -/
def skipEnds : Nat → Build Unit
  | 0 => throw .unfinished
  | fuel + 1 => do
    match ← peek with
    | .documentEnd => advance; skipEnds fuel
    | _ => return ()

/-- The document behind the mark of its start. -/
def explicitDocument (fuel : Nat) : Build Node := do
  directives fuel false []
  match ← peek with
  | .documentStart =>
    advance
    match ← peek with
    | .directive _ => return empty
    | .documentStart => return empty
    | .documentEnd => return empty
    | .textEnd => return empty
    | _ => build fuel true false
  | _ => fail

/-- The only document of a text, or nothing if there is none. -/
def document (fuel : Nat) : Build (Option Node) := do
  let found ← match ← peek with
    | .textEnd => pure none
    | .directive _ => some <$> explicitDocument fuel
    | .documentStart => some <$> explicitDocument fuel
    | _ => some <$> build fuel true false
  skipEnds fuel
  match ← peek with
  | .textEnd => return found
  | _ => fail

/-- The node that a text writes, or nothing if it is empty. Each step of building takes a token or goes
on at the same token with another step, so a multiple of the number of tokens is fuel enough. -/
def ofText? (text : List Char) : Except Fault (Option Node) :=
  let (tokens, fault) := tokens text
  (document (8 * tokens.length + 8)).run' ⟨tokens, fault.getD .malformedDocument, usualHandles, []⟩

end Node

end ConsumerChannel.Yaml
