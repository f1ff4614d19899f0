import ConsumerChannel.Yaml.Node
import ConsumerChannel.Yaml.Scalar

/-!
The value of a document. Collections are made level by level: all members of one level are looked at
before any member of the next, which decides what is reported of a document with several faults.
-/
namespace ConsumerChannel.Yaml

namespace Node

mutual
/-- How far nodes are nested. -/
def height : Node → Nat
  | scalar _ _ => 0
  | list _ items => heightOfItems items + 1
  | dict _ entries => heightOfEntries entries + 1
  | around _ => 0
/-- How far the furthest of several nodes is nested. -/
def heightOfItems : List Node → Nat
  | [] => 0
  | n :: rest => max (height n) (heightOfItems rest)
/-- How far the furthest key or value is nested. -/
def heightOfEntries : List (Node × Node) → Nat
  | [] => 0
  | (k, v) :: rest => max (max (height k) (height v)) (heightOfEntries rest)
end

/-- A key, which stands for itself where the mark of a default value is written. -/
def asKey : Node → Node
  | scalar .default s => scalar .text s
  | list .default items => list .text items
  | dict .default entries => dict .text entries
  | other => other

/-- The entries of a dictionary with those of its merged dictionaries in front. Several may be merged
from a list, the first of which wins and so comes last. Merging what the dictionary is a part of makes
the dictionary a part of itself. -/
def merged : (fuel : Nat) → List (Node × Node) → Except Fault (List (Node × Node))
  | 0, _ => .error .unfinished
  | fuel + 1, entries => do
    let isMerge (entry : Node × Node) : Bool := entry.1.tag == .merge
    let entriesOf (n : Node) : Except Fault (List (Node × Node)) :=
      match n with
      | dict _ inner => merged fuel inner
      | around name => .ok [(empty, around name)]
      | _ => refused
    let taken ← (entries.filter isMerge).mapM fun entry =>
      match entry.2 with
      | list _ items => do return ((← items.mapM entriesOf).reverse).flatten
      | other => entriesOf other
    return taken.flatten ++
      (entries.filter (!isMerge ·)).map fun entry => (entry.1.asKey, entry.2)

/-- The text of a node under a tag of scalars. The default value of a dictionary stands for it. -/
def textOf : (fuel : Nat) → Node → Except Fault String
  | 0, _ => .error .unfinished
  | fuel + 1, n =>
    match n with
    | scalar _ s => .ok s
    | list _ _ => refused
    | around _ => .error .endless
    | dict _ entries =>
      match entries.find? fun entry => entry.1.tag == .default with
      | some (_, v) => textOf fuel v
      | none => refused

/-- The value of a node under a tag of scalars. Only a text can be read as a point in time. -/
def scalarValue (n : Node) : Except Fault Value := do
  let s ← textOf (n.height + 1) n
  match n with
  | scalar tag _ => Scalar.value tag s
  | other => if other.tag == .timestamp then throw .wrongSort else Scalar.value other.tag s

/-- What is looked at in turn to make a collection. -/
inductive Look where
  | member (n : Node)
  /-- A key, which must not be a collection. -/
  | key (n : Node)
  /-- Something is not what the collection needs. -/
  | bad

/-- What is looked at to make a list of pairs, up to the first member that is not a dictionary of one
entry. -/
def looksOfPairs : List Node → List Look
  | [] => []
  | dict _ [(k, v)] :: rest => .member k :: .member v :: looksOfPairs rest
  | _ :: _ => [.bad]

/-- What is looked at to make a collection. -/
def looks (n : Node) : List Look :=
  match n.tag, n with
  | _, around _ => []
  | .list, list _ items => items.map .member
  | .orderedPairs, list _ items => looksOfPairs items
  | .pairs, list _ items => looksOfPairs items
  | .dict, dict _ entries => ofEntries entries
  | .set, dict _ entries => ofEntries entries
  | _, _ => [.bad]
where
  ofEntries (entries : List (Node × Node)) : List Look :=
    match merged (heightOfEntries entries + 1) entries with
    | .ok entries => entries.flatMap fun entry => [.key entry.1, .member entry.2]
    | .error _ => [.bad]

/-- Faults by the level at which they come up. -/
abbrev Levels := List (List Fault)

/-- The faults of one thing and of the next, level by level. -/
def Levels.join : Levels → Levels → Levels
  | [], b => b
  | a, [] => a
  | x :: a, y :: b => (x ++ y) :: Levels.join a b

/-- The faults of a node: those of a scalar at once, those of the members of a collection one level
later. -/
def faults : (fuel : Nat) → Node → Levels
  | 0, _ => [[.unfinished]]
  | fuel + 1, n =>
    if n.tag.isCollection then
      [] :: (n.looks.map fun
        | .member m => faults fuel m
        | .key k =>
          if k.tag.isCollection then [[Fault.malformedDocument]] else faults fuel k
        | .bad => [[Fault.malformedDocument]]).foldr Levels.join []
    else
      match n.scalarValue with
      | .ok _ => []
      | .error f => [[f]]

/-- The value of a node without faults. -/
def value : (fuel : Nat) → Node → Except Fault Value
  | 0, _ => .error .unfinished
  | fuel + 1, n => do
    let pairs (items : List Node) : Except Fault Value := do
      return .list (← items.mapM fun
        | dict _ [(k, v)] => do return .tuple [← value fuel k, ← value fuel v]
        | _ => refused)
    match n.tag, n with
    | _, around _ => return .itself
    | .list, list _ items => return .list (← items.mapM (value fuel))
    | .orderedPairs, list _ items => pairs items
    | .pairs, list _ items => pairs items
    | .dict, dict _ entries => do
      let entries ← merged (heightOfEntries entries + 1) entries
      return .dict (Value.mergeEntries
        (← entries.mapM fun entry => do return (← value fuel entry.1, ← value fuel entry.2)))
    | .set, dict _ entries => do
      let entries ← merged (heightOfEntries entries + 1) entries
      return .set (Value.mergeMembers (← entries.mapM fun entry => value fuel entry.1))
    | _, n => n.scalarValue

end Node

/-- A character that a YAML text may hold. -/
def isAllowed (c : Char) : Bool :=
  let n := c.toNat
  n == 0x09 || n == 0x0A || n == 0x0D || (0x20 ≤ n && n ≤ 0x7E) || n == 0x85 ||
    (0xA0 ≤ n && n ≤ 0xD7FF) || (0xE000 ≤ n && n ≤ 0xFFFD) || 0x10000 ≤ n

/-- A text with line ends of one kind. -/
def unifyLineEnds : List Char → List Char
  | '\r' :: '\n' :: rest => '\n' :: unifyLineEnds rest
  | '\r' :: rest => '\n' :: unifyLineEnds rest
  | c :: rest => c :: unifyLineEnds rest
  | [] => []

/-- The value of the only document of a text; nothing if there is none. -/
def read (s : String) : Except Fault Value := do
  let text := unifyLineEnds s.toList
  if !text.all isAllowed then refused
  else
    match ← Node.ofText? text with
    | none => return .null
    | some n =>
      match (n.faults (n.height + 2)).flatten with
      | f :: _ => throw f
      | [] => n.value (n.height + 2)

end ConsumerChannel.Yaml
