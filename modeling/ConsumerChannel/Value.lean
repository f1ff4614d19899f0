import ConsumerChannel.Calendar
import ConsumerChannel.Failure
import ConsumerChannel.Number.Decimal

/-!
Values of settings and log fields. Neither has a fixed shape: a settings file and a caller may put
anything anywhere, so what a value is good for is decided where it is used.
-/
namespace ConsumerChannel

/-- A value of any sort. Dictionaries and sets keep the order of insertion. -/
inductive Value where
  | null
  | bool (b : Bool)
  | int (n : Int)
  | float (x : Binary64)
  | text (s : String)
  | bytes (b : List UInt8)
  | byteArray (b : List UInt8)
  | decimal (d : Decimal)
  | date (d : Date)
  | dateTime (t : DateTime)
  | path (p : String)
  | list (items : List Value)
  | tuple (items : List Value)
  | set (items : List Value)
  | frozenSet (items : List Value)
  | dict (entries : List (Value × Value))
  | category (c : Category)
  | failure (f : Failure)

instance : Inhabited Value := ⟨.null⟩

namespace Value

/-- What stands in a collection for one that it is a part of: the failure that going through it comes
to. -/
def itself : Value := failure (.fault .endless)

/-- Whether a value counts as true: not nothing, not zero and not empty. -/
def truthy : Value → Bool
  | null => false
  | bool b => b
  | int n => n != 0
  | float x => x.sign? != some 0
  | text s => s != ""
  | bytes b => !b.isEmpty
  | byteArray b => !b.isEmpty
  | decimal d => !d.isZero
  | list items => !items.isEmpty
  | tuple items => !items.isEmpty
  | set items => !items.isEmpty
  | frozenSet items => !items.isEmpty
  | dict entries => !entries.isEmpty
  | date _ => true
  | dateTime _ => true
  | path _ => true
  | category _ => true
  | failure _ => true

/-- A number as a fraction; truth values count as one and zero. -/
def toRatio? : Value → Option (Int × Nat)
  | bool b => some (if b then 1 else 0, 1)
  | int n => some (n, 1)
  | float x => x.toRatio?
  | decimal d => d.toRatio?
  | _ => none

/-- Equality of numbers as fractions. -/
def sameRatio (a b : Int × Nat) : Bool :=
  a.1 * b.2 == b.1 * a.2

/-- Whether two infinities are the same. -/
def sameInfinity (a b : Value) : Bool :=
  let side : Value → Option Bool
    | float (.infinity negative) => some negative
    | decimal (.infinity negative) => some negative
    | _ => none
  match side a, side b with
  | some x, some y => x == y
  | _, _ => false

/-- Whether two leaves are the same key: numbers by their size whatever their sort. -/
def sameLeaf : Value → Value → Bool
  | null, null => true
  | text a, text b => a == b
  | bytes a, bytes b => a == b
  | date a, date b => a == b
  | dateTime a, dateTime b =>
    a.offset.isSome == b.offset.isSome && a.instant == b.instant
  | path a, path b => a == b
  | category a, category b => a == b
  | a, b =>
    match a.toRatio?, b.toRatio? with
    | some x, some y => sameRatio x y
    | _, _ => sameInfinity a b

mutual
/-- Whether two values are the same key of a dictionary. -/
def sameKey : Value → Value → Bool
  | tuple a, tuple b => sameKeys a b
  | frozenSet a, frozenSet b => sameKeys a b
  | a, b => sameLeaf a b
/-- Whether two rows of values are the same one by one. -/
def sameKeys : List Value → List Value → Bool
  | [], [] => true
  | a :: as, b :: bs => sameKey a b && sameKeys as bs
  | _, _ => false
end

mutual
/-- Whether a value may be a key: anything that cannot change. -/
def isKey : Value → Bool
  | list _ => false
  | set _ => false
  | dict _ => false
  | byteArray _ => false
  | tuple items => areKeys items
  | _ => true
/-- Whether every value of a row may be a key. -/
def areKeys : List Value → Bool
  | [] => true
  | v :: rest => isKey v && areKeys rest
end

/-- The entries with a value put under a key: in place of the old value if the key is there, at the
end otherwise. -/
def insertEntry (entries : List (Value × Value)) (key value : Value) : List (Value × Value) :=
  match entries with
  | [] => [(key, value)]
  | (k, v) :: rest =>
    if sameKey k key then (k, value) :: rest else (k, v) :: insertEntry rest key value

/-- The entries with the later value of each repeated key at the place of the first. -/
def mergeEntries (pairs : List (Value × Value)) : List (Value × Value) :=
  pairs.foldl (fun entries pair => insertEntry entries pair.1 pair.2) []

/-- The members without repetitions, first ones kept. -/
def mergeMembers (items : List Value) : List Value :=
  items.foldl (fun members v => if members.any (sameKey · v) then members else members ++ [v]) []

/-- The value under a key. -/
def entry? (entries : List (Value × Value)) (key : Value) : Option Value :=
  (entries.find? fun pair => sameKey pair.1 key).map Prod.snd

/-- The value under a text key. -/
def field? (entries : List (Value × Value)) (name : String) : Option Value :=
  entry? entries (text name)

/-- The members that a value goes through one by one; nothing if it has none to go through. -/
def members? : Value → Option (List Value)
  | text s => some (s.toList.map fun c => text (String.singleton c))
  | bytes b => some (b.map fun x => int x.toNat)
  | byteArray b => some (b.map fun x => int x.toNat)
  | list items => some items
  | tuple items => some items
  | set items => some items
  | frozenSet items => some items
  | dict entries => some (entries.map Prod.fst)
  | _ => none

/-- The sign of a number against zero. A value that is no number has none, and neither has the value
of a number sort that stands for no number, which `nan` stands for in the result. -/
def sign (v : Value) (nan : Int) : Except Fault Int :=
  match v with
  | bool b => .ok (if b then 1 else 0)
  | int n => .ok n.sign
  | float x => .ok (x.sign?.getD nan)
  | decimal d =>
    match d.sign? with
    | some s => .ok s
    | none => .error .notComparable
  | _ => .error .wrongSort

/-- Whether a number is greater than zero. -/
def isPositive (v : Value) : Except Fault Bool := do
  return 0 < (← v.sign 0)

/-- Whether a number is zero or less. -/
def isNonPositive (v : Value) : Except Fault Bool := do
  return (← v.sign 1) ≤ 0

/-- Whether a number is less than zero. -/
def isNegative (v : Value) : Except Fault Bool := do
  return (← v.sign 1) < 0

/-- The whole number that a value stands for: numbers lose their fraction, texts are read. -/
def toInt : Value → Except Fault Int
  | bool b => .ok (if b then 1 else 0)
  | int n => .ok n
  | float x =>
    match x, x.truncate? with
    | _, some n => .ok n
    | .nan, none => .error (.badValue none)
    | _, none => .error .tooLarge
  | decimal d =>
    match d, d.truncate? with
    | _, some n => .ok n
    | .infinity _, none => .error .tooLarge
    | _, none => .error (.badValue none)
  | text s => readInt s
  | bytes b => readInt (bytesText b)
  | byteArray b => readInt (bytesText b)
  | _ => .error .wrongSort
where
  readInt (s : String) : Except Fault Int :=
    match Numeral.int? s with
    | some n => .ok n
    | none => .error (.badValue none)
  /-- Plain characters of bytes; others become a mark that no number has. -/
  bytesText (b : List UInt8) : String :=
    String.ofList (b.map fun x => if x.toNat < 0x80 then Char.ofNat x.toNat else '?')

/-- The floating-point number that a value stands for. -/
def toFloat : Value → Except Fault Binary64
  | bool b => .ok (Binary64.ofRatio false (if b then 1 else 0) 1)
  | int n =>
    match Binary64.ofInt? n with
    | some x => .ok x
    | none => .error .tooLarge
  | float x => .ok x
  | decimal d =>
    match d.toBinary64? with
    | some x => .ok x
    | none => .error (.badValue none)
  | text s => readFloat s
  | bytes b => readFloat (toInt.bytesText b)
  | byteArray b => readFloat (toInt.bytesText b)
  | _ => .error .wrongSort
where
  readFloat (s : String) : Except Fault Binary64 :=
    match Numeral.float? s with
    | some x => .ok x
    | none => .error (.badValue none)

end Value

/-- Something that may be blank, and then counts as absent. -/
class Presence (α : Type) where
  /-- Whether the thing is there at all. -/
  present : α → Bool

instance : Presence String := ⟨(· != "")⟩

instance : Presence Value := ⟨Value.truthy⟩

end ConsumerChannel
