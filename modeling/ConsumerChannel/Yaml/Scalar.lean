import ConsumerChannel.Number.Arithmetic
import ConsumerChannel.Text.Base64
import ConsumerChannel.Value
import ConsumerChannel.Yaml.Resolution

/-!
The values of scalars. A tag may be put on any text, so a text may also turn out not to fit its tag.
-/
namespace ConsumerChannel.Yaml.Scalar

/-- A text without underscores. -/
def dense (s : String) : List Char := s.toList.filter (· != '_')

/-- The texts between colons. -/
def sixties (s : List Char) : List String := (colonParts s).map String.ofList

/-- The number that parts counting sixties write, from the left. -/
def ofSixties (parts : List Int) : Int := parts.foldl (fun sum part => sum * 60 + part) 0

/-- A result that has to be there. -/
def orBad {α : Type} : Option α → Except Fault α
  | some a => .ok a
  | none => .error (.badValue none)

/-- The size of a whole number, without its sign. -/
def wholeBody (s : List Char) : Except Fault Int :=
  match s with
  | [] => .error .outOfRange
  | ['0'] => .ok 0
  | '0' :: 'b' :: digits => orBad (Numeral.intInBase? 2 (String.ofList digits))
  | '0' :: 'x' :: digits => orBad (Numeral.intInBase? 16 (String.ofList digits))
  | '0' :: rest => orBad (Numeral.intInBase? 8 (String.ofList ('0' :: rest)))
  | other =>
    if other.contains ':' then orBad (((sixties other).mapM Numeral.int?).map ofSixties)
    else orBad (Numeral.int? (String.ofList other))

/-- The whole number that a text writes. -/
def int (s : String) : Except Fault Int := do
  let (negative, body) := Numeral.takeSign (dense s)
  let n ← wholeBody body
  return if negative then -n else n

/-- The sum of parts counting sixties, the last one first: each is multiplied and added in turn. -/
def sumSixties : (weight : Int) → (sum : Binary64) → List Binary64 → Except Fault Binary64
  | _, sum, [] => .ok sum
  | weight, sum, part :: rest =>
    match Binary64.ofInt? weight with
    | none => .error .tooLarge
    | some w => sumSixties (weight * 60) (sum.add (part.mul w)) rest

/-- The size of a floating-point number, without its sign. -/
def floatBody (s : List Char) : Except Fault Binary64 :=
  if s == ".inf".toList then .ok (.infinity false)
  else if s == ".nan".toList then .ok .nan
  else if s.contains ':' then do
    let parts ← orBad ((sixties s).mapM Numeral.float?)
    sumSixties 1 (.zero false) parts.reverse
  else orBad (Numeral.float? (String.ofList s))

/-- The floating-point number that a text writes. -/
def float (s : String) : Except Fault Binary64 :=
  match (dense s).map Text.smallLetter with
  | [] => .error .outOfRange
  | cs => do
    let (negative, body) := Numeral.takeSign cs
    let x ← floatBody body
    return if negative then x.negate else x

/-- The truth value that a word stands for. -/
def bool (s : String) : Except Fault Bool :=
  let word := String.ofList (s.toList.map Text.smallLetter)
  match truthWords.find? fun row => row.1 == word with
  | some (_, b) => .ok b
  | none => .error .noSuchKey

/-- The point in time that a text writes, if the calendar has it. -/
def timestamp (s : String) : Except Fault Value :=
  let cs := s.toList
  match Timestamp.read? (if cs.getLast? == some '\n' then cs.dropLast else cs) with
  | none => .error .noSuchPart
  | some t => do
    let date ← orBad (Date.ofParts? t.year t.month t.day)
    match t.clock with
    | none => return .date date
    | some k =>
      if (k.offset.getD 0).natAbs < Timestamp.offsetLimit then
        return .dateTime (← orBad (DateTime.ofParts? date k.hour k.minute k.second k.microsecond k.offset))
      else throw (.badValue none)

/-- The bytes that a text writes. -/
def binary (s : String) : Except Fault Value :=
  if s.toList.all fun c => c.toNat < 0x80 then
    match Text.Base64.decodeAmid? 0 0 0 s.toList with
    | some bytes => .ok (.bytes bytes)
    | none => refused
  else refused

/-- The value of a text under a tag. Tags of keys, of collections and of unknown things have none. -/
def value (tag : Tag) (s : String) : Except Fault Value :=
  match tag with
  | .null => .ok .null
  | .bool => (bool s).map .bool
  | .int => (int s).map .int
  | .float => (float s).map .float
  | .timestamp => timestamp s
  | .text => .ok (.text s)
  | .binary => binary s
  | _ => refused

end ConsumerChannel.Yaml.Scalar
