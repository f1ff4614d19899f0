import ConsumerChannel.Json.Basic
import ConsumerChannel.Text.Utf8
import ConsumerChannel.Value.Text

/-!
Values as JSON documents. Request bodies and log lines each have their own rules for what JSON has no
form for.
-/
namespace ConsumerChannel.Value

/-- The simpler value that stands in a log line for one that JSON has no form for: a standard text for
dates, a floating-point number for decimals, the text of bytes with ill-formed parts replaced, a list
for sets and rows, the text of a category, and the plain text of anything else. -/
def simplified : Value → Except Fault Value
  | date d => .ok (text d.text)
  | dateTime t => .ok (text (t.text 'T'))
  | decimal d =>
    match d.toBinary64? with
    | some x => .ok (float x)
    | none => .error (.badValue none)
  | path p => .ok (text p)
  | bytes b => .ok (text (Text.decodeLenient b))
  | byteArray b => .ok (text (Text.decodeLenient b))
  | set items => .ok (list items)
  | frozenSet items => .ok (list items)
  | tuple items => .ok (list items)
  | category c => .ok (text c.text)
  | other => .ok (text (plain other))

/-- The name of a field in a log line. -/
def lineKey : Value → Except Fault String
  | text s => .ok s
  | float x => .ok (x.text Binary64.lineLayout)
  | bool b => .ok (if b then "true" else "false")
  | null => .ok "null"
  | int n => .ok (toString n)
  | _ => .error .wrongSort

/-- A whole number in a log line, which has a bound on its length. -/
def lineInt (n : Int) : Except Fault Json :=
  if Numeral.digitLimit < Binary64.digitCount n.natAbs then .error (.badValue none) else .ok (.int n)

mutual
/-- A value as it stands in a log line. -/
def toLine : Value → Except Fault Json
  | null => .ok .null
  | bool b => .ok (.bool b)
  | int n => lineInt n
  | float x => .ok (.float x)
  | text s => .ok (.text s)
  | list items => (lineItems items).map .array
  | tuple items => (lineItems items).map .array
  | set items => (lineItems items).map .array
  | frozenSet items => (lineItems items).map .array
  | dict entries => (lineFields entries).map .object
  | bytes b => .ok (.text (Text.decodeLenient b))
  | byteArray b => .ok (.text (Text.decodeLenient b))
  | decimal d =>
    match d.toBinary64? with
    | some x => .ok (.float x)
    | none => .error (.badValue none)
  | date d => .ok (.text d.text)
  | dateTime t => .ok (.text (t.text 'T'))
  | path p => .ok (.text p)
  | category c => .ok (.text c.text)
  | failure f => .ok (.text f.text)
/-- Each value of a row as it stands in a log line. -/
def lineItems : List Value → Except Fault (List Json)
  | [] => .ok []
  | v :: rest => do
    let first ← toLine v
    return first :: (← lineItems rest)
/-- Each entry of a dictionary as it stands in a log line. -/
def lineFields : List (Value × Value) → Except Fault (List (String × Json))
  | [] => .ok []
  | (k, v) :: rest => do
    let name ← lineKey k
    let first ← toLine v
    return (name, first) :: (← lineFields rest)
end

mutual
/-- The name of a field in a request body. A row of keys is the names of its members with commas
between them, and a set of keys has no name. -/
def wireKey : Value → Except Fault String
  | text s => .ok s
  | bool b => .ok (if b then "true" else "false")
  | float x =>
    match x with
    | .nan => .ok "None"
    | .infinity _ => .ok "None"
    | finite => .ok (finite.text Binary64.plainLayout)
  | dateTime t => .ok t.wireText
  | category c => .ok c.text
  | bytes b =>
    match Text.decodeStrict? b with
    | some s => .ok s
    | none => .error .notWritable
  | tuple items => (wireKeys items).map (String.intercalate ",")
  | frozenSet _ => .error .notWritable
  | failure _ => .error .notWritable
  | other => .ok (plain other)
/-- The name of each member of a row of keys. -/
def wireKeys : List Value → Except Fault (List String)
  | [] => .ok []
  | k :: rest => do
    let first ← wireKey k
    return first :: (← wireKeys rest)
end

/-- A floating-point number in a request body, which has no form for what is not finite. -/
def wireFloat : Binary64 → Json
  | .nan => .null
  | .infinity _ => .null
  | finite => .float finite

/-- Bytes in a request body, which have to be text. -/
def wireBytes (b : List UInt8) : Except Fault Json :=
  match Text.decodeStrict? b with
  | some s => .ok (.text s)
  | none => .error .notWritable

mutual
/-- A value as it stands in a request body. -/
def toWire : Value → Except Fault Json
  | null => .ok .null
  | bool b => .ok (.bool b)
  | int n => .ok (.int n)
  | float x => .ok (wireFloat x)
  | text s => .ok (.text s)
  | list items => (wireItems items).map .array
  | tuple items => (wireItems items).map .array
  | set items => (wireItems items).map .array
  | frozenSet items => (wireItems items).map .array
  | dict entries => (wireFields entries).map .object
  | bytes b => wireBytes b
  | byteArray b => wireBytes b
  | decimal d => .ok (.text d.text)
  | date d => .ok (.text d.text)
  | dateTime t => .ok (.text t.wireText)
  | path p => .ok (.text p)
  | category c => .ok (.text c.text)
  | failure _ => .error .notWritable
/-- Each value of a row as it stands in a request body. -/
def wireItems : List Value → Except Fault (List Json)
  | [] => .ok []
  | v :: rest => do
    let first ← toWire v
    return first :: (← wireItems rest)
/-- Each entry of a dictionary as it stands in a request body. -/
def wireFields : List (Value × Value) → Except Fault (List (String × Json))
  | [] => .ok []
  | (k, v) :: rest => do
    let name ← wireKey k
    let first ← toWire v
    return (name, first) :: (← wireFields rest)
end

mutual
/-- A document as a value. -/
def ofJson : Json → Value
  | .null => null
  | .bool b => bool b
  | .int n => int n
  | .float x => float x
  | .text s => text s
  | .array items => list (ofJsonItems items)
  | .object fields => dict (ofJsonFields fields)
/-- Each document of a row as a value. -/
def ofJsonItems : List Json → List Value
  | [] => []
  | d :: rest => ofJson d :: ofJsonItems rest
/-- Each field of an object as an entry. -/
def ofJsonFields : List (String × Json) → List (Value × Value)
  | [] => []
  | (n, d) :: rest => (text n, ofJson d) :: ofJsonFields rest
end

end ConsumerChannel.Value
