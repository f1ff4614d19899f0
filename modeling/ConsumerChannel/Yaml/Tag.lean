import ConsumerChannel.Text.Utf8
import ConsumerChannel.Text.Digits
import ConsumerChannel.Yaml.Cursor

/-!
Names in YAML: anchors, tags and directives. A tag says what a node is meant to be. It is written out,
or as a handle that a directive explains and a suffix.
-/
namespace ConsumerChannel.Yaml

/-- A letter, a digit, a hyphen or an underscore. -/
def isNameChar (c : Char) : Bool :=
  c.isAlphanum || c == '-' || c == '_'

/-- A character of the written form of a tag. -/
def isTagChar (c : Char) : Bool :=
  c.isAlphanum || "-;/?:@&=+$,_.!~*'()[]%".toList.contains c

/-- What a node is meant to be. -/
inductive Tag where
  | null
  | bool
  | int
  | float
  | timestamp
  | text
  | binary
  | list
  | dict
  | set
  /-- A list of pairs whose keys are in order. -/
  | orderedPairs
  /-- A list of pairs. -/
  | pairs
  /-- The key whose value is merged into a dictionary. -/
  | merge
  /-- The key whose value stands for a dictionary. -/
  | default
  | unknown
  deriving DecidableEq

namespace Tag

/-- The handle and the beginning of the names of the standard tags. -/
def standard : String := "tag:yaml.org,2002:"

/-- The tag of a name. -/
def ofName (name : String) : Tag :=
  match standard.toList.isPrefixOf name.toList, String.ofList (name.toList.drop standard.length) with
  | true, "null" => null
  | true, "bool" => bool
  | true, "int" => int
  | true, "float" => float
  | true, "timestamp" => timestamp
  | true, "str" => text
  | true, "binary" => binary
  | true, "seq" => list
  | true, "map" => dict
  | true, "set" => set
  | true, "omap" => orderedPairs
  | true, "pairs" => pairs
  | true, "merge" => merge
  | true, "value" => default
  | _, _ => unknown

/-- Whether nodes of a tag are made of other nodes. -/
def isCollection : Tag → Bool
  | list => true
  | dict => true
  | set => true
  | orderedPairs => true
  | pairs => true
  | _ => false

end Tag

/-- A tag as it is written: the handle, if it has one, and what follows it. -/
structure TagName where
  handle : Option String
  suffix : String

/-- The written form of a tag that means nothing but that the usual rules apply. -/
def plainTag : String := "!"

namespace TagName

/-- Bytes written as percent signs and two hexadecimal digits each. -/
def escapedBytes : Nat → Cursor → Except Fault (List UInt8 × Cursor)
  | 0, c => .ok ([], c)
  | fuel + 1, c =>
    match c.rest with
    | '%' :: a :: b :: _ =>
      match Text.hexValue? a, Text.hexValue? b with
      | some high, some low => do
        let (more, c) ← escapedBytes fuel (c.skip 3)
        return (UInt8.ofNat (high * 16 + low) :: more, c)
      | _, _ => refused
    | '%' :: _ => refused
    | _ => .ok ([], c)

/-- The characters of a tag, with escapes read as bytes of text. -/
def characters : Nat → Cursor → Except Fault (List Char × Cursor)
  | 0, c => .ok ([], c)
  | fuel + 1, c =>
    match c.peek with
    | none => .ok ([], c)
    | some ch =>
      if ch == '%' then do
        let (bytes, c) ← escapedBytes (c.rest.length + 1) c
        match Text.decodeStrict? bytes with
        | none => refused
        | some text => do
          let (more, c) ← characters fuel c
          return (text.toList ++ more, c)
      else if isTagChar ch then do
        let (more, c) ← characters fuel c.step
        return (ch :: more, c)
      else .ok ([], c)

/-- The characters of a tag, of which there has to be one. -/
def body (c : Cursor) : Except Fault (String × Cursor) := do
  let (text, c) ← characters (c.rest.length + 1) c
  if text.isEmpty then refused
  else return (String.ofList text, c)

/-- A handle: an exclamation mark, alone or at both ends of a name. -/
def readHandle (c : Cursor) : Except Fault (String × Cursor) :=
  match c.rest with
  | '!' :: more =>
    if more.head? == some ' ' then .ok ("!", c.step)
    else
      let name := more.takeWhile isNameChar
      if more[name.length]? == some '!' then
        .ok (String.ofList ('!' :: name ++ ['!']), c.skip (name.length + 2))
      else refused
  | _ => refused

/-- Whether an exclamation mark follows in the same word. -/
def hasHandle (s : List Char) : Bool :=
  (s.takeWhile fun c => c != ' ' && !isLineEnd c).contains '!'

/-- The tag that comes next. -/
def read (c : Cursor) : Except Fault (TagName × Cursor) := do
  let (tag, c) ← (match c.peekAt 1 with
    | some '<' => do
      let (suffix, c) ← body (c.skip 2)
      if c.peek == some '>' then return (⟨none, suffix⟩, c.step) else refused
    | next =>
      if endsWord next then return (⟨none, plainTag⟩, c.step)
      else if hasHandle (c.rest.drop 1) then do
        let (handle, c) ← readHandle c
        let (suffix, c) ← body c
        return (⟨some handle, suffix⟩, c)
      else do
        let (suffix, c) ← body c.step
        return (⟨some "!", suffix⟩, c) : Except Fault (TagName × Cursor))
  if c.peek == some ' ' || endsLine c.peek then return (tag, c) else refused

end TagName

/-- What may follow the name of an anchor. -/
def endsAnchor (next : Option Char) : Bool :=
  endsWord next || next.any ("?:,]\x7d%@`".toList.contains ·)

/-- The name of the anchor or alias that comes next, from its indicator on. -/
def readAnchor (c : Cursor) : Except Fault (String × Cursor) :=
  let name := c.step.leading isNameChar
  let c := c.skip (name.length + 1)
  if name.isEmpty || !endsAnchor c.peek then refused else .ok (String.ofList name, c)

/-- A line that says how the document after it is to be read. -/
inductive Directive where
  /-- The version, of which only the first number matters. -/
  | version (major : Nat)
  /-- What a handle stands for. -/
  | handle (handle meaning : String)
  | other

namespace Directive

/-- A number of a version. -/
def readNumber (c : Cursor) : Except Fault (Nat × Cursor) :=
  let digits := c.leading Text.isPlainDigit
  if digits.isEmpty then refused
  else .ok (Text.ofDigits 10 (digits.map fun d => d.toNat - 0x30), c.skip digits.length)

/-- Two numbers with a point between them. -/
def readVersion (c : Cursor) : Except Fault (Directive × Cursor) := do
  let (major, c) ← readNumber c.skipSpaces
  if c.peek == some '.' then
    let (_, c) ← readNumber c.step
    if c.peek == some ' ' || endsLine c.peek then return (.version major, c) else refused
  else refused

/-- A handle and what it stands for. -/
def readMeaning (c : Cursor) : Except Fault (Directive × Cursor) := do
  let (name, c) ← TagName.readHandle c.skipSpaces
  if c.peek == some ' ' then
    let (meaning, c) ← TagName.body c.skipSpaces
    if c.peek == some ' ' || endsLine c.peek then return (.handle name meaning, c) else refused
  else refused

/-- The directive that comes next, with the rest of its line, where only a comment may follow. -/
def read (c : Cursor) : Except Fault (Directive × Cursor) := do
  let name := c.step.leading isNameChar
  let c := c.skip (name.length + 1)
  if name.isEmpty || !(c.peek == some ' ' || endsLine c.peek) then refused
  else
    let (directive, c) ← (match String.ofList name with
      | "YAML" => readVersion c
      | "TAG" => readMeaning c
      | _ => .ok (.other, c.skipLine) : Except Fault (Directive × Cursor))
    let c := c.skipSpaces.skipComment
    if endsLine c.peek then return (directive, c.skipLineEnd) else refused

end Directive

end ConsumerChannel.Yaml
