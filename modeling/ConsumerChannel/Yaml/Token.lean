import ConsumerChannel.Yaml.Block
import ConsumerChannel.Yaml.Plain
import ConsumerChannel.Yaml.Quoted
import ConsumerChannel.Yaml.Tag

/-!
The tokens of a YAML text. Indentation becomes tokens of its own. A key is known for one only at the
colon behind it, so the place of everything that may turn out to be a key is remembered, and the token
that marks a key is put in there afterwards.
-/
namespace ConsumerChannel.Yaml

/-- A token. -/
inductive Token where
  | directive (d : Directive)
  | documentStart
  | documentEnd
  | textEnd
  | listOpen
  | listClose
  | dictOpen
  | dictClose
  /-- The comma between brackets. -/
  | separator
  /-- Entries of a list start to be indented here. -/
  | entriesStart
  /-- Keys of a dictionary start to be indented here. -/
  | keysStart
  /-- What was indented ends here. -/
  | dedent
  /-- The hyphen in front of an entry. -/
  | entry
  | key
  | value
  | alias (name : String)
  | anchor (name : String)
  | tag (name : TagName)
  | scalar (text : String) (isPlain : Bool)

/-- Something that may turn out to be a key. -/
structure PossibleKey where
  /-- How many tokens come before it. -/
  number : Nat
  /-- Whether nothing but a key may stand here. -/
  required : Bool
  index : Nat
  line : Nat
  column : Nat

/-- The state of splitting a text into tokens. -/
structure Tokenizer where
  cursor : Cursor
  /-- The tokens, the latest first. -/
  tokens : List Token
  /-- How many tokens there are. -/
  count : Nat
  /-- How many brackets are open. -/
  depth : Nat
  /-- The column of what is indented furthest; none is written as the column before the first. -/
  indent : Int
  /-- The columns around that one, the nearest first. -/
  outer : List Int
  /-- Whether a key may stand here. -/
  keysAllowed : Bool
  /-- What may turn out to be a key, by the number of brackets around it. -/
  keys : List (Nat × PossibleKey)

namespace Tokenizer

/-- Before the first token. -/
def start (text : List Char) : Tokenizer :=
  ⟨Cursor.start text, [], 0, 0, -1, [], true, []⟩

/-- With a token more. -/
def push (t : Token) (s : Tokenizer) : Tokenizer :=
  { s with tokens := t :: s.tokens, count := s.count + 1 }

/-- With a token put in where a number of tokens come before it. -/
def insert (number : Nat) (t : Token) (s : Tokenizer) : Tokenizer :=
  let later := s.count - number
  { s with tokens := s.tokens.take later ++ t :: s.tokens.drop later, count := s.count + 1 }

/-- Past a number of characters. -/
def skip (n : Nat) (s : Tokenizer) : Tokenizer := { s with cursor := s.cursor.skip n }

/-- Whether no bracket is open. -/
def isBlock (s : Tokenizer) : Bool := s.depth == 0

/-- The longest key, in characters. -/
def longestKey : Nat := 1024

/-- Whether something can no longer turn out to be a key: its line has ended, or it is too long. -/
def isStale (s : Tokenizer) (k : PossibleKey) : Bool :=
  k.line != s.cursor.line || longestKey < s.cursor.index - k.index

/-- Without the keys that are no longer possible; a key that has to be one may not be among them. -/
def dropStale (s : Tokenizer) : Except Fault Tokenizer :=
  if s.keys.any fun row => s.isStale row.2 && row.2.required then refused
  else .ok { s with keys := s.keys.filter fun row => !s.isStale row.2 }

/-- Without the possible key within the brackets that are open. -/
def dropKey (s : Tokenizer) : Except Fault Tokenizer :=
  if s.keys.any fun row => row.1 == s.depth && row.2.required then refused
  else .ok { s with keys := s.keys.filter fun row => row.1 != s.depth }

/-- What comes next may turn out to be a key. -/
def saveKey (s : Tokenizer) : Except Fault Tokenizer :=
  if s.keysAllowed then do
    let required := s.isBlock && s.indent == s.cursor.column
    let s ← s.dropKey
    let k : PossibleKey := ⟨s.count, required, s.cursor.index, s.cursor.line, s.cursor.column⟩
    return { s with keys := (s.depth, k) :: s.keys }
  else .ok s

/-- Ends what is indented further than a column. -/
def unwind (column : Int) (s : Tokenizer) : Tokenizer :=
  if !s.isBlock then s
  else
    let columns := s.indent :: s.outer
    let ended := columns.takeWhile (column < ·)
    let left := columns.dropWhile (column < ·)
    { s with
      tokens := ended.map (fun _ => Token.dedent) ++ s.tokens
      count := s.count + ended.length
      indent := left.headD (-1)
      outer := left.tail }

/-- Starts to indent at a column, if that is further than before; tells whether it is. -/
def deepen (column : Nat) (s : Tokenizer) : Bool × Tokenizer :=
  if s.indent < column then (true, { s with outer := s.indent :: s.outer, indent := column })
  else (false, s)

/-- Past spaces, comments and line ends. -/
def skipBlanks : Nat → Tokenizer → Tokenizer
  | 0, s => s
  | fuel + 1, s =>
    let c := s.cursor.skipSpaces.skipComment
    match c.lineEnd? with
    | none => { s with cursor := c }
    | some (_, c) => skipBlanks fuel { s with cursor := c, keysAllowed := s.keysAllowed || s.isBlock }

/-- Past a mark at the very front, and whatever separates tokens. -/
def toNextToken (s : Tokenizer) : Tokenizer :=
  let s := if s.cursor.index == 0 && s.cursor.peek == some byteOrderMark then s.skip 1 else s
  s.skipBlanks (s.cursor.rest.length + 1)

/-- A token that ends everything before it, with the length of its written form. -/
def topLevel (t : Token) (length : Nat) (s : Tokenizer) : Except Fault Tokenizer := do
  let s ← (s.unwind (-1)).dropKey
  return ({ s with keysAllowed := false }.skip length).push t

/-- The end of the text. -/
def finish (s : Tokenizer) : Except Fault Tokenizer := do
  let s ← s.topLevel .textEnd 0
  return { s with keys := [] }

/-- A directive. -/
def directive (s : Tokenizer) : Except Fault Tokenizer := do
  let s ← (s.unwind (-1)).dropKey
  let (d, c) ← Directive.read s.cursor
  return { s with cursor := c, keysAllowed := false }.push (.directive d)

/-- An opening bracket. -/
def opening (t : Token) (s : Tokenizer) : Except Fault Tokenizer := do
  let s ← s.saveKey
  return ({ s with depth := s.depth + 1, keysAllowed := true }.skip 1).push t

/-- A closing bracket. One has to be open. -/
def closing (t : Token) (s : Tokenizer) : Except Fault Tokenizer := do
  let s ← s.dropKey
  if s.isBlock then refused
  else return ({ s with depth := s.depth - 1, keysAllowed := false }.skip 1).push t

/-- A comma between brackets. -/
def comma (s : Tokenizer) : Except Fault Tokenizer := do
  let s ← s.dropKey
  return ({ s with keysAllowed := true }.skip 1).push .separator

/-- Outside brackets, starts to indent with a token if this is further than before; it has to be a
place where a key might stand. -/
def indented (t : Token) (s : Tokenizer) : Except Fault Tokenizer :=
  if !s.isBlock then .ok s
  else if !s.keysAllowed then refused
  else
    let (deeper, s) := s.deepen s.cursor.column
    .ok (if deeper then s.push t else s)

/-- A hyphen in front of an entry. -/
def entryMark (s : Tokenizer) : Except Fault Tokenizer := do
  let s ← s.indented .entriesStart
  let s ← s.dropKey
  return ({ s with keysAllowed := true }.skip 1).push .entry

/-- A question mark in front of a key. -/
def keyMark (s : Tokenizer) : Except Fault Tokenizer := do
  let s ← s.indented .keysStart
  let s ← s.dropKey
  return ({ s with keysAllowed := s.isBlock }.skip 1).push .key

/-- A colon in front of a value. If a key was possible before it, that is one now. -/
def valueMark (s : Tokenizer) : Except Fault Tokenizer :=
  match s.keys.find? fun row => row.1 == s.depth with
  | some (_, k) =>
    let s := { s with keys := s.keys.filter fun row => row.1 != s.depth }.insert k.number .key
    let (deeper, s) := if s.isBlock then s.deepen k.column else (false, s)
    let s := if deeper then s.insert k.number .keysStart else s
    .ok (({ s with keysAllowed := false }.skip 1).push .value)
  | none => do
    let s ← s.indented .keysStart
    let s ← s.dropKey
    return ({ s with keysAllowed := s.isBlock }.skip 1).push .value

/-- A token that may turn out to be a key or to start one. -/
def keyable {α : Type} (reader : Cursor → Except Fault (α × Cursor)) (token : α → Token) (s : Tokenizer) :
    Except Fault Tokenizer := do
  let s ← s.saveKey
  let (a, c) ← reader s.cursor
  return { s with cursor := c, keysAllowed := false }.push (token a)

/-- A block scalar. -/
def blockScalar (isFolded : Bool) (s : Tokenizer) : Except Fault Tokenizer := do
  let s ← s.dropKey
  let (text, c) ← Block.read isFolded s.indent s.cursor
  return { s with cursor := c, keysAllowed := true }.push (.scalar (String.ofList text) false)

/-- A plain scalar. A key may follow it if its line has ended. -/
def plainScalar (s : Tokenizer) : Except Fault Tokenizer := do
  let s ← s.saveKey
  let r := Plain.read (!s.isBlock) (s.indent + 1) s.cursor
  return { s with cursor := r.cursor, keysAllowed := r.crossesLine }.push
    (.scalar (String.ofList r.text) true)

/-- The token that starts with a character, given the one after it. -/
def token (c : Char) (next : Option Char) (s : Tokenizer) : Except Fault Tokenizer :=
  if c == '%' && s.cursor.column == 0 then s.directive
  else if s.cursor.column == 0 && s.cursor.isAtMark ['-', '-', '-'] then s.topLevel .documentStart 3
  else if s.cursor.column == 0 && s.cursor.isAtMark ['.', '.', '.'] then s.topLevel .documentEnd 3
  else if c == '[' then s.opening .listOpen
  else if c == '\x7b' then s.opening .dictOpen
  else if c == ']' then s.closing .listClose
  else if c == '\x7d' then s.closing .dictClose
  else if c == ',' then s.comma
  else if c == '-' && endsWord next then s.entryMark
  else if c == '?' && (!s.isBlock || endsWord next) then s.keyMark
  else if c == ':' && (!s.isBlock || endsWord next) then s.valueMark
  else if c == '*' then s.keyable readAnchor .alias
  else if c == '&' then s.keyable readAnchor .anchor
  else if c == '!' then s.keyable TagName.read .tag
  else if c == '|' && s.isBlock then s.blockScalar false
  else if c == '>' && s.isBlock then s.blockScalar true
  else if c == '\'' || c == '"' then
    s.keyable Quoted.read fun text => .scalar (String.ofList text) false
  else if Plain.startsAt (!s.isBlock) c next then s.plainScalar
  else refused

/-- One token more, with the tokens that go along with it. -/
def next (s : Tokenizer) : Except Fault Tokenizer := do
  let s ← s.toNextToken.dropStale
  let s := s.unwind s.cursor.column
  match s.cursor.peek with
  | none => s.finish
  | some c => s.token c (s.cursor.peekAt 1)

/-- Whether the last token is there. -/
def isFinished (s : Tokenizer) : Bool :=
  match s.tokens with
  | .textEnd :: _ => true
  | _ => false

/-- The tokens that are settled: those before anything that may yet turn out to be a key. -/
def settled (s : Tokenizer) : List Token :=
  let waiting := (s.keys.filter fun row => !s.isStale row.2).map fun row => row.2.number
  s.tokens.reverse.take (waiting.foldl min s.count)

/-- All tokens up to the end, or the settled ones up to a fault. -/
def run : Nat → Tokenizer → List Token × Option Fault
  | 0, s => (s.settled, some .unfinished)
  | fuel + 1, s =>
    match s.next with
    | .error f => (s.settled, some f)
    | .ok s => if s.isFinished then (s.tokens.reverse, none) else run fuel s

end Tokenizer

/-- The tokens of a text, and the fault that ends them if there is one. Each token takes a character,
apart from the end. -/
def tokens (text : List Char) : List Token × Option Fault :=
  (Tokenizer.start text).run (text.length + 2)

end ConsumerChannel.Yaml
