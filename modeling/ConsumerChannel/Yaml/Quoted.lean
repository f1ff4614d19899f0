import ConsumerChannel.Json.Reader
import ConsumerChannel.Yaml.Cursor

/-!
Scalars in quotes. In single quotes a quote is written twice and nothing else is special; in double
quotes a backslash starts an escape. Both may run over several lines, whose ends are folded.
-/
namespace ConsumerChannel.Yaml.Quoted

/-- The character of an escape of one character. -/
def shortEscape? : Char → Option Char
  | '0' => some '\x00'
  | 'a' => some '\x07'
  | 'b' => some '\x08'
  | 't' => some '\t'
  | '\t' => some '\t'
  | 'n' => some '\n'
  | 'v' => some '\x0b'
  | 'f' => some '\x0c'
  | 'r' => some '\r'
  | 'e' => some '\x1b'
  | ' ' => some ' '
  | '"' => some '"'
  | '\\' => some '\\'
  | '/' => some '/'
  | 'N' => some '\x85'
  | '_' => some '\xa0'
  | 'L' => some '\u2028'
  | 'P' => some '\u2029'
  | _ => none

/-- The number of hexadecimal digits of an escape that gives a code point. -/
def escapeWidth? : Char → Option Nat
  | 'x' => some 2
  | 'u' => some 4
  | 'U' => some 8
  | _ => none

/-- The number written by exactly as many hexadecimal digits as are asked for. -/
def hexNumber? (width : Nat) (s : List Char) : Option Nat :=
  let digits := s.take width
  if digits.length = width then (digits.mapM Text.hexValue?).map (Text.ofDigits 16) else none

/-- The largest number that is looked at as a code point at all. -/
def codeLimit : Nat := Nat.pow 2 31

/-- The second half of a character after its first half was escaped. -/
def lowHalf? (c : Cursor) : Option Nat :=
  match c.rest with
  | '\\' :: 'u' :: digits => (hexNumber? 4 digits).filter Json.isLowHalf
  | _ => none

/-- The character of a code point, and the place after it. Two escaped halves are one character; a
half without the other is none, and leaves a replacement mark. -/
def codePoint (code : Nat) (c : Cursor) : Except Fault (Char × Cursor) :=
  if codeLimit ≤ code then .error .tooLarge
  else if 0x10FFFF < code then .error (.badValue none)
  else if Json.isHighHalf code then
    match lowHalf? c with
    | some low => .ok (Char.ofNat (0x10000 + (code - 0xD800) * 0x400 + (low - 0xDC00)), c.skip 6)
    | none => .ok ('\uFFFD', c)
  else if Json.isLowHalf code then .ok ('\uFFFD', c)
  else .ok (Char.ofNat code, c)

/-- The ends of empty lines. Indentation does not matter here, but no mark between documents may come
next at the front of a line. -/
def emptyLines : Nat → Cursor → Except Fault (List Char × Cursor)
  | 0, c => .ok ([], c)
  | fuel + 1, c =>
    if c.isAtSeparator then refused
    else
      let c := c.skipWhile isGap
      match c.lineEnd? with
      | none => .ok ([], c)
      | some (lineEnd, c) => do
        let (more, c) ← emptyLines fuel c
        return (lineEnd :: more, c)

/-- What stands between two words: spaces stay as they are, line ends are folded. -/
def gap (c : Cursor) : Except Fault (List Char × Cursor) :=
  let blanks := c.leading isGap
  let c := c.skip blanks.length
  match c.peek with
  | none => refused
  | some _ =>
    match c.lineEnd? with
    | none => .ok (blanks, c)
    | some (lineEnd, c) => do
      let (more, c) ← emptyLines (c.rest.length + 1) c
      return (folded lineEnd more, c)

/-- What an escape stands for, from behind its backslash. An escaped line end joins the lines. -/
def escape (c : Cursor) : Except Fault (List Char × Cursor) :=
  match c.peek with
  | none => refused
  | some ch =>
    match shortEscape? ch, escapeWidth? ch with
    | some e, _ => .ok ([e], c.step)
    | none, some width =>
      match hexNumber? width c.step.rest with
      | none => refused
      | some code => do
        let (e, c) ← codePoint code (c.step.skip width)
        return ([e], c)
    | none, none =>
      match c.lineEnd? with
      | none => refused
      | some (_, c) => emptyLines (c.rest.length + 1) c

/-- The text up to a closing quote, from behind the opening one. -/
def body (quote : Char) : Nat → Cursor → Except Fault (List Char × Cursor)
  | 0, _ => refused
  | fuel + 1, c =>
    match c.peek with
    | none => refused
    | some ch =>
      if ch == quote then
        if quote == '\'' && c.peekAt 1 == some '\'' then do
          let (more, c) ← body quote fuel (c.skip 2)
          return ('\'' :: more, c)
        else .ok ([], c.step)
      else if quote == '"' && ch == '\\' then do
        let (these, c) ← escape c.step
        let (more, c) ← body quote fuel c
        return (these ++ more, c)
      else if isGap ch || isLineEnd ch then do
        let (these, c) ← gap c
        let (more, c) ← body quote fuel c
        return (these ++ more, c)
      else do
        let (more, c) ← body quote fuel c.step
        return (ch :: more, c)

/-- The scalar in quotes that comes next. -/
def read (c : Cursor) : Except Fault (List Char × Cursor) :=
  match c.peek with
  | some quote => body quote (c.rest.length + 1) c.step
  | none => refused

end ConsumerChannel.Yaml.Quoted
