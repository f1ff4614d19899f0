import ConsumerChannel.Failure

/-!
A place in a YAML text. A cursor knows the line and the column that it is in, because indentation
decides how a document is built, and how many characters lie before it, because a key may not be long.
-/
namespace ConsumerChannel.Yaml

/-- A character that ends a line. -/
def isLineEnd (c : Char) : Bool := c == '\n' || c == '\x85' || c == '\u2028' || c == '\u2029'

/-- A character that separates words within a line. -/
def isGap (c : Char) : Bool := c == ' ' || c == '\t'

/-- Whether a word or an indicator is over where this comes next: a gap, the end of a line or the end
of the text. -/
def endsWord : Option Char → Bool
  | none => true
  | some c => isGap c || isLineEnd c

/-- Whether a line is over where this comes next. -/
def endsLine : Option Char → Bool
  | none => true
  | some c => isLineEnd c

/-- The mark that may stand at the front of a text and takes up no column. -/
def byteOrderMark : Char := '\uFEFF'

/-- A place in a text: what follows it, and where it is. -/
structure Cursor where
  rest : List Char
  index : Nat
  line : Nat
  column : Nat

namespace Cursor

/-- The front of a text. -/
def start (text : List Char) : Cursor := ⟨text, 0, 0, 0⟩

/-- The next character. -/
def peek (c : Cursor) : Option Char := c.rest.head?

/-- The character after a number of others. -/
def peekAt (n : Nat) (c : Cursor) : Option Char := c.rest[n]?

/-- Past one character. -/
def step (c : Cursor) : Cursor :=
  match c.rest with
  | [] => c
  | ch :: rest =>
    if isLineEnd ch then ⟨rest, c.index + 1, c.line + 1, 0⟩
    else ⟨rest, c.index + 1, c.line, if ch == byteOrderMark then c.column else c.column + 1⟩

/-- Past a number of characters. -/
def skip : Nat → Cursor → Cursor
  | 0, c => c
  | n + 1, c => skip n c.step

/-- The characters up to the first that fails the test. -/
def leading (test : Char → Bool) (c : Cursor) : List Char := c.rest.takeWhile test

/-- Past the characters that satisfy the test. -/
def skipWhile (test : Char → Bool) (c : Cursor) : Cursor := c.skip (c.leading test).length

/-- Past the spaces that come next. -/
def skipSpaces (c : Cursor) : Cursor := c.skipWhile (· == ' ')

/-- Past the rest of the line. -/
def skipLine (c : Cursor) : Cursor := c.skipWhile (!isLineEnd ·)

/-- Past a comment, if one comes next. -/
def skipComment (c : Cursor) : Cursor := if c.peek == some '#' then c.skipLine else c

/-- The end of a line, as the character that it stands for in a scalar, and the place after it. -/
def lineEnd? (c : Cursor) : Option (Char × Cursor) :=
  match c.peek with
  | some ch =>
    if ch == '\n' || ch == '\x85' then some ('\n', c.step)
    else if isLineEnd ch then some (ch, c.step)
    else none
  | none => none

/-- Past the end of a line, if one comes next. -/
def skipLineEnd (c : Cursor) : Cursor := ((c.lineEnd?).map Prod.snd).getD c

/-- Whether three characters come next as a word of their own. -/
def isAtMark (mark : List Char) (c : Cursor) : Bool :=
  mark.isPrefixOf c.rest && endsWord (c.peekAt 3)

/-- Whether a mark between documents comes next. -/
def isAtSeparator (c : Cursor) : Bool :=
  c.isAtMark ['-', '-', '-'] || c.isAtMark ['.', '.', '.']

end Cursor

/-- The refusal of a text. -/
def refused {α : Type} : Except Fault α := .error .malformedDocument

/-- How a line end within a scalar reads: a single one is a space, and of several the first is left
out; a line end of a kind of its own stays. -/
def folded (lineEnd : Char) (more : List Char) : List Char :=
  if lineEnd != '\n' then lineEnd :: more
  else if more.isEmpty then [' ']
  else more

end ConsumerChannel.Yaml
