import ConsumerChannel.Yaml.Cursor

/-!
Plain scalars: text without quotes, which ends where an indicator could start something else. It may
run over several lines as long as they are indented.
-/
namespace ConsumerChannel.Yaml.Plain

/-- A character that is an indicator inside brackets. -/
def isFlowMark (c : Char) : Bool :=
  c == ',' || c == '[' || c == ']' || c == '\x7b' || c == '\x7d'

/-- Whether a plain scalar ends before a character, given the one after it. A colon ends it if
nothing is joined to the colon; inside brackets so do the marks of brackets. -/
def stopsAt (inFlow : Bool) (c : Char) (next : Option Char) : Bool :=
  isGap c || isLineEnd c ||
    (c == ':' && (endsWord next || (inFlow && next.any isFlowMark))) ||
    (inFlow && (isFlowMark c || c == '?'))

/-- The part of a plain scalar that comes next without a gap. -/
def word (inFlow : Bool) : List Char → List Char
  | [] => []
  | c :: rest => if stopsAt inFlow c rest.head? then [] else c :: word inFlow rest

/-- Whether a character may start a plain scalar, given the one after it. -/
def startsAt (inFlow : Bool) (c : Char) (next : Option Char) : Bool :=
  !(isGap c || isLineEnd c || "-?:,[]\x7b\x7d#&*!|>'\"%@`".toList.contains c) ||
    (!endsWord next && (c == '-' || (!inFlow && (c == '?' || c == ':'))))

/-- Line ends and spaces in the middle of a scalar, and whether a mark between documents ends them. -/
def emptyLines : Nat → Cursor → List Char × Bool × Cursor
  | 0, c => ([], false, c)
  | fuel + 1, c =>
    if c.peek == some ' ' then emptyLines fuel c.step
    else
      match c.lineEnd? with
      | none => ([], false, c)
      | some (lineEnd, c) =>
        if c.isAtSeparator then ([], true, c)
        else
          let (more, ended, c) := emptyLines fuel c
          (lineEnd :: more, ended, c)

/-- What stands between two words of a scalar: the text that it reads as, nothing if the scalar ends
here, and whether a line has ended. -/
structure Gap where
  text : List Char
  crossesLine : Bool
  cursor : Cursor

/-- The gap that comes next. -/
def gap (c : Cursor) : Gap :=
  let spaces := c.leading (· == ' ')
  let c := c.skip spaces.length
  match c.lineEnd? with
  | none => ⟨spaces, false, c⟩
  | some (lineEnd, c) =>
    if c.isAtSeparator then ⟨[], true, c⟩
    else
      let (more, ended, c) := emptyLines (c.rest.length + 1) c
      ⟨if ended then [] else folded lineEnd more, true, c⟩

/-- A plain scalar, and whether a line has ended after its last word. -/
structure Reading where
  text : List Char
  crossesLine : Bool
  cursor : Cursor

/-- A plain scalar with some text before it that belongs to it if another word follows. Words have to
be in a column of at least the indentation, except inside brackets. -/
def readFrom (inFlow : Bool) (indent : Int) : Nat → (before : List Char) → (crossed : Bool) → Cursor → Reading
  | 0, _, crossed, c => ⟨[], crossed, c⟩
  | fuel + 1, before, crossed, c =>
    let next := if c.peek == some '#' then [] else word inFlow c.rest
    if next.isEmpty then ⟨[], crossed, c⟩
    else
      let g := gap (c.skip next.length)
      if g.text.isEmpty || g.cursor.peek == some '#' || (!inFlow && (g.cursor.column : Int) < indent) then
        ⟨before ++ next, g.crossesLine, g.cursor⟩
      else
        let later := readFrom inFlow indent fuel g.text g.crossesLine g.cursor
        ⟨before ++ next ++ later.text, later.crossesLine, later.cursor⟩

/-- The plain scalar that comes next. -/
def read (inFlow : Bool) (indent : Int) (c : Cursor) : Reading :=
  readFrom inFlow indent (c.rest.length + 1) [] false c

end ConsumerChannel.Yaml.Plain
