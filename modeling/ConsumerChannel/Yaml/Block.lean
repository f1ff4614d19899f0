import ConsumerChannel.Yaml.Cursor

/-!
Block scalars: lines below a header, taken as they are or folded, without their common indentation.
The header may give the indentation, and says what becomes of the line ends after the last line.
-/
namespace ConsumerChannel.Yaml.Block

/-- What becomes of the line ends after the last line. -/
inductive Chomping where
  /-- None is kept. -/
  | strip
  /-- The first is kept. -/
  | clip
  /-- All are kept. -/
  | keep
  deriving DecidableEq

/-- The mark of a chomping other than the usual one. -/
def chomping? : Option Char → Option Chomping
  | some '+' => some .keep
  | some '-' => some .strip
  | _ => none

/-- A digit that gives the indentation, if one comes next. -/
def increment? : Option Char → Option Nat
  | some c => if '0' ≤ c ∧ c ≤ '9' then some (c.toNat - 0x30) else none
  | none => none

/-- A header: the chomping, and the indentation if it is given. -/
structure Header where
  chomping : Chomping
  increment : Option Nat

/-- The marks of a header, in either order. -/
def marks (c : Cursor) : Header × Cursor :=
  match chomping? c.peek with
  | some chomping =>
    match increment? c.step.peek with
    | some n => (⟨chomping, some n⟩, c.step.step)
    | none => (⟨chomping, none⟩, c.step)
  | none =>
    match increment? c.peek with
    | none => (⟨.clip, none⟩, c)
    | some n =>
      match chomping? c.step.peek with
      | some chomping => (⟨chomping, some n⟩, c.step.step)
      | none => (⟨.clip, some n⟩, c.step)

/-- The header that comes next, with the rest of its line, where only a comment may follow. -/
def header (c : Cursor) : Except Fault (Header × Cursor) :=
  let (h, c) := marks c
  if h.increment == some 0 || !(c.peek == some ' ' || endsLine c.peek) then refused
  else
    let c := c.skipSpaces.skipComment
    if endsLine c.peek then .ok (h, c.skipLineEnd) else refused

/-- Past spaces up to a column. -/
def indentTo (column : Nat) (c : Cursor) : Cursor :=
  c.skip (min (c.leading (· == ' ')).length (column - c.column))

/-- The ends of empty lines, each with at most the indentation. -/
def emptyLines (indent : Nat) : Nat → Cursor → List Char × Cursor
  | 0, c => ([], c)
  | fuel + 1, c =>
    let c := indentTo indent c
    match c.lineEnd? with
    | none => ([], c)
    | some (lineEnd, c) =>
      let (more, c) := emptyLines indent fuel c
      (lineEnd :: more, c)

/-- The ends of the empty lines before the first line, and the furthest column that is reached. -/
def leadingLines : Nat → (furthest : Nat) → Cursor → List Char × Nat × Cursor
  | 0, furthest, c => ([], furthest, c)
  | fuel + 1, furthest, c =>
    if c.peek == some ' ' then leadingLines fuel (max furthest c.step.column) c.step
    else
      match c.lineEnd? with
      | none => ([], furthest, c)
      | some (lineEnd, c) =>
        let (more, furthest, c) := leadingLines fuel furthest c
        (lineEnd :: more, furthest, c)

/-- Whether a line of the scalar comes next. -/
def isAtLine (indent : Nat) (c : Cursor) : Bool := c.column == indent && c.peek.isSome

/-- Whether a line starts with a word, and not with a gap. -/
def startsWithWord (c : Cursor) : Bool := !c.peek.any isGap

/-- The lines that come next, with what was found before them, and what is left for the chomping: the
end of the last line, and the ends of the empty lines after it. -/
def lines (isFolded : Bool) (indent : Nat) :
    Nat → (before : List Char) → (lineEnd : List Char) → Cursor → List Char × List Char × List Char × Cursor
  | 0, before, lineEnd, c => ([], lineEnd, before, c)
  | fuel + 1, before, lineEnd, c =>
    if !isAtLine indent c then ([], lineEnd, before, c)
    else
      let isWord := startsWithWord c
      let text := c.leading (!isLineEnd ·)
      let c := c.skip text.length
      let lineEnd := (c.lineEnd?.map fun found => [found.1]).getD []
      let (empty, c) := emptyLines indent (c.rest.length + 1) c.skipLineEnd
      let joint :=
        if !isAtLine indent c then []
        else if isFolded && lineEnd == ['\n'] && isWord && startsWithWord c then
          if empty.isEmpty then [' '] else []
        else lineEnd
      let (more, last, after, c) := lines isFolded indent fuel empty lineEnd c
      (before ++ text ++ joint ++ more, last, after, c)

/-- The block scalar that comes next, below an indentation. -/
def read (isFolded : Bool) (outer : Int) (c : Cursor) : Except Fault (List Char × Cursor) := do
  let (h, c) ← header c.step
  let least := max 1 (outer + 1).toNat
  let fuel := c.rest.length + 1
  let (indent, empty, c) := match h.increment with
    | some n => (least + n - 1, emptyLines (least + n - 1) fuel c)
    | none =>
      let (empty, furthest, c) := leadingLines fuel 0 c
      (max least furthest, empty, c)
  let (text, lineEnd, after, c) := lines isFolded indent fuel empty [] c
  return (match h.chomping with
    | .strip => text
    | .clip => text ++ lineEnd
    | .keep => text ++ lineEnd ++ after, c)

end ConsumerChannel.Yaml.Block
