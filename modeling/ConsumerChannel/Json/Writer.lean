import ConsumerChannel.Json.Basic
import ConsumerChannel.Number.Shortest
import ConsumerChannel.Text.Digits

/-!
Writing JSON. The marks between members and the form of floating-point numbers are the style's;
what is escaped in a string is the same in every style: the quote, the backslash and the controls
below the space.
-/
namespace ConsumerChannel.Json

/-- How documents are written. -/
structure Style where
  /-- Stands between two members. -/
  itemMark : List Char
  /-- Stands between the name and the document of a field. -/
  fieldMark : List Char
  /-- The layout of floating-point numbers. -/
  layout : Binary64.Layout

/-- Request bodies: no spaces. -/
def Style.wire : Style := ⟨[','], [':'], Binary64.wireLayout⟩

/-- Log lines: a space after each mark. -/
def Style.line : Style := ⟨[',', ' '], [':', ' '], Binary64.lineLayout⟩

/-- One character inside a string. -/
def escapeChar (c : Char) : List Char :=
  if c == '"' then ['\\', '"']
  else if c == '\\' then ['\\', '\\']
  else if c == '\x08' then ['\\', 'b']
  else if c == '\x0c' then ['\\', 'f']
  else if c == '\n' then ['\\', 'n']
  else if c == '\r' then ['\\', 'r']
  else if c == '\t' then ['\\', 't']
  else if c.toNat < 0x20 then '\\' :: 'u' :: Text.hexDigits 4 c.toNat
  else [c]

/-- A string in its quotes. -/
def writeString (s : String) : List Char :=
  '"' :: s.toList.flatMap escapeChar ++ ['"']

/-- A whole number in plain digits. -/
def writeInt (n : Int) : List Char :=
  if n < 0 then '-' :: Text.decimalText n.natAbs else Text.decimalText n.natAbs

mutual
/-- The text of a document. -/
def write (style : Style) : Json → List Char
  | null => ['n', 'u', 'l', 'l']
  | bool true => ['t', 'r', 'u', 'e']
  | bool false => ['f', 'a', 'l', 's', 'e']
  | int n => writeInt n
  | float x => (x.text style.layout).toList
  | text s => writeString s
  | array [] => ['[', ']']
  | array (item :: items) => '[' :: write style item ++ writeItems style items ++ [']']
  | object [] => ['\x7b', '\x7d']
  | object ((name, document) :: fields) =>
    '\x7b' :: writeString name ++ style.fieldMark ++ write style document ++ writeFields style fields ++
      ['\x7d']
/-- The items after the first, each with the mark before it. -/
def writeItems (style : Style) : List Json → List Char
  | [] => []
  | item :: items => style.itemMark ++ write style item ++ writeItems style items
/-- The fields after the first, each with the mark before it. -/
def writeFields (style : Style) : List (String × Json) → List Char
  | [] => []
  | (name, document) :: fields =>
    style.itemMark ++ writeString name ++ style.fieldMark ++ write style document ++
      writeFields style fields
end

/-- The text of a document in a style. -/
def render (style : Style) (document : Json) : String := String.ofList (write style document)

end ConsumerChannel.Json
