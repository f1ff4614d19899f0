import ConsumerChannel.Text.Digits
import ConsumerChannel.Text.Printable

/-!
Quoted texts and byte strings, as messages show them. A text stands in single quotes unless it
holds a single quote and no double quote; what is not printable is escaped.
-/
namespace ConsumerChannel.Text

/-- A number in exactly `count` hexadecimal digits after an escape letter. -/
def hexEscape (letter : Char) (count n : Nat) : List Char :=
  '\\' :: letter :: hexDigits count n

/-- One character inside quotes: the quote, the backslash and three controls have short escapes,
anything else that is not printable a hexadecimal one of the least sufficient width. -/
def quoteChar (quote : Char) (c : Char) : List Char :=
  if c == quote || c == '\\' then ['\\', c]
  else if c == '\t' then ['\\', 't']
  else if c == '\n' then ['\\', 'n']
  else if c == '\r' then ['\\', 'r']
  else if isPrintable c then [c]
  else if c.toNat < 0x100 then hexEscape 'x' 2 c.toNat
  else if c.toNat < 0x10000 then hexEscape 'u' 4 c.toNat
  else hexEscape 'U' 8 c.toNat

/-- Single quotes, unless only they occur in the text. -/
def quoteMark (s : List Char) : Char :=
  if s.contains '\'' && !s.contains '"' then '"' else '\''

/-- The text in quotes. -/
def quoted (s : String) : String :=
  let cs := s.toList
  let mark := quoteMark cs
  String.ofList (mark :: cs.flatMap (quoteChar mark) ++ [mark])

/-- One byte inside quotes: printable plain characters stand for themselves, apart from the ones that
are escaped. -/
def quoteByte (escaped : List Char) (b : UInt8) : List Char :=
  let c := Char.ofNat b.toNat
  if escaped.contains c then ['\\', c]
  else if c == '\t' then ['\\', 't']
  else if c == '\n' then ['\\', 'n']
  else if c == '\r' then ['\\', 'r']
  else if 0x20 ≤ b.toNat && b.toNat < 0x7F then [c]
  else hexEscape 'x' 2 b.toNat

/-- The bytes in quotes after the letter `b`. -/
def quotedBytes (bytes : List UInt8) : String :=
  let mark := quoteMark (bytes.map fun b => Char.ofNat b.toNat)
  String.ofList ('b' :: mark :: bytes.flatMap (quoteByte [mark, '\\']) ++ [mark])

/-- Bytes that may change, in quotes after the letter `b`. Single quotes among them are escaped
whatever the quotes around them. -/
def quotedBuffer (bytes : List UInt8) : String :=
  let mark := quoteMark (bytes.map fun b => Char.ofNat b.toNat)
  String.ofList ('b' :: mark :: bytes.flatMap (quoteByte ['\'', '\\']) ++ [mark])

end ConsumerChannel.Text
