import ConsumerChannel.Failure
import ConsumerChannel.Json.Basic
import ConsumerChannel.Number.Numeral

/-!
Reading documents into types. A reader gives a value or all the issues it found, in the order of the
fields and from the outside in; it never stops at the first.
-/
namespace ConsumerChannel

/-- A value, or the issues that stand against it. -/
abbrev Checked (α : Type) := Except (List Issue) α

namespace Checked
variable {α β γ : Type}

/-- One issue at the place of the reader. -/
def refuse (flaw : Flaw) : Checked α := .error [⟨[], flaw⟩]

/-- The issues put below a place. -/
def below (place : Place) (c : Checked α) : Checked α :=
  match c with
  | .ok a => .ok a
  | .error issues => .error (issues.map fun issue => { issue with place := place :: issue.place })

/-- Two readings joined; the issues of both are kept. -/
def join (f : α → β → γ) (a : Checked α) (b : Checked β) : Checked γ :=
  match a, b with
  | .ok x, .ok y => .ok (f x y)
  | .ok _, .error issues => .error issues
  | .error issues, .ok _ => .error issues
  | .error issues, .error more => .error (issues ++ more)

/-- A row of readings, with the issues of every member below its index. -/
def row : (index : Int) → List (Checked α) → Checked (List α)
  | _, [] => .ok []
  | index, c :: rest => join List.cons (below (.index index) c) (row (index + 1) rest)

end Checked

namespace Schema

/-- The text of a document. -/
def string : Json → Checked String
  | .text s => .ok s
  | _ => .refuse .notString

/-- A text that is not empty. -/
def filledString (d : Json) : Checked String := do
  let s ← string d
  if s = "" then .refuse .tooShort else return s

/-- Nothing, or what a reader reads. -/
def nullable {α : Type} (reader : Json → Checked α) : Json → Checked (Option α)
  | .null => .ok none
  | d => (reader d).map some

/-- The items of an array. -/
def list {α : Type} (reader : Json → Checked α) : Json → Checked (List α)
  | .array items => .row 0 (items.map reader)
  | _ => .refuse .notList

/-- The fields of an object that may have any. -/
def dictionary : Json → Checked (List (String × Json))
  | .object fields => .ok fields
  | _ => .refuse .notDictionary

/-- The digits of a whole number text after its sign: digits with single underscores between them,
perhaps a point and zeros. -/
def wholeDigits? (s : List Char) : Option (List Char) :=
  let whole := s.takeWhile (· != '.')
  match s.dropWhile (· != '.') with
  | [] => Numeral.digitRow? false whole
  | _ :: zeros =>
    if !zeros.isEmpty && zeros.all (· == '0') then Numeral.digitRow? false whole else none

/-- A whole number written as a text. -/
def integerText (s : String) : Checked Int :=
  let (negative, body) := Numeral.takeSign (Text.trim Text.isSpace s.toList)
  match wholeDigits? body with
  | none => .refuse .notIntegerText
  | some digits =>
    if Numeral.digitLimit < Numeral.writtenLength negative digits.length then .refuse .integerTooLong
    else .ok (Numeral.signed negative (Numeral.ofPlainDigits digits))

/-- A whole number: written as one, as a truth value, as a number without fraction, or as a text. -/
def integer : Json → Checked Int
  | .int n => .ok n
  | .bool b => .ok (if b then 1 else 0)
  | .float x =>
    match x.truncate? with
    | none => .refuse .notFinite
    | some n =>
      if !x.isIntegral then .refuse .fractional
      else if n.natAbs < Nat.pow 2 63 then .ok n
      else .refuse .integerTooLong
  | .text s => integerText s
  | _ => .refuse .notInteger

/-- A field under one of two names; the first wins, and issues name it. -/
def field {α : Type} (names : String × String) (absent : Checked α) (reader : Json → Checked α)
    (fields : List (String × Json)) : Checked α :=
  Checked.below (.field names.1)
    (match Json.lookup? fields names.1 with
      | some d => reader d
      | none =>
        match Json.lookup? fields names.2 with
        | some d => reader d
        | none => absent)

/-- A field that has to be there. -/
def required {α : Type} (names : String × String) (reader : Json → Checked α)
    (fields : List (String × Json)) : Checked α :=
  field names (.refuse .missing) reader fields

/-- A field that may be left out. -/
def optional {α : Type} (names : String × String) (default : α) (reader : Json → Checked α)
    (fields : List (String × Json)) : Checked α :=
  field names (.ok default) reader fields

/-- The fields of an object that stands for a record. -/
def object {α : Type} (reader : List (String × Json) → Checked α) : Json → Checked α
  | .object fields => reader fields
  | _ => .refuse .notObject

end Schema

end ConsumerChannel
