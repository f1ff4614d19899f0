import ConsumerChannel.Text.Quoted
import ConsumerChannel.Value

/-!
Values as text. A text shown alone is itself; inside a collection it is quoted, and values of other
sorts are shown so that their sort can be told.
-/
namespace ConsumerChannel.Value

/-- The word for a truth value. -/
def boolText (b : Bool) : String := if b then "True" else "False"

/-- Texts with a mark between them. -/
def joined (mark : String) (parts : List String) : String := mark.intercalate parts

/-- The text of a failure where its sort is shown as well. -/
def failureShown (f : Failure) : String :=
  match f with
  | .foreign name "" => name ++ "()"
  | .foreign name shown => name ++ "(" ++ (if name = "KeyError" then shown else Text.quoted shown) ++ ")"
  | .channel kind message .. => kind.name ++ "(" ++ Text.quoted message ++ ")"
  | .stop message _ => "StopError(" ++ Text.quoted message ++ ")"
  | other => other.name ++ "()"

/-- An offset from universal time where the sort of the value is shown. -/
def offsetShown (offset : Int) : String :=
  if offset = 0 then "datetime.timezone.utc"
  else
    let days := Int.fdiv offset 86400
    let seconds := Int.fmod offset 86400
    let parts := (if days = 0 then [] else ["days=" ++ toString days]) ++
      (if seconds = 0 then [] else ["seconds=" ++ toString seconds])
    "datetime.timezone(datetime.timedelta(" ++ joined ", " parts ++ "))"

/-- A time where the sort of the value is shown: the parts of its clock without trailing zeros after
the minutes. -/
def dateTimeShown (t : DateTime) : String :=
  let clock := [t.date.year, t.date.month, t.date.day, t.hour, t.minute] ++
    (if t.microsecond ≠ 0 then [t.second, t.microsecond]
     else if t.second ≠ 0 then [t.second] else [])
  let zone := match t.offset with
    | none => []
    | some offset => ["tzinfo=" ++ offsetShown offset]
  "datetime.datetime(" ++ joined ", " (clock.map toString ++ zone) ++ ")"

mutual
/-- A value as a collection shows it. -/
def shown : Value → String
  | null => "None"
  | bool b => boolText b
  | int n => toString n
  | float x => x.text Binary64.plainLayout
  | text s => Text.quoted s
  | bytes b => Text.quotedBytes b
  | byteArray b => "bytearray(" ++ Text.quotedBuffer b ++ ")"
  | decimal d => "Decimal('" ++ d.text ++ "')"
  | date d => "datetime.date(" ++ joined ", " ([d.year, d.month, d.day].map toString) ++ ")"
  | dateTime t => dateTimeShown t
  | path p => "PosixPath(" ++ Text.quoted p ++ ")"
  | list items => "[" ++ joined ", " (shownItems items) ++ "]"
  | tuple items =>
    match shownItems items with
    | [one] => "(" ++ one ++ ",)"
    | many => "(" ++ joined ", " many ++ ")"
  | set items => if items.isEmpty then "set()" else "\x7b" ++ joined ", " (shownItems items) ++ "\x7d"
  | frozenSet items =>
    if items.isEmpty then "frozenset()"
    else "frozenset(\x7b" ++ joined ", " (shownItems items) ++ "\x7d)"
  | dict entries => "\x7b" ++ joined ", " (shownEntries entries) ++ "\x7d"
  | category c => "<ErrorCategory." ++ c.name ++ ": " ++ Text.quoted c.text ++ ">"
  | failure f => failureShown f
/-- Each value of a row as a collection shows it. -/
def shownItems : List Value → List String
  | [] => []
  | v :: rest => shown v :: shownItems rest
/-- Each entry of a dictionary as the dictionary shows it. -/
def shownEntries : List (Value × Value) → List String
  | [] => []
  | (k, v) :: rest => (shown k ++ ": " ++ shown v) :: shownEntries rest
end

/-- A value as text of its own. -/
def plain : Value → String
  | text s => s
  | decimal d => d.text
  | date d => d.text
  | dateTime t => t.text ' '
  | path p => p
  | category c => "ErrorCategory." ++ c.name
  | failure f => f.text
  | other => shown other

/-- Whether a value reads as the word for truth, whatever its sort. -/
def saysTrue (v : Value) : Bool := Text.isWord "true" v.plain

end ConsumerChannel.Value
