import ConsumerChannel.Log.Record
import ConsumerChannel.Number.Fixed
import ConsumerChannel.Value.Text

/-!
The message of a log record. With arguments it is a pattern in which a percent sign starts a field:
an optional key in parentheses, flags, a width, a precision and the letter of a form. Arguments are
used in order, or by key if there is one dictionary of them.
-/
namespace ConsumerChannel.Message

/-- What a field of a pattern says about its form. -/
structure Field where
  left : Bool
  plus : Bool
  space : Bool
  alternate : Bool
  zero : Bool
  width : Nat
  precision : Option Nat

/-- A field that says nothing. -/
def Field.plain : Field := ⟨false, false, false, false, false, 0, none⟩

/-- The arguments that are left: a row of them, one value that is used once, and the entries by key
if there are any. -/
structure Supply where
  rest : List Value
  entries : Option (List (Value × Value))

/-- The arguments of a record. One dictionary with entries is used by key. -/
def Supply.ofArguments : List Value → Supply
  | [.dict (entry :: entries)] => ⟨[.dict (entry :: entries)], some (entry :: entries)⟩
  | arguments => ⟨arguments, none⟩

/-- The next argument. -/
def Supply.next (s : Supply) : Except Fault (Value × Supply) :=
  match s.rest with
  | [] => .error .wrongSort
  | v :: rest => .ok (v, { s with rest := rest })

/-- A text put into a width. -/
def pad (f : Field) (fill : Char) (s : List Char) : List Char :=
  let missing := f.width - s.length
  if f.left then s ++ List.replicate missing ' ' else List.replicate missing fill ++ s

/-- A number put into a width: with zeros they stand between the sign and the digits. -/
def padNumber (f : Field) (negative : Bool) (mark digits : List Char) : List Char :=
  let sign := if negative then ['-'] else if f.plus then ['+'] else if f.space then [' '] else []
  let body := sign ++ mark ++ digits
  if f.zero && !f.left then
    sign ++ mark ++ List.replicate (f.width - body.length) '0' ++ digits
  else pad f ' ' body

/-- A value as text in a form that may cut it off. -/
def textField (f : Field) (s : String) : List Char :=
  let cs := s.toList
  pad f ' ' (match f.precision with
    | none => cs
    | some most => cs.take most)

/-- A quoted text with everything outside the plain alphabet escaped. -/
def plainEscapes (s : String) : String :=
  String.ofList (s.toList.flatMap fun c =>
    if c.toNat < 0x80 then [c]
    else if c.toNat < 0x100 then Text.hexEscape 'x' 2 c.toNat
    else if c.toNat < 0x10000 then Text.hexEscape 'u' 4 c.toNat
    else Text.hexEscape 'U' 8 c.toNat)

/-- The whole number of an argument; only numbers have one here. -/
def wholeNumber (v : Value) : Except Fault Int :=
  match v with
  | .bool _ => v.toInt
  | .int _ => v.toInt
  | .float _ => v.toInt
  | .decimal _ => v.toInt
  | _ => .error .wrongSort

/-- The whole number of an argument that is one already. -/
def exactNumber (v : Value) : Except Fault Int :=
  match v with
  | .bool _ => v.toInt
  | .int n => .ok n
  | _ => .error .wrongSort

/-- A whole number in a base. -/
def numberField (f : Field) (mark : List Char) (digits : List Char) (negative : Bool) : List Char :=
  let least := f.precision.getD 0
  padNumber f negative (if f.alternate then mark else []) (Binary64.padZeros least digits)

/-- Capital letters for the small plain ones. -/
def capitals (s : List Char) : List Char :=
  s.map fun c => if 'a' ≤ c ∧ c ≤ 'z' then Char.ofNat (c.toNat - 32) else c

/-- A floating-point number in one of the three notations. -/
def floatField (f : Field) (form : Char) (x : Binary64) : List Char :=
  let places := f.precision.getD 6
  let finish (negative : Bool) (body : List Char) :=
    padNumber f negative [] (if form.isUpper then capitals body else body)
  match x with
  | .nan => padNumber f false [] (if form.isUpper then "NAN".toList else "nan".toList)
  | .infinity negative =>
    padNumber f negative [] (if form.isUpper then "INF".toList else "inf".toList)
  | .finite negative significand exponent _ =>
    let (num, den) := if 0 ≤ exponent then (significand * Nat.pow 2 exponent.natAbs, 1)
      else (significand, Nat.pow 2 exponent.natAbs)
    match Text.smallLetter form with
    | 'f' => finish negative (Binary64.fixedText f.alternate places num den)
    | 'e' => finish negative (Binary64.scientificText f.alternate places num den)
    | _ => finish negative (Binary64.generalText f.alternate places num den)

/-- An argument in the form of a letter. -/
def fieldText (f : Field) (form : Char) (v : Value) : Except Fault (List Char) := do
  match form with
  | 's' => return textField f v.plain
  | 'r' => return textField f v.shown
  | 'a' => return textField f (plainEscapes v.shown)
  | 'c' =>
    match v with
    | .text s =>
      match s.toList with
      | [c] => return pad f ' ' [c]
      | _ => throw .wrongSort
    | other =>
      let n ← exactNumber other
      if n < 0 ∨ 0x10FFFF < n then throw .tooLarge
      else return pad f ' ' [Char.ofNat n.natAbs]
  | 'd' => whole (← wholeNumber v)
  | 'i' => whole (← wholeNumber v)
  | 'u' => whole (← wholeNumber v)
  | 'o' => inBase 8 "0o" (← exactNumber v)
  | 'x' => inBase 16 "0x" (← exactNumber v)
  | 'X' =>
    let n ← exactNumber v
    return numberField f "0X".toList (capitals (Nat.toDigits 16 n.natAbs)) (n < 0)
  | other =>
    if ['e', 'E', 'f', 'F', 'g', 'G'].contains other then
      match v with
      | .text _ => throw .wrongSort
      | .bytes _ => throw .wrongSort
      | .byteArray _ => throw .wrongSort
      | number => return floatField f other (← number.toFloat)
    else throw (.badValue none)
where
  whole (n : Int) : Except Fault (List Char) :=
    return numberField { f with alternate := false } [] (Text.decimalText n.natAbs) (n < 0)
  inBase (base : Nat) (mark : String) (n : Int) : Except Fault (List Char) :=
    return numberField f mark.toList (Nat.toDigits base n.natAbs) (n < 0)

/-- A key up to the parenthesis that closes it; parentheses inside it are matched. -/
def readKey? : (depth : Nat) → List Char → Option (List Char × List Char)
  | _, [] => none
  | depth, ')' :: rest =>
    match depth with
    | 0 => some ([], rest)
    | d + 1 => (readKey? d rest).map fun (key, tail) => (')' :: key, tail)
  | depth, '(' :: rest => (readKey? (depth + 1) rest).map fun (key, tail) => ('(' :: key, tail)
  | depth, c :: rest => (readKey? depth rest).map fun (key, tail) => (c :: key, tail)

/-- The flags of a field. -/
def readFlags (f : Field) : List Char → Field × List Char
  | '-' :: rest => readFlags { f with left := true } rest
  | '+' :: rest => readFlags { f with plus := true } rest
  | ' ' :: rest => readFlags { f with space := true } rest
  | '#' :: rest => readFlags { f with alternate := true } rest
  | '0' :: rest => readFlags { f with zero := true } rest
  | rest => (f, rest)

/-- The bound on widths. -/
def widthLimit : Nat := Nat.pow 2 63

/-- The bound on precisions. -/
def precisionLimit : Nat := Nat.pow 2 31

/-- A count in a field: digits, or a star for the next argument. It has to be below a bound. -/
def readCount (limit : Nat) (s : List Char) (supply : Supply) :
    Except Fault (Option Int × List Char × Supply) :=
  match s with
  | '*' :: rest => do
    let (v, supply) ← supply.next
    let n ← exactNumber v
    if n < -(limit : Int) ∨ (limit : Int) ≤ n then throw .tooLarge
    else return (some n, rest, supply)
  | other =>
    let (digits, rest) := Numeral.spanDigits other
    let n := Numeral.ofPlainDigits digits
    if digits.isEmpty then .ok (none, rest, supply)
    else if limit ≤ n then .error (.badValue none)
    else .ok (some n, rest, supply)

/-- Drops one letter that once told the size of a number. -/
def dropSize : List Char → List Char
  | 'h' :: rest => rest
  | 'l' :: rest => rest
  | 'L' :: rest => rest
  | rest => rest

/-- A field with more than a percent sign, after its percent sign: its text, the rest of the pattern and
the arguments left. -/
def readField (s : List Char) (supply : Supply) : Except Fault (List Char × List Char × Supply) := do
  let (s, supply) ← match s with
    | '(' :: rest =>
      match supply.entries with
      | none => throw .wrongSort
      | some entries =>
        match readKey? 0 rest with
        | none => throw (.badValue none)
        | some (key, tail) =>
          match Value.field? entries (String.ofList key) with
          | none => throw .noSuchKey
          | some v => pure (tail, { supply with rest := [v] })
    | other => pure (other, supply)
  let (f, s) := readFlags .plain s
  let (width, s, supply) ← readCount widthLimit s supply
  let f := match width with
    | none => f
    | some n => { f with width := n.natAbs, left := f.left || n < 0 }
  let (f, s, supply) ← match s with
    | '.' :: rest => do
      let (precision, s, supply) ← readCount precisionLimit rest supply
      pure ({ f with precision := some (precision.getD 0).toNat }, s, supply)
    | other => pure (f, other, supply)
  match dropSize s with
  | [] => throw (.badValue none)
  | form :: rest =>
    let (v, supply) ← supply.next
    return (← fieldText f form v, rest, supply)

/-- A pattern with its fields filled in. Each round takes at least one character, so the length of
the pattern bounds the rounds. -/
def fill : (rounds : Nat) → List Char → Supply → Except Fault (List Char)
  | _, [], supply =>
    if supply.rest.isEmpty || supply.entries.isSome then .ok [] else .error .wrongSort
  | 0, _ :: _, _ => .error .unfinished
  | rounds + 1, '%' :: '%' :: rest, supply => do
    return '%' :: (← fill rounds rest supply)
  | rounds + 1, '%' :: rest, supply => do
    let (shown, tail, supply) ← readField rest supply
    return shown ++ (← fill rounds tail supply)
  | rounds + 1, c :: rest, supply => do
    return c :: (← fill rounds rest supply)

end ConsumerChannel.Message

namespace ConsumerChannel.LogRecord

/-- What a record says: its message, with the arguments filled in if there are any. -/
def text (r : LogRecord) : Except Fault String :=
  let pattern := r.message.plain
  if r.arguments.isEmpty then .ok pattern
  else
    (Message.fill pattern.length pattern.toList (.ofArguments r.arguments)).map String.ofList

end ConsumerChannel.LogRecord
