import ConsumerChannel.Json.Basic
import ConsumerChannel.Number.Numeral

/-!
Reading JSON. The grammar is the standard one with three literals for numbers that are not finite.
A reader may bound the nesting of containers and the length of whole numbers.
-/
namespace ConsumerChannel.Json

/-- What a reader refuses although the grammar allows it. -/
structure Limits where
  /-- The deepest level at which a container may have members. -/
  depth : Option Nat
  /-- The most digits of a whole number; its minus counts as one. -/
  digits : Option Nat

/-- No bounds. -/
def Limits.none : Limits := ⟨.none, .none⟩

/-- The bounds of the service's answers. -/
def Limits.service : Limits := ⟨some 200, some Numeral.digitLimit⟩

/-- Whether a count is within a bound. -/
def allowed (bound : Option Nat) (n : Nat) : Bool :=
  match bound with
  | .none => true
  | some most => n ≤ most

/-- A character that may stand between tokens. -/
def isGap (c : Char) : Bool := c == ' ' || c == '\t' || c == '\n' || c == '\r'

/-- Drops what stands between tokens. -/
def skipGap (s : List Char) : List Char := s.dropWhile isGap

/-- The character of an escape of one letter. -/
def shortEscape? : Char → Option Char
  | '"' => some '"'
  | '\\' => some '\\'
  | '/' => some '/'
  | 'b' => some '\x08'
  | 'f' => some '\x0c'
  | 'n' => some '\n'
  | 'r' => some '\r'
  | 't' => some '\t'
  | _ => none

/-- The number written by four hexadecimal digits. -/
def hexUnit? (a b c d : Char) : Option Nat := do
  return (((← Text.hexValue? a) * 16 + (← Text.hexValue? b)) * 16 + (← Text.hexValue? c)) * 16 +
    (← Text.hexValue? d)

/-- The first half of a character beyond the 16-bit range. -/
def isHighHalf (n : Nat) : Bool := 0xD800 ≤ n && n ≤ 0xDBFF

/-- The second half of a character beyond the 16-bit range. -/
def isLowHalf (n : Nat) : Bool := 0xDC00 ≤ n && n ≤ 0xDFFF

/-- The rest of a string after its opening quote, up to the closing one. Raw controls are refused,
and so is half a character that stands alone. -/
def readString? : List Char → Option (List Char × List Char)
  | '"' :: rest => some ([], rest)
  | '\\' :: 'u' :: a :: b :: c :: d :: rest =>
    match hexUnit? a b c d with
    | .none => .none
    | some unit =>
      if isHighHalf unit then
        match rest with
        | '\\' :: 'u' :: e :: f :: g :: h :: more =>
          match hexUnit? e f g h with
          | .none => .none
          | some low =>
            if isLowHalf low then
              (readString? more).map fun (cs, tail) =>
                (Char.ofNat (0x10000 + (unit - 0xD800) * 0x400 + (low - 0xDC00)) :: cs, tail)
            else .none
        | _ => .none
      else if isLowHalf unit then .none
      else (readString? rest).map fun (cs, tail) => (Char.ofNat unit :: cs, tail)
  | '\\' :: c :: rest =>
    match shortEscape? c with
    | .none => .none
    | some e => (readString? rest).map fun (cs, tail) => (e :: cs, tail)
  | c :: rest =>
    if c == '\\' || c.toNat < 0x20 then .none
    else (readString? rest).map fun (cs, tail) => (c :: cs, tail)
  | [] => .none

/-- The part of a number after its whole digits: a fraction and an exponent, each optional, as the
fraction digits and the exponent, and whether either is there. -/
def readScale? (s : List Char) : Option (List Char × Int × Bool × List Char) :=
  let (fraction, hasFraction, rest) := match s with
    | '.' :: more => ((Numeral.spanDigits more).1, true, (Numeral.spanDigits more).2)
    | other => ([], false, other)
  if hasFraction && fraction.isEmpty then .none
  else
    match rest with
    | e :: more =>
      if e == 'e' || e == 'E' then
        let (negative, body) := Numeral.takeSign more
        let (digits, tail) := Numeral.spanDigits body
        if digits.isEmpty then .none
        else some (fraction, Numeral.signed negative (Numeral.ofPlainDigits digits), true, tail)
      else some (fraction, 0, hasFraction, rest)
    | [] => some (fraction, 0, hasFraction, [])

/-- A number without its sign. Whole digits start with zero only if they are the zero. -/
def readNumber? (limits : Limits) (negative : Bool) (s : List Char) : Option (Json × List Char) :=
  let (whole, rest) := Numeral.spanDigits s
  if whole.isEmpty || (whole.head? == some '0' && whole.length != 1) then .none
  else if !allowed limits.digits (Numeral.writtenLength negative whole.length) then .none
  else
    (readScale? rest).map fun (fraction, exponent, scaled, tail) =>
      if scaled then
        (float (Binary64.ofDecimal negative (Numeral.ofPlainDigits (whole ++ fraction))
          (exponent - fraction.length)), tail)
      else (int (Numeral.signed negative (Numeral.ofPlainDigits whole)), tail)

/-- Drops a word from the front. -/
def afterWord? : (word s : List Char) → Option (List Char)
  | [], s => some s
  | w :: ws, c :: rest => if w == c then afterWord? ws rest else .none
  | _ :: _, [] => .none

/-- A literal word, or a number. -/
def readAtom? (limits : Limits) : List Char → Option (Json × List Char)
  | 'n' :: rest => (afterWord? ['u', 'l', 'l'] rest).map (null, ·)
  | 't' :: rest => (afterWord? ['r', 'u', 'e'] rest).map (bool true, ·)
  | 'f' :: rest => (afterWord? ['a', 'l', 's', 'e'] rest).map (bool false, ·)
  | 'N' :: rest => (afterWord? ['a', 'N'] rest).map (float .nan, ·)
  | 'I' :: rest => (afterWord? "nfinity".toList rest).map (float (.infinity false), ·)
  | '-' :: 'I' :: rest => (afterWord? "nfinity".toList rest).map (float (.infinity true), ·)
  | '-' :: rest => readNumber? limits true rest
  | s => readNumber? limits false s

mutual
/-- One document off the front of a text; `level` containers are open around it. -/
def readValue? (limits : Limits) : (fuel level : Nat) → List Char → Option (Json × List Char)
  | 0, _, _ => .none
  | fuel + 1, level, s =>
    match skipGap s with
    | '"' :: rest => (readString? rest).map fun (cs, tail) => (text (String.ofList cs), tail)
    | '[' :: rest =>
      match skipGap rest with
      | ']' :: tail => some (array [], tail)
      | other =>
        if allowed limits.depth (level + 1) then
          (readItems? limits fuel (level + 1) other).map fun (items, tail) => (array items, tail)
        else .none
    | '\x7b' :: rest =>
      match skipGap rest with
      | '\x7d' :: tail => some (object [], tail)
      | other =>
        if allowed limits.depth (level + 1) then
          (readFields? limits fuel (level + 1) other).map fun (fields, tail) =>
            (object (mergeFields fields), tail)
        else .none
    | other => readAtom? limits other
/-- The items of an array that is not empty, up to its closing bracket. -/
def readItems? (limits : Limits) : (fuel level : Nat) → List Char → Option (List Json × List Char)
  | 0, _, _ => .none
  | fuel + 1, level, s =>
    match readValue? limits fuel level s with
    | .none => .none
    | some (item, rest) =>
      match skipGap rest with
      | ',' :: more => (readItems? limits fuel level more).map fun (items, tail) => (item :: items, tail)
      | ']' :: tail => some ([item], tail)
      | _ => .none
/-- The fields of an object that is not empty, up to its closing brace. -/
def readFields? (limits : Limits) :
    (fuel level : Nat) → List Char → Option (List (String × Json) × List Char)
  | 0, _, _ => .none
  | fuel + 1, level, s =>
    match skipGap s with
    | '"' :: rest =>
      match readString? rest with
      | .none => .none
      | some (name, afterName) =>
        match skipGap afterName with
        | ':' :: body =>
          match readValue? limits fuel level body with
          | .none => .none
          | some (document, rest) =>
            match skipGap rest with
            | ',' :: more =>
              (readFields? limits fuel level more).map fun (fields, tail) =>
                ((String.ofList name, document) :: fields, tail)
            | '\x7d' :: tail => some ([(String.ofList name, document)], tail)
            | _ => .none
        | _ => .none
    | _ => .none
end

/-- The document that a whole text writes. Every step of reading takes at least one character, so
twice the length of the text is fuel enough. -/
def parse? (limits : Limits) (s : String) : Option Json :=
  match readValue? limits (2 * s.length + 2) 0 s.toList with
  | some (document, rest) => if (skipGap rest).isEmpty then some document else .none
  | .none => .none

end ConsumerChannel.Json
