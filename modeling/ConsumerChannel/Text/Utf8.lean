/-!
Bytes as text. Strict reading refuses ill-formed bytes; lenient reading puts one replacement
character for each maximal part of a sequence that could have been the start of a character.
-/
namespace ConsumerChannel.Text

/-- The mark that lenient reading leaves for bytes it cannot read. -/
def replacementChar : Char := Char.ofNat 0xFFFD

/-- A byte that continues a sequence, within the bounds that the sequence sets for it. -/
def isContinuation (low high : Nat) (b : UInt8) : Bool :=
  low ≤ b.toNat && b.toNat ≤ high

/-- What the first byte announces: the number of bytes that follow, the bits it carries, and the
bounds on the second byte, which exclude overlong forms, surrogates and numbers above the last
code point. -/
def leadByte? (b : UInt8) : Option (Nat × Nat × Nat × Nat) :=
  let n := b.toNat
  if n < 0x80 then some (0, n, 0x80, 0xBF)
  else if 0xC2 ≤ n && n ≤ 0xDF then some (1, n - 0xC0, 0x80, 0xBF)
  else if n == 0xE0 then some (2, 0, 0xA0, 0xBF)
  else if n == 0xED then some (2, 0xD, 0x80, 0x9F)
  else if 0xE1 ≤ n && n ≤ 0xEF then some (2, n - 0xE0, 0x80, 0xBF)
  else if n == 0xF0 then some (3, 0, 0x90, 0xBF)
  else if 0xF1 ≤ n && n ≤ 0xF3 then some (3, n - 0xF0, 0x80, 0xBF)
  else if n == 0xF4 then some (3, 4, 0x80, 0x8F)
  else none

/-- Reads continuation bytes into a code point; stops before the first byte out of bounds and then
gives no character. Both outcomes come with the bytes not used. -/
def continueChar : (count acc low high : Nat) → List UInt8 → Option Char × List UInt8
  | 0, acc, _, _, rest => (some (Char.ofNat acc), rest)
  | _ + 1, _, _, _, [] => (none, [])
  | count + 1, acc, low, high, b :: rest =>
    if isContinuation low high b then
      continueChar count (acc * 64 + (b.toNat - 0x80)) 0x80 0xBF rest
    else (none, b :: rest)

/-- One character, or a maximal ill-formed part, off the front of non-empty bytes. -/
def nextChar (b : UInt8) (rest : List UInt8) : Option Char × List UInt8 :=
  match leadByte? b with
  | none => (none, rest)
  | some (count, acc, low, high) => continueChar count acc low high rest

private theorem continueChar_length (count acc low high : Nat) (bytes : List UInt8) :
    (continueChar count acc low high bytes).2.length ≤ bytes.length := by
  induction count generalizing acc low high bytes with
  | zero => simp [continueChar]
  | succ count ih =>
    cases bytes with
    | nil => simp [continueChar]
    | cons b rest =>
      simp only [continueChar]
      split
      · exact Nat.le_succ_of_le (ih _ _ _ rest)
      · simp

private theorem nextChar_length (b : UInt8) (rest : List UInt8) :
    (nextChar b rest).2.length < (b :: rest).length := by
  unfold nextChar
  split
  · simp
  · exact Nat.lt_succ_of_le (continueChar_length _ _ _ _ rest)

/-- The characters of the bytes, `none` for each maximal ill-formed part. -/
def decodeParts : List UInt8 → List (Option Char)
  | [] => []
  | b :: rest => (nextChar b rest).1 :: decodeParts (nextChar b rest).2
termination_by bytes => bytes.length
decreasing_by exact nextChar_length b rest

/-- The text of well-formed bytes. -/
def decodeStrict? (bytes : List UInt8) : Option String :=
  ((decodeParts bytes).mapM id).map String.ofList

/-- The text of any bytes, each maximal ill-formed part replaced by one mark. -/
def decodeLenient (bytes : List UInt8) : String :=
  String.ofList ((decodeParts bytes).map (·.getD replacementChar))

/-- The bytes of a text. -/
def encode (s : String) : List UInt8 :=
  s.toUTF8.toList

end ConsumerChannel.Text
