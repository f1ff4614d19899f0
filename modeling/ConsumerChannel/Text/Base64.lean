/-!
Base 64. Writing is canonical; reading is strict in its shape (groups of four, padding only at the
very end) and lenient in two places: bits that the padding leaves unused may be set, and padding
marks may follow groups that need none.
-/
namespace ConsumerChannel.Text.Base64

/-- The character that stands for a number below 64. -/
def symbol (n : Nat) : Char :=
  if n < 26 then Char.ofNat (0x41 + n)
  else if n < 52 then Char.ofNat (0x61 + (n - 26))
  else if n < 62 then Char.ofNat (0x30 + (n - 52))
  else if n = 62 then '+' else '/'

/-- The number that a character of the alphabet stands for. -/
def symbolValue? (c : Char) : Option Nat :=
  if 'A' ≤ c ∧ c ≤ 'Z' then some (c.toNat - 0x41)
  else if 'a' ≤ c ∧ c ≤ 'z' then some (c.toNat - 0x61 + 26)
  else if '0' ≤ c ∧ c ≤ '9' then some (c.toNat - 0x30 + 52)
  else if c = '+' then some 62
  else if c = '/' then some 63
  else none

/-- The written form of bytes: three bytes to four characters, the last group padded. -/
def encode : List UInt8 → List Char
  | [] => []
  | [a] =>
    let n := a.toNat * 16
    [symbol (n / 64), symbol (n % 64), '=', '=']
  | [a, b] =>
    let n := (a.toNat * 256 + b.toNat) * 4
    [symbol (n / 4096), symbol (n / 64 % 64), symbol (n % 64), '=']
  | a :: b :: c :: rest =>
    let n := (a.toNat * 256 + b.toNat) * 256 + c.toNat
    symbol (n / 262144) :: symbol (n / 4096 % 64) :: symbol (n / 64 % 64) :: symbol (n % 64) ::
      encode rest

/-- The bytes of a row of groups. A group is four characters of the alphabet; the last may end in
one or two padding marks and then carries two bytes or one. Nothing but padding marks may follow. -/
def decodeGroups? : List Char → Option (List UInt8)
  | [] => some []
  | '=' :: rest => if rest.all (· == '=') then some [] else none
  | [a, b, '=', '='] => do
    let n := (← symbolValue? a) * 64 + (← symbolValue? b)
    return [UInt8.ofNat (n / 16)]
  | [a, b, c, '='] => do
    let n := ((← symbolValue? a) * 64 + (← symbolValue? b)) * 64 + (← symbolValue? c)
    return [UInt8.ofNat (n / 1024), UInt8.ofNat (n / 4)]
  | a :: b :: c :: d :: rest => do
    let n := (((← symbolValue? a) * 64 + (← symbolValue? b)) * 64 + (← symbolValue? c)) * 64 +
      (← symbolValue? d)
    let others ← decodeGroups? rest
    return UInt8.ofNat (n / 65536) :: UInt8.ofNat (n / 256) :: UInt8.ofNat n :: others
  | _ => none

/-- The bytes of a written form, which does not start with padding. -/
def decode? (s : List Char) : Option (List UInt8) :=
  if s.head? = some '=' then none else decodeGroups? s

/-- The bytes of a written form among which anything else may stand. The characters of the alphabet are
collected in fours; `place` tells how many of a four have been seen, `carry` the bits that they left, and
`pads` how many padding marks have come since. A four may be cut short by padding after its second
character, which ends the text; an end anywhere inside a four is refused. -/
def decodeAmid? : (place carry pads : Nat) → List Char → Option (List UInt8)
  | place, _, _, [] => if place = 0 then some [] else none
  | place, carry, pads, c :: rest =>
    if c == '=' then
      if place ≥ 2 then
        if place + pads + 1 ≥ 4 then some [] else decodeAmid? place carry (pads + 1) rest
      else decodeAmid? place carry pads rest
    else
      match symbolValue? c with
      | none => decodeAmid? place carry pads rest
      | some n =>
        if place = 0 then decodeAmid? 1 n 0 rest
        else
          let bits := carry * 64 + n
          let left := 6 - 2 * place
          (decodeAmid? ((place + 1) % 4) (bits % Nat.pow 2 left) 0 rest).map (UInt8.ofNat (bits / Nat.pow 2 left) :: ·)

end ConsumerChannel.Text.Base64
