import ConsumerChannel.Wire.Records
import Mathlib.Algebra.Group.Nat.Defs
import Mathlib.Data.Fin.Basic
import Mathlib.Data.List.Basic
import Mathlib.Tactic.MkIffOfInductiveProp

/-! Payloads in base 64. A row of sextets closes with the padding that its length asks for; the reader takes just these
rows, each written in the alphabet, and packs them. What a row packs to settles the row, but for the bits of its last
sextet that reach into no byte. -/
namespace ConsumerChannel
namespace Text.Base64

/-! ## The alphabet -/

/-- A character that carries data. -/
def Plain (c : Char) : Prop :=
  c.isAlphanum ∨ c = '+' ∨ c = '/'

instance (c : Char) : Decidable (Plain c) :=
  inferInstanceAs (Decidable (_ ∨ _))

theorem ascii_of_le {c d : Char} (ascii : d.toNat < 0x80) (le : c ≤ d) : c.toNat < 0x80 :=
  Nat.lt_of_le_of_lt (UInt32.le_iff_toNat_le.mp (Char.le_def.mp le)) ascii

theorem Plain.ascii {c : Char} (plain : Plain c) : c.toNat < 0x80 := by
  rcases plain with letter | rfl | rfl
  · have kinds : (c.isUpper || c.isLower || c.isDigit) = true := letter
    rw [Bool.or_eq_true, Bool.or_eq_true] at kinds
    obtain (upper | lower) | digit := kinds
    · exact ascii_of_le (by decide) (of_decide_eq_true upper : 'A' ≤ c ∧ c ≤ 'Z').2
    · exact ascii_of_le (by decide) (of_decide_eq_true (Bool.and_eq_true_iff.mp lower).2 : c ≤ 'z')
    · exact ascii_of_le (by decide) (of_decide_eq_true (Bool.and_eq_true_iff.mp digit).2 : c ≤ '9')
  · decide
  · decide

theorem symbolValue?_ascii {c : Char} {n : Nat} (found : symbolValue? c = some n) : c.toNat < 0x80 := by
  unfold symbolValue? at found
  split at found
  case isTrue range => exact ascii_of_le (by decide) range.2
  split at found
  case isTrue range => exact ascii_of_le (by decide) range.2
  split at found
  case isTrue range => exact ascii_of_le (by decide) range.2
  split at found
  case isTrue same => subst same; decide
  split at found
  case isTrue same => subst same; decide
  cases found

/-- What holds of all characters of one byte's lower half holds of any character known to be one. -/
theorem of_ascii {P : Char → Prop} (all : ∀ n < 0x80, P (Char.ofNat n)) {c : Char} (ascii : c.toNat < 0x80) : P c :=
  c.ofNat_toNat ▸ all c.toNat ascii

theorem symbolValue?_isSome {c : Char} (plain : Plain c) : (symbolValue? c).isSome :=
  of_ascii (P := fun c => Plain c → (symbolValue? c).isSome) (by decide) plain.ascii plain

/-- The character of a sextet. -/
def letter (n : Fin 64) : Char :=
  symbol n

theorem exists_letter {c : Char} {value : Nat} (found : symbolValue? c = some value) :
    ∃ n : Fin 64, n = value ∧ letter n = c := by
  have all := of_ascii (P := fun c => ∀ value ∈ symbolValue? c, value < 64 ∧ symbol value = c) (by decide)
    (symbolValue?_ascii found) value found
  exact ⟨⟨value, all.1⟩, rfl, all.2⟩

@[simp] theorem symbolValue?_letter : ∀ n, symbolValue? (letter n) = some n.val := by
  decide

@[simp] theorem letter_ne_pad : ∀ n, letter n ≠ '=' := by
  decide

theorem letter_plain : ∀ n, Plain (letter n) := by
  decide

@[simp] theorem letter_inj {m n : Fin 64} : letter m = letter n ↔ m = n := by
  refine ⟨fun same => Fin.ext ?_, fun same => by rw [same]⟩
  simpa using congrArg symbolValue? same

/-! ## Rows of sextets -/

/-- The bytes that a row of sextets carries whole. -/
def pack : List (Fin 64) → List UInt8
  | [] => []
  | [_] => []
  | [a, b] => [UInt8.ofNat ((a.val * 64 + b) / 16)]
  | [a, b, c] =>
    let n := (a.val * 64 + b) * 64 + c
    [UInt8.ofNat (n / 1024), UInt8.ofNat (n / 4)]
  | a :: b :: c :: d :: rest =>
    let n := ((a.val * 64 + b) * 64 + c) * 64 + d
    UInt8.ofNat (n / 65536) :: UInt8.ofNat (n / 256) :: UInt8.ofNat n :: pack rest

/-- Whether padding closes a row. A row of whole groups needs none, and takes any. -/
def Closes (sextets pads : Nat) : Prop :=
  sextets % 4 = 0 ∨ sextets % 4 = 2 ∧ pads = 2 ∨ sextets % 4 = 3 ∧ pads = 1

/-- A row with its padding, as it is written. -/
def write (row : List (Fin 64)) (pads : Nat) : List Char :=
  row.map letter ++ List.replicate pads '='

theorem decodeGroups?_four (a b c d : Fin 64) (rest : List Char) :
    decodeGroups? (letter a :: letter b :: letter c :: letter d :: rest) =
      (decodeGroups? rest).map (pack [a, b, c, d] ++ ·) := by
  rw [decodeGroups?]
  · simp only [symbolValue?_letter, Option.bind_eq_bind, Option.bind_some, pack]
    cases decodeGroups? rest <;> rfl
  all_goals simp

theorem decodeGroups?_three (a b c : Fin 64) :
    decodeGroups? [letter a, letter b, letter c, '='] = some (pack [a, b, c]) := by
  rw [decodeGroups?]
  · simp only [symbolValue?_letter, Option.bind_eq_bind, Option.bind_some, pack]
    rfl
  all_goals simp

private theorem decodeGroups?_two (a b : Fin 64) :
    decodeGroups? [letter a, letter b, '=', '='] = some (pack [a, b]) := by
  rw [decodeGroups?]
  · simp only [symbolValue?_letter, Option.bind_eq_bind, Option.bind_some, pack]
    rfl
  all_goals simp

private theorem decodeGroups?_pads (pads : Nat) : decodeGroups? (List.replicate pads '=') = some [] := by
  cases pads with
  | zero => rfl
  | succ pads => simp [List.replicate_succ, decodeGroups?]

theorem closes_add_four {sextets pads : Nat} : Closes (sextets + 4) pads ↔ Closes sextets pads := by
  rw [Closes, Nat.add_mod_right]
  rfl

theorem decodeGroups?_write : ∀ {row : List (Fin 64)} {pads : Nat}, Closes row.length pads →
    decodeGroups? (write row pads) = some (pack row)
  | [], pads, _ => decodeGroups?_pads pads
  | [_], _, closed => by simp [Closes] at closed
  | [a, b], pads, closed => by
    obtain rfl : pads = 2 := by simpa [Closes] using closed
    exact decodeGroups?_two a b
  | [a, b, c], pads, closed => by
    obtain rfl : pads = 1 := by simpa [Closes] using closed
    exact decodeGroups?_three a b c
  | a :: b :: c :: d :: rest, pads, closed => by
    have others : decodeGroups? (write rest pads) = some (pack rest) :=
      decodeGroups?_write (closes_add_four.mp closed)
    exact (decodeGroups?_four a b c d _).trans (congrArg (Option.map _) others)

/-- The reader takes nothing else. -/
theorem of_decodeGroups? {cs : List Char} {bytes : List UInt8} (read : decodeGroups? cs = some bytes) :
    ∃ row pads, cs = write row pads ∧ Closes row.length pads := by
  fun_induction decodeGroups? cs generalizing bytes with
  | case1 => exact ⟨[], 0, rfl, .inl rfl⟩
  | case2 rest all =>
    refine ⟨[], rest.length + 1, ?_, .inl rfl⟩
    have pads : rest = List.replicate rest.length '=' := by
      simpa [List.eq_replicate_iff] using all
    rw [write, List.replicate_succ, ← pads]
    rfl
  | case3 => cases read
  | case4 a b =>
    simp only [Option.bind_eq_bind, Option.bind_eq_some_iff] at read
    obtain ⟨x, foundA, y, foundB, -⟩ := read
    obtain ⟨x, rfl, rfl⟩ := exists_letter foundA
    obtain ⟨y, rfl, rfl⟩ := exists_letter foundB
    exact ⟨[x, y], 2, rfl, .inr (.inl ⟨rfl, rfl⟩)⟩
  | case5 a b c =>
    simp only [Option.bind_eq_bind, Option.bind_eq_some_iff] at read
    obtain ⟨x, foundA, y, foundB, z, foundC, -⟩ := read
    obtain ⟨x, rfl, rfl⟩ := exists_letter foundA
    obtain ⟨y, rfl, rfl⟩ := exists_letter foundB
    obtain ⟨z, rfl, rfl⟩ := exists_letter foundC
    exact ⟨[x, y, z], 1, rfl, .inr (.inr ⟨rfl, rfl⟩)⟩
  | case6 a b c d rest _ _ _ ih =>
    simp only [Option.bind_eq_bind, Option.bind_eq_some_iff] at read
    obtain ⟨x, foundA, y, foundB, z, foundC, w, foundD, others, left, -⟩ := read
    obtain ⟨x, rfl, rfl⟩ := exists_letter foundA
    obtain ⟨y, rfl, rfl⟩ := exists_letter foundB
    obtain ⟨z, rfl, rfl⟩ := exists_letter foundC
    obtain ⟨w, rfl, rfl⟩ := exists_letter foundD
    obtain ⟨row, pads, rfl, closed⟩ := ih left
    exact ⟨x :: y :: z :: w :: row, pads, rfl, closes_add_four.mpr closed⟩
  | case7 => cases read

/-- A text of data, closed by padding. Padding does not come first. -/
structure Spells (cs data : List Char) (pads : Nat) : Prop where
  text : cs = data ++ List.replicate pads '='
  plain : ∀ c ∈ data, Plain c
  closed : Closes data.length pads
  led : data = [] → pads = 0

private theorem exists_row {data : List Char} (plain : ∀ c ∈ data, Plain c) :
    ∃ row : List (Fin 64), row.map letter = data := by
  induction data with
  | nil => exact ⟨[], rfl⟩
  | cons c data ih =>
    obtain ⟨own, plain⟩ := List.forall_mem_cons.mp plain
    obtain ⟨row, rfl⟩ := ih plain
    obtain ⟨value, found⟩ := Option.isSome_iff_exists.mp (symbolValue?_isSome own)
    obtain ⟨n, -, rfl⟩ := exists_letter found
    exact ⟨n :: row, rfl⟩

theorem spells_write {row : List (Fin 64)} {pads : Nat} (closed : Closes row.length pads)
    (led : row = [] → pads = 0) : Spells (write row pads) (row.map letter) pads where
  text := rfl
  plain := List.forall_mem_map.mpr fun n _ => letter_plain n
  closed := by rwa [List.length_map]
  led none := led (List.map_eq_nil_iff.mp none)

theorem Spells.exists_write {cs data : List Char} {pads : Nat} (spells : Spells cs data pads) :
    ∃ row : List (Fin 64), data = row.map letter ∧ cs = write row pads ∧ Closes row.length pads ∧
      (row = [] → pads = 0) := by
  obtain ⟨row, rfl⟩ := exists_row spells.plain
  exact ⟨row, rfl, spells.text, by simpa using spells.closed, fun none => spells.led (by rw [none]; rfl)⟩

theorem decode?_write {row : List (Fin 64)} {pads : Nat} (closed : Closes row.length pads)
    (led : row = [] → pads = 0) : decode? (write row pads) = some (pack row) := by
  have leading : (write row pads).head? ≠ some '=' := by
    cases row with
    | nil =>
      cases led rfl
      exact nofun
    | cons n row => exact fun starts => letter_ne_pad n (Option.some.inj starts)
  rw [decode?, if_neg leading, decodeGroups?_write closed]

theorem Spells.decode? {cs data : List Char} {pads : Nat} (spells : Spells cs data pads) :
    ∃ bytes, decode? cs = some bytes := by
  obtain ⟨row, rfl, rfl, closed, led⟩ := spells.exists_write
  exact ⟨_, decode?_write closed led⟩

theorem of_decode? {cs : List Char} {bytes : List UInt8} (read : decode? cs = some bytes) :
    ∃ data pads, Spells cs data pads := by
  obtain ⟨leading, read⟩ := Option.ite_none_left_eq_some.mp read
  obtain ⟨row, pads, rfl, closed⟩ := of_decodeGroups? read
  refine ⟨_, _, spells_write closed ?_⟩
  rintro rfl
  cases pads with
  | zero => rfl
  | succ pads => exact absurd rfl leading

/-! ## Writing -/

/-- What is written of bytes is a row that packs to them. -/
private theorem encode_eq_write (bytes : List UInt8) :
    ∃ row pads, encode bytes = write row pads ∧ Closes row.length pads ∧ (row = [] → pads = 0) ∧ pack row = bytes := by
  fun_induction encode bytes with
  | case1 => exact ⟨[], 0, rfl, .inl rfl, fun _ => rfl, rfl⟩
  | case2 a n =>
    have rangeA := a.toNat_lt
    refine ⟨[⟨n / 64, by omega⟩, ⟨n % 64, by omega⟩], 2, rfl, .inr (.inl ⟨rfl, rfl⟩), nofun, ?_⟩
    have first : UInt8.ofNat ((n / 64 * 64 + n % 64) / 16) = a :=
      (UInt8.ofNat_eq_iff_mod_eq_toNat _ _).mpr (by omega)
    rw [pack, first]
  | case3 a b n =>
    have rangeA := a.toNat_lt
    have rangeB := b.toNat_lt
    refine ⟨[⟨n / 4096, by omega⟩, ⟨n / 64 % 64, by omega⟩, ⟨n % 64, by omega⟩], 1, rfl, .inr (.inr ⟨rfl, rfl⟩),
      nofun, ?_⟩
    have whole : (n / 4096 * 64 + n / 64 % 64) * 64 + n % 64 = n := by omega
    have first : UInt8.ofNat (n / 1024) = a := (UInt8.ofNat_eq_iff_mod_eq_toNat _ _).mpr (by omega)
    have second : UInt8.ofNat (n / 4) = b := (UInt8.ofNat_eq_iff_mod_eq_toNat _ _).mpr (by omega)
    rw [pack, whole, first, second]
  | case4 a b c rest n ih =>
    have rangeA := a.toNat_lt
    have rangeB := b.toNat_lt
    have rangeC := c.toNat_lt
    obtain ⟨row, pads, written, closed, led, rfl⟩ := ih
    refine ⟨⟨n / 262144, by omega⟩ :: ⟨n / 4096 % 64, by omega⟩ :: ⟨n / 64 % 64, by omega⟩ :: ⟨n % 64, by omega⟩ :: row,
      pads, congrArg (_ :: _ :: _ :: _ :: ·) written, closes_add_four.mpr closed, nofun, ?_⟩
    have whole : ((n / 262144 * 64 + n / 4096 % 64) * 64 + n / 64 % 64) * 64 + n % 64 = n := by omega
    have first : UInt8.ofNat (n / 65536) = a := (UInt8.ofNat_eq_iff_mod_eq_toNat _ _).mpr (by omega)
    have second : UInt8.ofNat (n / 256) = b := (UInt8.ofNat_eq_iff_mod_eq_toNat _ _).mpr (by omega)
    have third : UInt8.ofNat n = c := (UInt8.ofNat_eq_iff_mod_eq_toNat _ _).mpr (by omega)
    rw [pack, whole, first, second, third]

theorem decode?_encode (bytes : List UInt8) : decode? (encode bytes) = some bytes := by
  obtain ⟨row, pads, written, closed, led, rfl⟩ := encode_eq_write bytes
  rw [written, decode?_write closed led]

/-! ## What bytes tell of a row -/

/-- The bits of the last sextet of a row that reach into no byte. -/
def unusedBits (sextets : Nat) : Nat :=
  if sextets % 4 = 2 then 4 else if sextets % 4 = 3 then 2 else 0

/-- Data of the same characters, but that the last ones may differ in bits that are not used. -/
@[mk_iff]
structure Alike (data others : List Char) : Prop where
  front : others.dropLast = data.dropLast
  last : (others.getLast?.bind symbolValue?).map (· / 2 ^ unusedBits others.length) =
    (data.getLast?.bind symbolValue?).map (· / 2 ^ unusedBits data.length)

private theorem unusedBits_add_four (sextets : Nat) : unusedBits (sextets + 4) = unusedBits sextets := by
  rw [unusedBits, Nat.add_mod_right]
  rfl

theorem ofNat_eq_ofNat_iff {m n : Nat} : UInt8.ofNat m = UInt8.ofNat n ↔ m % 256 = n % 256 := by
  rw [UInt8.ofNat_eq_iff_mod_eq_toNat, UInt8.toNat_ofNat']

section
variable {a b c d x y z w : Fin 64}

private theorem alike_four {data others : List Char} (same : others.length = data.length) :
    Alike (letter a :: letter b :: letter c :: letter d :: data)
        (letter x :: letter y :: letter z :: letter w :: others) ↔
      (a = x ∧ b = y ∧ c = z ∧ d = w) ∧ Alike data others := by
  cases data with
  | nil =>
    cases List.length_eq_zero_iff.mp same
    have own : Alike [letter a, letter b, letter c, letter d] [letter x, letter y, letter z, letter w] ↔
        (x = a ∧ y = b ∧ z = c) ∧ w = d := by
      simp [alike_iff, unusedBits, Fin.ext_iff]
    have nothing : Alike [] [] := ⟨rfl, rfl⟩
    rw [own, and_iff_left nothing]
    omega
  | cons e data =>
    cases others with
    | nil => cases same
    | cons v others =>
    simp only [alike_iff, List.dropLast_cons_cons, List.getLast?_cons_cons, List.cons.injEq, List.length_cons,
      letter_inj, unusedBits_add_four, and_assoc, eq_comm]

private theorem pack_four {row others : List (Fin 64)} :
    pack (a :: b :: c :: d :: row) = pack (x :: y :: z :: w :: others) ↔
      (a = x ∧ b = y ∧ c = z ∧ d = w) ∧ pack row = pack others := by
  simp only [pack, List.cons.injEq, ofNat_eq_ofNat_iff, Fin.ext_iff, ← and_assoc]
  refine and_congr_left fun _ => ?_
  omega

end

theorem pack_eq_pack_iff : ∀ {row others : List (Fin 64)}, others.length = row.length → row.length % 4 ≠ 1 →
    (pack row = pack others ↔ Alike (row.map letter) (others.map letter))
  | [], [], _, _ => ⟨fun _ => ⟨rfl, rfl⟩, fun _ => rfl⟩
  | [_], _, _, closed => absurd rfl closed
  | [a, b], [x, y], _, _ => by
    have alike : Alike ([a, b].map letter) ([x, y].map letter) ↔ x = a ∧ y.val / 16 = b.val / 16 := by
      simp [alike_iff, unusedBits]
    simp only [alike, pack, List.cons.injEq, ofNat_eq_ofNat_iff, Fin.ext_iff, and_true]
    omega
  | [a, b, c], [x, y, z], _, _ => by
    have alike : Alike ([a, b, c].map letter) ([x, y, z].map letter) ↔
        (x = a ∧ y = b) ∧ z.val / 4 = c.val / 4 := by
      simp [alike_iff, unusedBits]
    simp only [alike, pack, List.cons.injEq, ofNat_eq_ofNat_iff, Fin.ext_iff, and_true]
    omega
  | a :: b :: c :: d :: row, x :: y :: z :: w :: others, same, closed => by
    have length : others.length = row.length := by simpa using same
    have closes : row.length % 4 ≠ 1 := by simpa only [List.length_cons, Nat.add_mod_right, Nat.add_assoc] using closed
    rw [pack_four, pack_eq_pack_iff length closes]
    exact (alike_four (by simpa using length)).symm

private theorem pack_length (row : List (Fin 64)) : (pack row).length = row.length * 3 / 4 := by
  fun_induction pack row with
  | case5 a b c d row n ih =>
    simp only [List.length_cons, ih]
    omega
  | _ => simp

theorem Alike.length {row others : List (Fin 64)} (alike : Alike (row.map letter) (others.map letter)) :
    others.length = row.length := by
  have letters (row : List (Fin 64)) : ((row.map letter).getLast?.bind symbolValue?) = row.getLast?.map Fin.val := by
    cases last : row.getLast? <;> simp [last]
  have front : others.length - 1 = row.length - 1 := by simpa using congrArg List.length alike.front
  have last : others = [] ↔ row = [] := by
    have nones := congrArg (·.isNone = true) alike.last
    rw [letters, letters] at nones
    simpa using nones
  cases row with
  | nil => rw [last.mpr rfl]
  | cons =>
    have filled := List.length_pos_iff.mpr (mt last.mp nofun)
    simp only [List.length_cons] at front ⊢
    omega

/-- Two texts give the same bytes just when their data are alike. Padding tells nothing. -/
theorem decode?_eq_decode?_iff {cs ds data others : List Char} {pads marks : Nat} (spells : Spells cs data pads)
    (respells : Spells ds others marks) : decode? cs = decode? ds ↔ Alike data others := by
  obtain ⟨row, rfl, rfl, closed, led⟩ := spells.exists_write
  obtain ⟨rerow, rfl, rfl, reclosed, reled⟩ := respells.exists_write
  rw [decode?_write closed led, decode?_write reclosed reled, Option.some.injEq]
  have whole : row.length % 4 ≠ 1 := by
    unfold Closes at closed
    omega
  constructor
  · intro same
    have length : rerow.length = row.length := by
      have lengths := congrArg List.length same
      rw [pack_length, pack_length] at lengths
      unfold Closes at closed reclosed
      omega
    exact (pack_eq_pack_iff length whole).mp same
  · exact fun alike => (pack_eq_pack_iff alike.length whole).mpr alike

end Text.Base64

namespace ConsumedRecord
open Text.Base64

private theorem decodePayload_of_some {r : ConsumedRecord} {bytes : List UInt8}
    (read : decode? r.payload.toList = some bytes) :
    r.decodePayload = .ok bytes := by
  obtain ⟨data, pads, spells⟩ := of_decode? read
  have ascii : r.payload.toList.any (fun c => 0x80 ≤ c.toNat) = false := by
    refine List.any_eq_false.mpr fun c member => ?_
    rw [spells.text, List.mem_append] at member
    cases member with
    | inl member => simpa using (spells.plain c member).ascii
    | inr member => simp [List.eq_of_mem_replicate member]
  simp only [decodePayload, ascii, read, Bool.false_eq_true, if_false]

theorem decodePayload_of_none {r : ConsumedRecord} (unread : decode? r.payload.toList = none) :
    ∃ message, r.decodePayload = .error (.badValue (some message)) := by
  simp only [decodePayload, unread]
  split
  · exact ⟨_, rfl⟩
  · exact ⟨_, rfl⟩

theorem decodePayload_eq_ok_iff {r : ConsumedRecord} {bytes : List UInt8} :
    r.decodePayload = .ok bytes ↔ decode? r.payload.toList = some bytes := by
  refine ⟨fun read => ?_, decodePayload_of_some⟩
  cases found : decode? r.payload.toList with
  | some own => rw [← Except.ok.inj ((decodePayload_of_some found).symm.trans read)]
  | none =>
    obtain ⟨message, refused⟩ := decodePayload_of_none found
    cases refused.symm.trans read

/-- What is written of bytes reads back. The texts that read are data of the alphabet, closed as their length asks
for, of which whole groups may be followed by any padding; all others are refused. And the bytes of a text tell its
data, but for the bits of the last character that are not used, and not its padding. -/
theorem decodePayload_reads_data (r other : ConsumedRecord) :
    (∀ bytes, r.payload = String.ofList (encode bytes) → r.decodePayload = .ok bytes) ∧
    ((∃ bytes, r.decodePayload = .ok bytes) ↔ ∃ data pads, Spells r.payload.toList data pads) ∧
    ((∃ bytes, r.decodePayload = .ok bytes) ∨ ∃ message, r.decodePayload = .error (.badValue (some message))) ∧
    ∀ data pads others marks, Spells r.payload.toList data pads → Spells other.payload.toList others marks →
      (r.decodePayload = other.decodePayload ↔ Alike data others) := by
  refine ⟨?_, ⟨?_, ?_⟩, ?_, ?_⟩
  · intro bytes written
    rw [decodePayload_eq_ok_iff, written, String.toList_ofList, decode?_encode]
  · rintro ⟨bytes, read⟩
    exact of_decode? (decodePayload_eq_ok_iff.mp read)
  · rintro ⟨data, pads, spells⟩
    obtain ⟨bytes, read⟩ := spells.decode?
    exact ⟨bytes, decodePayload_eq_ok_iff.mpr read⟩
  · cases read : decode? r.payload.toList with
    | some bytes => exact .inl ⟨bytes, decodePayload_eq_ok_iff.mpr read⟩
    | none => exact .inr (decodePayload_of_none read)
  · intro data pads others marks spells respells
    obtain ⟨bytes, read⟩ := spells.decode?
    obtain ⟨rebytes, reread⟩ := respells.decode?
    rw [← decode?_eq_decode?_iff spells respells, read, reread, decodePayload_eq_ok_iff.mpr read,
      decodePayload_eq_ok_iff.mpr reread, Except.ok.injEq, Option.some.injEq]

/-- A record that carries a payload. -/
def carrying (payload : String) : ConsumedRecord :=
  ⟨"t", none, [], payload, 0, 1⟩

/-- The lowest bits of the last character tell nothing. -/
theorem decodePayload_unused_bits : (carrying "aGk=").decodePayload = (carrying "aGl=").decodePayload :=
  ((decodePayload_reads_data (carrying "aGk=") (carrying "aGl=")).2.2.2 ['a', 'G', 'k'] 1 ['a', 'G', 'l'] 1
    ⟨rfl, by simp [Plain], .inr (.inr ⟨rfl, rfl⟩), nofun⟩ ⟨rfl, by simp [Plain], .inr (.inr ⟨rfl, rfl⟩), nofun⟩).mpr
    ⟨rfl, by decide⟩

/-- A padding mark too many, which leaves no whole groups of four, is read over. -/
theorem decodePayload_excess_padding :
    ¬ ∀ r : ConsumedRecord, (∃ bytes, r.decodePayload = .ok bytes) ↔
      ∃ data pads, r.payload.toList = data ++ List.replicate pads '=' ∧ (∀ c ∈ data, Plain c) ∧ pads ≤ 2 ∧
        r.payload.toList.length % 4 = 0 := by
  intro strict
  have read : (carrying "abcd=").decodePayload = .ok [0x69, 0xb7, 0x1d] := by rfl
  obtain ⟨_, _, _, _, _, fours⟩ := (strict (carrying "abcd=")).mp ⟨_, read⟩
  cases fours

end ConsumedRecord
end ConsumerChannel
