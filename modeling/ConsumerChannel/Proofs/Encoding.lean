import ConsumerChannel.Proofs.NumericFields

/-! How values are encoded in log lines. The encoder has a form for some values, and asks a fallback for what stands for
any other one, which may hold more of these. The two come to an end together on every value that a line can hold. What
they write is read back as the value with arrays for rows, objects for dictionaries, and texts for what has no form. -/
namespace ConsumerChannel

theorem Json.Style.line_standard : Json.Style.line.Standard :=
  ⟨⟨[' '], rfl, List.forall_mem_singleton.mpr rfl⟩, ⟨[' '], rfl, List.forall_mem_singleton.mpr rfl⟩⟩

namespace Text

/-! ## Text of bytes -/

section
variable {n acc low high count : Nat} {rest : List UInt8}

theorem leadByte?_one : ∀ n < 128, leadByte? (UInt8.ofNat n) = some (0, n, 0x80, 0xBF) := by decide

theorem leadByte?_two : ∀ n, 2 ≤ n → n < 32 → leadByte? (UInt8.ofNat (n + 192)) = some (1, n, 0x80, 0xBF) := by
  decide

/-- The bounds on the byte after the first one of three keep overlong forms and surrogates out. -/
private theorem leadByte?_three : ∀ n < 16, leadByte? (UInt8.ofNat (n + 224)) =
    some (2, n, if n = 0 then 0xA0 else 0x80, if n = 13 then 0x9F else 0xBF) := by decide

/-- The bounds on the byte after the first one of four keep overlong forms and what is beyond all characters out. -/
private theorem leadByte?_four : ∀ n < 5, leadByte? (UInt8.ofNat (n + 240)) =
    some (3, n, if n = 0 then 0x90 else 0x80, if n = 4 then 0x8F else 0xBF) := by decide

/-- A continuation byte adds six bits. -/
private theorem continueChar_ofNat (least : low ≤ n % 64 + 128) (most : n % 64 + 128 ≤ high) :
    continueChar (count + 1) acc low high (UInt8.ofNat (n % 64 + 128) :: rest) =
      continueChar count (acc * 64 + n % 64) 0x80 0xBF rest := by
  have byte : (UInt8.ofNat (n % 64 + 128)).toNat = n % 64 + 128 := UInt8.toNat_ofNat_of_lt' (by
    show _ < 256
    omega)
  have within : isContinuation low high (UInt8.ofNat (n % 64 + 128)) = true := by
    simp only [isContinuation, byte, Bool.and_eq_true, decide_eq_true_eq]
    exact ⟨least, most⟩
  rw [continueChar, if_pos within, byte, Nat.add_sub_cancel]

/-- The bytes of a character are read as that character. -/
private theorem nextChar_utf8EncodeChar (c : Char) (rest : List UInt8) :
    ∃ b more, String.utf8EncodeChar c ++ rest = b :: more ∧ nextChar b more = (some c, rest) := by
  have proper : c.val.toNat < 0xD800 ∨ 0xDFFF < c.val.toNat ∧ c.val.toNat < 0x110000 := c.valid
  have whole : continueChar 0 c.val.toNat 0x80 0xBF rest = (some c, rest) := by
    rw [continueChar]
    exact congrArg (fun c => (some c, rest)) (Char.ofNat_toNat c)
  unfold String.utf8EncodeChar
  generalize c.val.toNat = v at proper whole
  dsimp only
  split
  · next one =>
    refine ⟨_, _, rfl, ?_⟩
    rw [nextChar, leadByte?_one v (by omega)]
    exact whole
  split
  · next one two =>
    have value : v / 64 * 64 + v % 64 = v := by omega
    refine ⟨_, _, rfl, ?_⟩
    rw [nextChar, Nat.mod_eq_of_lt (by omega), leadByte?_two (v / 64) (by omega) (by omega)]
    simp only [List.append_eq, List.cons_append, List.nil_append]
    rwa [continueChar_ofNat (by omega) (by omega), value]
  split
  · next one two three =>
    have value : (v / 4096 * 64 + v / 64 % 64) * 64 + v % 64 = v := by omega
    refine ⟨_, _, rfl, ?_⟩
    rw [nextChar, Nat.mod_eq_of_lt (by omega : v / 4096 < 16), leadByte?_three (v / 4096) (by omega)]
    simp only [List.append_eq, List.cons_append, List.nil_append]
    rwa [continueChar_ofNat (by split <;> omega) (by split <;> omega), continueChar_ofNat (by omega) (by omega), value]
  · next one two three =>
    have value : ((v / 262144 * 64 + v / 4096 % 64) * 64 + v / 64 % 64) * 64 + v % 64 = v := by omega
    refine ⟨_, _, rfl, ?_⟩
    rw [nextChar, Nat.mod_eq_of_lt (by omega : v / 262144 < 8), leadByte?_four (v / 262144) (by omega)]
    simp only [List.append_eq, List.cons_append, List.nil_append]
    rwa [continueChar_ofNat (by split <;> omega) (by split <;> omega), continueChar_ofNat (by omega) (by omega),
      continueChar_ofNat (by omega) (by omega), value]

private theorem decodeParts_flatMap (cs : List Char) :
    decodeParts (cs.flatMap String.utf8EncodeChar) = cs.map some := by
  induction cs with
  | nil => rw [List.flatMap_nil, decodeParts, List.map_nil]
  | cons c cs ih =>
    obtain ⟨b, more, bytes, read⟩ := nextChar_utf8EncodeChar c (cs.flatMap String.utf8EncodeChar)
    rw [List.flatMap_cons, bytes, decodeParts, read, ih, List.map_cons]

private theorem toList_loop (bytes : ByteArray) (i : Nat) (found : List UInt8) :
    ByteArray.toList.loop bytes i found = found.reverse ++ bytes.data.toList.drop i := by
  fun_induction ByteArray.toList.loop bytes i found with
  | case1 i found more ih =>
    have front : bytes.data.toList.drop i = bytes.get! i :: bytes.data.toList.drop (i + 1) := by
      have within : i < bytes.data.toList.length := more
      have byte : bytes.get! i = bytes.data.toList[i] := getElem!_pos bytes.data i more
      rw [List.drop_eq_getElem_cons within, byte]
    rw [ih, front, List.reverse_cons, List.append_assoc, List.singleton_append]
  | case2 i found past =>
    rw [List.drop_eq_nil_of_le (Nat.not_lt.mp past), List.append_nil]

private theorem encode_eq (s : String) : encode s = s.toList.flatMap String.utf8EncodeChar := by
  rw [encode, ByteArray.toList, toList_loop, String.toUTF8, ← String.utf8Encode_toList, List.utf8Encode]
  simp

/-- The bytes of a text are read as this text, with no mark for anything ill-formed. -/
theorem decodeLenient_encode (s : String) : decodeLenient (encode s) = s := by
  rw [decodeLenient, encode_eq, decodeParts_flatMap, List.map_map]
  exact (congrArg String.ofList (List.map_id _)).trans String.ofList_toList

end

end Text

namespace Value

/-! ## The encoder and its fallback -/

section
variable {v w : Value} {d : Json}

/-- Whether JSON has a form for a value, be it one that holds other values. -/
def native : Value → Bool
  | null => true
  | bool _ => true
  | int _ => true
  | float _ => true
  | text _ => true
  | list _ => true
  | tuple _ => true
  | dict _ => true
  | _ => false

mutual
/-- How a value is encoded: one that JSON has a form for in this form, and any other one as what stands for it. -/
inductive Encodes : Value → Json → Prop where
  | null : Encodes .null .null
  | bool {b : Bool} : Encodes (.bool b) (.bool b)
  | int {n : Int} (short : Binary64.digitCount n.natAbs ≤ Numeral.digitLimit) : Encodes (.int n) (.int n)
  | float {x : Binary64} : Encodes (.float x) (.float x)
  | text {s : String} : Encodes (.text s) (.text s)
  | list {items : List Value} {documents : List Json} (each : EncodesItems items documents) :
    Encodes (.list items) (.array documents)
  | tuple {items : List Value} {documents : List Json} (each : EncodesItems items documents) :
    Encodes (.tuple items) (.array documents)
  | dict {entries : List (Value × Value)} {fields : List (String × Json)} (each : EncodesEntries entries fields) :
    Encodes (.dict entries) (.object fields)
  | foreign {v w : Value} {d : Json} (formless : v.native = false) (stands : v.simplified = .ok w)
    (encodes : Encodes w d) : Encodes v d
/-- How the values of a row are encoded. -/
inductive EncodesItems : List Value → List Json → Prop where
  | nil : EncodesItems [] []
  | cons {v : Value} {d : Json} {items : List Value} {documents : List Json} (first : Encodes v d)
    (onward : EncodesItems items documents) : EncodesItems (v :: items) (d :: documents)
/-- How the entries of a dictionary are encoded. -/
inductive EncodesEntries : List (Value × Value) → List (String × Json) → Prop where
  | nil : EncodesEntries [] []
  | cons {k v : Value} {name : String} {d : Json} {entries : List (Value × Value)} {fields : List (String × Json)}
    (named : k.lineKey = .ok name) (first : Encodes v d) (onward : EncodesEntries entries fields) :
    EncodesEntries ((k, v) :: entries) ((name, d) :: fields)
end

theorem toLine_foreign (formless : v.native = false) : v.toLine = v.simplified >>= toLine := by
  cases v with
  | decimal x =>
    rw [toLine, simplified]
    split <;> rfl
  | bytes | byteArray | date | dateTime | path | set | frozenSet | category | failure => rfl
  | _ => cases formless

theorem lineInt_eq_ok {n : Int} :
    lineInt n = .ok d ↔ Binary64.digitCount n.natAbs ≤ Numeral.digitLimit ∧ d = .int n := by
  unfold lineInt
  split
  · next long => exact iff_of_false nofun fun both => absurd both.1 (Nat.not_le.mpr long)
  · next short => simp [Nat.not_lt.mp short, eq_comm]

/-- A value that the fallback gives a text for is encoded as this text. -/
theorem Encodes.leaf {s : String} (formless : v.native = false) (stands : v.simplified = .ok (.text s)) :
    Encodes v (.text s) := .foreign formless stands .text

mutual
theorem encodes_of_toLine : (v : Value) → {d : Json} → v.toLine = .ok d → Encodes v d
  | .null, _, line => by
    cases line
    exact .null
  | .bool _, _, line => by
    cases line
    exact .bool
  | .int _, _, line => by
    obtain ⟨short, rfl⟩ := lineInt_eq_ok.mp line
    exact .int short
  | .float _, _, line => by
    cases line
    exact .float
  | .text _, _, line => by
    cases line
    exact .text
  | .list items, _, line => by
    obtain ⟨documents, each, rfl⟩ := map_eq_ok_iff.mp line
    exact .list (encodesItems_of_lineItems items each)
  | .tuple items, _, line => by
    obtain ⟨documents, each, rfl⟩ := map_eq_ok_iff.mp line
    exact .tuple (encodesItems_of_lineItems items each)
  | .set items, _, line | .frozenSet items, _, line => by
    obtain ⟨documents, each, rfl⟩ := map_eq_ok_iff.mp line
    exact .foreign rfl rfl (.list (encodesItems_of_lineItems items each))
  | .dict entries, _, line => by
    obtain ⟨fields, each, rfl⟩ := map_eq_ok_iff.mp line
    exact .dict (encodesEntries_of_lineFields entries each)
  | .decimal x, _, line => by
    cases nearest : x.toBinary64? with
    | none => simp [toLine, nearest] at line
    | some y =>
      simp only [toLine, nearest, Except.ok.injEq] at line
      rw [← line]
      exact .foreign rfl (by rw [simplified, nearest]) .float
  | .bytes _, _, line | .byteArray _, _, line | .date _, _, line | .dateTime _, _, line | .path _, _, line
  | .category _, _, line | .failure _, _, line => by
    cases line
    exact .leaf rfl rfl
theorem encodesItems_of_lineItems : (items : List Value) → {documents : List Json} →
    lineItems items = .ok documents → EncodesItems items documents
  | [], _, line => by
    cases line
    exact .nil
  | v :: items, _, line => by
    obtain ⟨d, first, onward⟩ := bind_eq_ok_iff.mp line
    obtain ⟨documents, each, ⟨⟩⟩ := bind_eq_ok_iff.mp onward
    exact .cons (encodes_of_toLine v first) (encodesItems_of_lineItems items each)
theorem encodesEntries_of_lineFields : (entries : List (Value × Value)) → {fields : List (String × Json)} →
    lineFields entries = .ok fields → EncodesEntries entries fields
  | [], _, line => by
    cases line
    exact .nil
  | (k, v) :: entries, _, line => by
    obtain ⟨name, named, rest⟩ := bind_eq_ok_iff.mp line
    obtain ⟨d, first, onward⟩ := bind_eq_ok_iff.mp rest
    obtain ⟨fields, each, ⟨⟩⟩ := bind_eq_ok_iff.mp onward
    exact .cons named (encodes_of_toLine v first) (encodesEntries_of_lineFields entries each)
end

mutual
theorem Encodes.toLine {v : Value} {d : Json} : Encodes v d → v.toLine = .ok d
  | .null | .bool | .float | .text => rfl
  | .int short => lineInt_eq_ok.mpr ⟨short, rfl⟩
  | .list each | .tuple each => map_eq_ok_iff.mpr ⟨_, each.lineItems, rfl⟩
  | .dict each => map_eq_ok_iff.mpr ⟨_, each.lineFields, rfl⟩
  | .foreign formless stands encodes => by
    rw [toLine_foreign formless, stands]
    exact encodes.toLine
theorem EncodesItems.lineItems {items : List Value} {documents : List Json} :
    EncodesItems items documents → lineItems items = .ok documents
  | .nil => rfl
  | .cons first onward => bind_eq_ok_iff.mpr ⟨_, first.toLine, bind_eq_ok_iff.mpr ⟨_, onward.lineItems, rfl⟩⟩
theorem EncodesEntries.lineFields {entries : List (Value × Value)} {fields : List (String × Json)} :
    EncodesEntries entries fields → lineFields entries = .ok fields
  | .nil => rfl
  | .cons named first onward => bind_eq_ok_iff.mpr ⟨_, named, bind_eq_ok_iff.mpr
      ⟨_, first.toLine, bind_eq_ok_iff.mpr ⟨_, onward.lineFields, rfl⟩⟩⟩
end

/-- A value stands in a line as what the encoder and its fallback make of it together. -/
theorem toLine_eq_ok_iff : v.toLine = .ok d ↔ Encodes v d := ⟨encodes_of_toLine v, Encodes.toLine⟩

end

/-! ## What a line can hold -/

/-- A value that a line can hold, nested as deep as may be: every whole number has a length within the limit, every set
has one member, and every key is a text. -/
inductive Loggable : Value → Prop where
  | null : Loggable .null
  | bool {b : Bool} : Loggable (.bool b)
  | int {n : Int} (short : Binary64.digitCount n.natAbs ≤ Numeral.digitLimit) : Loggable (.int n)
  | text {s : String} : Loggable (.text s)
  | category {c : Category} : Loggable (.category c)
  | bytes {b : List UInt8} : Loggable (.bytes b)
  | byteArray {b : List UInt8} : Loggable (.byteArray b)
  | path {p : String} : Loggable (.path p)
  | date {d : Date} : Loggable (.date d)
  | dateTime {t : DateTime} : Loggable (.dateTime t)
  | list {items : List Value} (each : ∀ v ∈ items, Loggable v) : Loggable (.list items)
  | tuple {items : List Value} (each : ∀ v ∈ items, Loggable v) : Loggable (.tuple items)
  | set {v : Value} (member : Loggable v) : Loggable (.set [v])
  | frozenSet {v : Value} (member : Loggable v) : Loggable (.frozenSet [v])
  | dict {fields : List (String × Value)} (distinct : (fields.map Prod.fst).Nodup)
    (each : ∀ field ∈ fields, Loggable field.2) :
    Loggable (.dict (fields.map fun field => (.text field.1, field.2)))

mutual
/-- A value turned into a document: rows and sets are arrays of what their members are turned into, dictionaries are
objects with the same keys, and what JSON has no form for is the text that the fallback gives for it. -/
inductive Turned : Value → Json → Prop where
  | null : Turned .null .null
  | bool {b : Bool} : Turned (.bool b) (.bool b)
  | int {n : Int} : Turned (.int n) (.int n)
  | text {s : String} : Turned (.text s) (.text s)
  | list {items : List Value} {documents : List Json} (each : TurnedItems items documents) :
    Turned (.list items) (.array documents)
  | tuple {items : List Value} {documents : List Json} (each : TurnedItems items documents) :
    Turned (.tuple items) (.array documents)
  | set {items : List Value} {documents : List Json} (each : TurnedItems items documents) :
    Turned (.set items) (.array documents)
  | frozenSet {items : List Value} {documents : List Json} (each : TurnedItems items documents) :
    Turned (.frozenSet items) (.array documents)
  | dict {fields : List (String × Value)} {documents : List (String × Json)} (each : TurnedFields fields documents) :
    Turned (.dict (fields.map fun field => (.text field.1, field.2))) (.object documents)
  | leaf {v : Value} {s : String} (formless : v.native = false) (stands : v.simplified = .ok (.text s)) :
    Turned v (.text s)
/-- The members of a row turned into documents, in their order. -/
inductive TurnedItems : List Value → List Json → Prop where
  | nil : TurnedItems [] []
  | cons {v : Value} {d : Json} {items : List Value} {documents : List Json} (first : Turned v d)
    (onward : TurnedItems items documents) : TurnedItems (v :: items) (d :: documents)
/-- The fields of a dictionary turned into documents, in their order and under the same names. -/
inductive TurnedFields : List (String × Value) → List (String × Json) → Prop where
  | nil : TurnedFields [] []
  | cons {name : String} {v : Value} {d : Json} {fields : List (String × Value)} {documents : List (String × Json)}
    (first : Turned v d) (onward : TurnedFields fields documents) :
    TurnedFields ((name, v) :: fields) ((name, d) :: documents)
end

/-- A document that a value is encoded as and turned into. It has no floating-point numbers and no repeated names. -/
structure Written (v : Value) (d : Json) : Prop where
  encodes : Encodes v d
  turned : Turned v d
  free : d.floatFree = true
  fits (level : Nat) : Json.Fits .none level d

section
variable {v : Value} {d : Json} {s : String}
variable {items : List Value} {documents : List Json} {fields : List (String × Value)}

theorem Written.leaf (formless : v.native = false) (stands : v.simplified = .ok (.text s)) : Written v (.text s) :=
  ⟨.leaf formless stands, .leaf formless stands, rfl, fun _ => trivial⟩

/-- The documents of the members of a row. -/
structure WrittenItems (items : List Value) (documents : List Json) : Prop where
  encodes : EncodesItems items documents
  turned : TurnedItems items documents
  free : ∀ d ∈ documents, d.floatFree = true
  fits (level : Nat) : ∀ d ∈ documents, Json.Fits .none level d

/-- Whatever is encoded as a row and turned into it is written as it. -/
theorem WrittenItems.array (row : WrittenItems items documents) (encodes : Encodes v (.array documents))
    (turned : Turned v (.array documents)) : Written v (.array documents) :=
  ⟨encodes, turned, Json.itemsFloatFree_iff.mpr row.free,
    fun level => ⟨fun _ => rfl, Json.fitItems_iff.mpr (row.fits (level + 1))⟩⟩

private theorem exists_writtenItems (each : ∀ v ∈ items, ∃ d, Written v d) :
    ∃ documents, WrittenItems items documents := by
  induction items with
  | nil => exact ⟨[], .nil, .nil, List.forall_mem_nil _, fun _ => List.forall_mem_nil _⟩
  | cons v items ih =>
    obtain ⟨⟨d, written⟩, others⟩ := List.forall_mem_cons.mp each
    obtain ⟨documents, row⟩ := ih others
    exact ⟨d :: documents, .cons written.encodes row.encodes, .cons written.turned row.turned,
      List.forall_mem_cons.mpr ⟨written.free, row.free⟩,
      fun level => List.forall_mem_cons.mpr ⟨written.fits level, row.fits level⟩⟩

private theorem exists_writtenFields (each : ∀ field ∈ fields, ∃ d, Written field.2 d) : ∃ documents,
    EncodesEntries (fields.map fun field => (.text field.1, field.2)) documents ∧ TurnedFields fields documents ∧
    documents.map Prod.fst = fields.map Prod.fst ∧ (∀ field ∈ documents, field.2.floatFree = true) ∧
    ∀ level, ∀ field ∈ documents, Json.Fits .none level field.2 := by
  induction fields with
  | nil => exact ⟨[], .nil, .nil, rfl, List.forall_mem_nil _, fun _ => List.forall_mem_nil _⟩
  | cons field fields ih =>
    obtain ⟨name, v⟩ := field
    obtain ⟨⟨d, written⟩, others⟩ := List.forall_mem_cons.mp each
    obtain ⟨documents, encodes, turned, same, free, fits⟩ := ih others
    exact ⟨(name, d) :: documents, .cons rfl written.encodes encodes, .cons written.turned turned,
      congrArg (name :: ·) same, List.forall_mem_cons.mpr ⟨written.free, free⟩,
      fun level => List.forall_mem_cons.mpr ⟨written.fits level, fits level⟩⟩

/-- Every value that a line can hold is written, however the encoder and its fallback take turns in it. -/
theorem Loggable.exists_written (loggable : Loggable v) : ∃ d, Written v d := by
  induction loggable with
  | null => exact ⟨_, .null, .null, rfl, fun _ => trivial⟩
  | bool => exact ⟨_, .bool, .bool, rfl, fun _ => trivial⟩
  | int short => exact ⟨_, .int short, .int, rfl, fun _ => rfl⟩
  | text => exact ⟨_, .text, .text, rfl, fun _ => trivial⟩
  | category | bytes | byteArray | path | date | dateTime => exact ⟨_, .leaf rfl rfl⟩
  | list _ ih =>
    obtain ⟨_, row⟩ := exists_writtenItems ih
    exact ⟨_, row.array (.list row.encodes) (.list row.turned)⟩
  | tuple _ ih =>
    obtain ⟨_, row⟩ := exists_writtenItems ih
    exact ⟨_, row.array (.tuple row.encodes) (.tuple row.turned)⟩
  | set _ ih =>
    obtain ⟨_, row⟩ := exists_writtenItems (List.forall_mem_singleton.mpr ih)
    exact ⟨_, row.array (.foreign rfl rfl (.list row.encodes)) (.set row.turned)⟩
  | frozenSet _ ih =>
    obtain ⟨_, row⟩ := exists_writtenItems (List.forall_mem_singleton.mpr ih)
    exact ⟨_, row.array (.foreign rfl rfl (.list row.encodes)) (.frozenSet row.turned)⟩
  | dict distinct _ ih =>
    obtain ⟨documents, encodes, turned, same, free, fits⟩ := exists_writtenFields ih
    exact ⟨_, .dict encodes, .dict turned, Json.fieldsFloatFree_iff.mpr free,
      fun level => ⟨fun _ => rfl, same ▸ distinct, Json.fitFields_iff.mpr (fits (level + 1))⟩⟩

theorem Written.parse_render (written : Written v d) : Json.parse? .none (Json.render .line d) = some d :=
  Json.parse_render Json.Style.line_standard written.free (written.fits 0)

/-- The encoder comes to an end on every value that a line can hold, with exactly one document, and what is written of
this document is read back as it. The document is what the value is turned into; bytes that are the text of some
characters are turned into these. -/
theorem encoding_reads_back (v : Value) (loggable : Loggable v) :
    (∃ d, v.toLine = .ok d ∧ (∀ e, Encodes v e ↔ e = d) ∧ Turned v d ∧
      Json.parse? .none (Json.render .line d) = some d) ∧
    ∀ s, (bytes (Text.encode s)).simplified = .ok (.text s) ∧
      (byteArray (Text.encode s)).simplified = .ok (.text s) := by
  obtain ⟨d, written⟩ := loggable.exists_written
  refine ⟨⟨d, written.encodes.toLine, fun e => ?_, written.turned, written.parse_render⟩, fun s => ?_⟩
  · rw [← toLine_eq_ok_iff, written.encodes.toLine, Except.ok.injEq, eq_comm]
  · simp only [simplified, Text.decodeLenient_encode, and_self]

/-- A dictionary with a set of rows in it, and values in these that have no form in JSON. -/
def parcel : Value :=
  .dict ([("parts", .set [.tuple [.category .transient, .bytes (Text.encode "é\n"), .null]]),
    ("sent", .list [.date ⟨2024, 1, 1⟩, .dict []])].map fun field => (.text field.1, field.2))

theorem parcel_reads_back : Loggable parcel ∧ ∃ d, parcel.toLine = .ok d ∧ Turned parcel d ∧
    Json.parse? .none (Json.render .line d) = some d := by
  have empty : Loggable (.dict []) := @Loggable.dict [] List.nodup_nil (List.forall_mem_nil _)
  have parts : Loggable (.set [.tuple [.category .transient, .bytes (Text.encode "é\n"), .null]]) := by
    refine .set (.tuple ?_)
    simp only [List.forall_mem_cons, List.not_mem_nil, false_implies, implies_true, and_true]
    exact ⟨.category, .bytes, .null⟩
  have sent : Loggable (.list [.date ⟨2024, 1, 1⟩, .dict []]) := by
    refine .list ?_
    simp only [List.forall_mem_cons, List.not_mem_nil, false_implies, implies_true, and_true]
    exact ⟨.date, empty⟩
  have loggable : Loggable parcel := by
    refine .dict (by decide) ?_
    simp only [List.forall_mem_cons, List.not_mem_nil, false_implies, implies_true, and_true]
    exact ⟨parts, sent⟩
  obtain ⟨⟨d, line, -, turned, reads⟩, -⟩ := encoding_reads_back parcel loggable
  exact ⟨loggable, d, line, turned, reads⟩

private theorem lt_digitCount_pow {k : Nat} (positive : 0 < k) : k < Binary64.digitCount ((10 : Int) ^ k).natAbs := by
  rw [Int.natAbs_pow, ← Nat.not_le]
  exact fun short => Nat.lt_irrefl _ ((Nat.length_toDigits_le_iff (by decide) positive).mp short)

theorem lineInt_pow : lineInt (10 ^ Numeral.digitLimit) = .error (.badValue none) :=
  if_pos (lt_digitCount_pow (by decide))

/-- The least whole number with more digits than the limit is not encoded at all. -/
theorem long_number_is_not_encoded : (int (10 ^ Numeral.digitLimit)).toLine = .error (.badValue none) ∧
    ¬ ∃ d, Encodes (int (10 ^ Numeral.digitLimit)) d := by
  have fails : (int (10 ^ Numeral.digitLimit)).toLine = .error (.badValue none) := lineInt_pow
  refine ⟨fails, ?_⟩
  rintro ⟨d, encodes⟩
  cases fails.symm.trans encodes.toLine

end

end Value

end ConsumerChannel
