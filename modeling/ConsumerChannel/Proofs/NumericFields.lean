import ConsumerChannel.Log.JsonLine
import ConsumerChannel.Proofs.Rounding
import ConsumerChannel.Proofs.WireText

/-! Numeric fields of log lines. A line shows the number that a value stands for, or null if it stands for none, and the
rest of the line has no part in it. Some numbers have neither: an infinity in a field of whole numbers, a whole number
beyond every floating-point number, and one with too many digits. A record that has one of these is lost. -/
namespace ConsumerChannel

namespace JsonLine

/-! ## What a line shows -/

/-- The fields that hold numbers. -/
def numericFields : List String := wholeFields ++ floatFields

/-- What a line shows for a value of a numeric field: the number that it stands for, or null if it stands for none. -/
inductive Shows (name : String) (v : Value) : Json → Prop where
  | whole {n : Int} (field : name ∈ wholeFields) (number : v.toInt = .ok n) : Shows name v (.int n)
  | float {x : Binary64} (field : name ∈ floatFields) (number : v.toFloat = .ok x) : Shows name v (.float x)
  | noWhole (field : name ∈ wholeFields) (none : ∀ n, v.toInt ≠ .ok n) : Shows name v .null
  | noFloat (field : name ∈ floatFields) (none : ∀ x, v.toFloat ≠ .ok x) : Shows name v .null

/-- A value that is neither a truth value nor a whole number, and stands for an infinity or for no number. -/
def NotFinite (v : Value) : Prop :=
  (∃ x, v.toFloat = .ok x ∧ ¬ x.IsFinite) ∧ (∀ b, v ≠ .bool b) ∧ ∀ n, v ≠ .int n

/-- A number that has no place in a numeric field. -/
inductive TooLarge (name : String) : Value → Prop where
  | infinite {negative : Bool} (field : name ∈ wholeFields) : TooLarge name (.float (.infinity negative))
  | infiniteDecimal {negative : Bool} (field : name ∈ wholeFields) : TooLarge name (.decimal (.infinity negative))
  | long {n : Int} (field : name ∈ wholeFields) (digits : Numeral.digitLimit < Binary64.digitCount n.natAbs) :
    TooLarge name (.int n)
  | longDecimal {d : Decimal} {n : Int} (field : name ∈ wholeFields) (whole : d.truncate? = some n)
    (digits : Numeral.digitLimit < Binary64.digitCount n.natAbs) : TooLarge name (.decimal d)
  | beyond {n : Int} (field : name ∈ floatFields) (size : Binary64.overflow ≤ n.natAbs) : TooLarge name (.int n)

/-! ### Whole numbers and their digits -/

/-- The integer part of a number has no more digits than the limit. -/
theorem digitCount_truncate? {x : Binary64} {n : Int} (found : x.truncate? = some n) :
    Binary64.digitCount n.natAbs ≤ Numeral.digitLimit := by
  cases x with
  | nan => cases found
  | infinity => cases found
  | finite negative significand exponent canonical =>
    have few := canonical.1
    have least := canonical.2.1
    have most := canonical.2.2.1
    have size : (if 0 ≤ exponent then significand * Nat.pow 2 exponent.natAbs
        else significand / Nat.pow 2 exponent.natAbs) < 2 ^ 53 * 2 ^ exponent.natAbs := by
      have scale := Nat.two_pow_pos exponent.natAbs
      split
      · exact Nat.mul_lt_mul_of_pos_right few scale
      · exact Nat.lt_of_le_of_lt (Nat.div_le_self _ _) (Nat.lt_of_lt_of_le few (Nat.le_mul_of_pos_right _ scale))
    have short : 53 + exponent.natAbs ≤ Numeral.digitLimit := Nat.le_trans (show _ ≤ 53 + 1074 by omega) (by decide)
    have wide : 2 ^ (53 + exponent.natAbs) ≤ 10 ^ Numeral.digitLimit :=
      Nat.le_trans (Nat.pow_le_pow_left (by decide) _) (Nat.pow_le_pow_right (by decide) short)
    rw [pow_add] at wide
    cases found
    show Binary64.digitCount (Numeral.signed negative _).natAbs ≤ _
    rw [Json.natAbs_signed]
    exact (Nat.length_toDigits_le_iff (by decide) (by decide)).mpr (Nat.lt_of_lt_of_le size wide)

/-- A text that is read as a whole number has no more digits than the limit. -/
private theorem digitCount_int? {s : String} {n : Int} (read : Numeral.int? s = some n) :
    Binary64.digitCount n.natAbs ≤ Numeral.digitLimit := by
  unfold Numeral.int? at read
  dsimp only at read
  split at read
  · next digits row =>
    split at read
    · cases read
    · next short =>
      cases read
      obtain ⟨plain, filled⟩ := Schema.digitRow_plain row
      rw [Json.natAbs_signed]
      exact Nat.le_trans (Json.length_decimalText_le plain (filled rfl)) (Nat.le_of_not_lt short)
  · cases read

/-- What a text is read as, as a whole number. -/
theorem readInt_cases (s : String) :
    Value.toInt.readInt s = .error (.badValue none) ∨
      ∃ n, Value.toInt.readInt s = .ok n ∧ Binary64.digitCount n.natAbs ≤ Numeral.digitLimit := by
  unfold Value.toInt.readInt
  cases read : Numeral.int? s with
  | none => exact .inl rfl
  | some n => exact .inr ⟨n, rfl, digitCount_int? read⟩

/-- No text has too many digits for the whole number that it is read as. -/
theorem readInt_fits (s : String) : ¬ (Value.toInt.readInt s = .error .tooLarge ∨
    ∃ n, Value.toInt.readInt s = .ok n ∧ Numeral.digitLimit < Binary64.digitCount n.natAbs) := by
  rcases readInt_cases s with bad | ⟨n, read, few⟩
  · rw [bad]
    rintro (⟨⟨⟩⟩ | ⟨_, ⟨⟩, _⟩)
  · rw [read]
    rintro (⟨⟨⟩⟩ | ⟨_, ⟨⟩, digits⟩)
    exact absurd digits (Nat.not_lt.mpr few)

theorem toInt_float_eq_ok {x : Binary64} {n : Int} : (Value.float x).toInt = .ok n ↔ x.truncate? = some n := by
  cases x with
  | nan | infinity => exact iff_of_false nofun nofun
  | finite => exact ⟨congrArg some ∘ Except.ok.inj, congrArg Except.ok ∘ Option.some.inj⟩

private theorem toInt_decimal_eq_ok {x : Decimal} {n : Int} :
    (Value.decimal x).toInt = .ok n ↔ x.truncate? = some n := by
  cases x with
  | nan | infinity => exact iff_of_false nofun nofun
  | finite => exact ⟨congrArg some ∘ Except.ok.inj, congrArg Except.ok ∘ Option.some.inj⟩

/-! ### Values that stand for a number, for none, or for one that is too large -/

section
variable {name : String} {v : Value} {d : Json} {f : Fault}

theorem floatFields_apart : ∀ name ∈ floatFields, name ∉ wholeFields := by decide

/-- Whatever stands for no whole number is no number, or is without bounds. -/
theorem toInt_error (fails : v.toInt = .error f) : f = .wrongSort ∨ f = .badValue none ∨ f = .tooLarge := by
  cases v with
  | bool | int => cases fails
  | text | bytes | byteArray =>
    rcases readInt_cases _ with bad | ⟨n, read, -⟩
    · cases bad.symm.trans fails
      exact .inr (.inl rfl)
    · cases read.symm.trans fails
  | float x | decimal x =>
    cases x with
    | finite => cases fails
    | nan =>
      cases fails
      exact .inr (.inl rfl)
    | infinity =>
      cases fails
      exact .inr (.inr rfl)
  | _ =>
    cases fails
    exact .inl rfl

/-- What is too large for a field of whole numbers has no whole number, or one with too many digits. -/
theorem tooLarge_iff_of_whole (field : name ∈ wholeFields) : TooLarge name v ↔
    v.toInt = .error .tooLarge ∨ ∃ n, v.toInt = .ok n ∧ Numeral.digitLimit < Binary64.digitCount n.natAbs := by
  constructor
  · intro large
    cases large with
    | infinite | infiniteDecimal => exact .inl rfl
    | long _ digits => exact .inr ⟨_, rfl, digits⟩
    | longDecimal _ whole digits => exact .inr ⟨_, toInt_decimal_eq_ok.mpr whole, digits⟩
    | beyond other => exact absurd field (floatFields_apart _ other)
  · intro odd
    cases v with
    | bool b =>
      rcases odd with ⟨⟨⟩⟩ | ⟨_, ⟨⟩, digits⟩
      cases b <;> exact absurd digits (by decide)
    | int =>
      rcases odd with ⟨⟨⟩⟩ | ⟨_, ⟨⟩, digits⟩
      exact .long field digits
    | text | bytes | byteArray => exact (readInt_fits _ odd).elim
    | float x =>
      rcases odd with infinite | ⟨n, number, digits⟩
      · cases x with
        | infinity => exact .infinite field
        | nan | finite => cases infinite
      · exact absurd digits (Nat.not_lt.mpr (digitCount_truncate? (toInt_float_eq_ok.mp number)))
    | decimal x =>
      rcases odd with infinite | ⟨n, number, digits⟩
      · cases x with
        | infinity => exact .infiniteDecimal field
        | nan | finite => cases infinite
      · exact .longDecimal field (toInt_decimal_eq_ok.mp number) digits
    | _ => rcases odd with ⟨⟨⟩⟩ | ⟨_, ⟨⟩, _⟩

theorem toFloat_int (n : Int) : (Value.int n).toFloat = match Binary64.ofInt? n with
    | some x => .ok x
    | none => .error .tooLarge := rfl

private theorem toFloat_decimal (x : Decimal) : (Value.decimal x).toFloat = match x.toBinary64? with
    | some y => .ok y
    | none => .error (.badValue none) := rfl

/-- Whatever stands for no floating-point number is no number, or a whole number that has none near to it. -/
theorem toFloat_error (fails : v.toFloat = .error f) :
    f = .wrongSort ∨ f = .badValue none ∨ f = .tooLarge ∧ ∃ n, v = .int n ∧ Binary64.ofInt? n = none := by
  have unread (s : String) (bad : Value.toFloat.readFloat s = .error f) : f = .badValue none := by
    unfold Value.toFloat.readFloat at bad
    split at bad
    · cases bad
    · cases bad
      rfl
  cases v with
  | bool | float => cases fails
  | int n =>
    rw [toFloat_int] at fails
    split at fails
    · cases fails
    · next far =>
      cases fails
      exact .inr (.inr ⟨rfl, n, rfl, far⟩)
  | text | bytes | byteArray => exact .inr (.inl (unread _ fails))
  | decimal x =>
    rw [toFloat_decimal] at fails
    split at fails
    · cases fails
    · cases fails
      exact .inr (.inl rfl)
  | _ =>
    cases fails
    exact .inl rfl

/-- What is too large for a field of floating-point numbers is a whole number that has none near to it. -/
theorem tooLarge_iff_of_float (field : name ∈ floatFields) : TooLarge name v ↔ v.toFloat = .error .tooLarge := by
  have apart := floatFields_apart name field
  constructor
  · intro large
    cases large with
    | infinite other | infiniteDecimal other | long other | longDecimal other => exact absurd other apart
    | beyond _ size => rw [toFloat_int, Binary64.ofInt?_eq_none_iff.mpr size]
  · intro fails
    rcases toFloat_error fails with ⟨⟨⟩⟩ | ⟨⟨⟩⟩ | ⟨-, n, rfl, far⟩
    exact .beyond field (Binary64.ofInt?_eq_none_iff.mp far)

theorem shows_iff_of_whole (field : name ∈ wholeFields) :
    Shows name v d ↔ (∃ n, v.toInt = .ok n ∧ d = .int n) ∨ (∀ n, v.toInt ≠ .ok n) ∧ d = .null := by
  constructor
  · intro shows
    cases shows with
    | whole _ number => exact .inl ⟨_, number, rfl⟩
    | noWhole _ none => exact .inr ⟨none, rfl⟩
    | float other | noFloat other => exact absurd field (floatFields_apart _ other)
  · rintro (⟨n, number, rfl⟩ | ⟨none, rfl⟩)
    · exact .whole field number
    · exact .noWhole field none

theorem shows_iff_of_float (field : name ∈ floatFields) :
    Shows name v d ↔ (∃ x, v.toFloat = .ok x ∧ d = .float x) ∨ (∀ x, v.toFloat ≠ .ok x) ∧ d = .null := by
  constructor
  · intro shows
    cases shows with
    | whole other | noWhole other => exact absurd other (floatFields_apart _ field)
    | float _ number => exact .inl ⟨_, number, rfl⟩
    | noFloat _ none => exact .inr ⟨none, rfl⟩
  · rintro (⟨n, number, rfl⟩ | ⟨none, rfl⟩)
    · exact .float field number
    · exact .noFloat field none

/-! ### A field with its value -/

theorem typed_whole (field : name ∈ wholeFields) : typed name v = orNull (v.toInt.map .int) :=
  if_pos (List.contains_iff_mem.mpr field)

theorem typed_float (field : name ∈ floatFields) : typed name v = orNull (v.toFloat.map .float) := by
  have apart : wholeFields.contains name = false := by simpa using floatFields_apart name field
  rw [typed, apart, if_neg Bool.false_ne_true, if_pos (List.contains_iff_mem.mpr field)]

/-- What stands in a line for the value of a field. -/
def shown (name : String) (v : Value) : Except Fault Json := do
  (safe name (← typed name v)).toLine

private theorem shown_whole (field : name ∈ wholeFields) :
    shown name v = .ok d ↔ Shows name v d ∧ ¬ TooLarge name v := by
  rw [shown, typed_whole field, shows_iff_of_whole field, tooLarge_iff_of_whole field]
  cases number : v.toInt with
  | error f =>
    rcases toInt_error number with rfl | rfl | rfl <;>
      simp [Except.map, orNull, bind, Except.bind, safe, Value.toLine, eq_comm]
  | ok n =>
    show Value.lineInt n = .ok d ↔ _
    by_cases long : Numeral.digitLimit < Binary64.digitCount n.natAbs
    · simp [Value.lineInt, long]
    · simp [Value.lineInt, long, eq_comm]

private theorem shown_float (field : name ∈ floatFields) :
    shown name v = .ok d ↔ Shows name v d ∧ ¬ TooLarge name v := by
  rw [shown, typed_float field, shows_iff_of_float field, tooLarge_iff_of_float field]
  cases number : v.toFloat with
  | error f =>
    rcases toFloat_error number with rfl | rfl | ⟨rfl, -⟩ <;>
      simp [Except.map, orNull, bind, Except.bind, safe, Value.toLine, eq_comm]
  | ok x => simp [Except.map, orNull, bind, Except.bind, safe, Value.toLine, eq_comm]

/-- A value stands in a line as its number or as null, unless it is too large. -/
theorem shown_eq_ok (field : name ∈ numericFields) : shown name v = .ok d ↔ Shows name v d ∧ ¬ TooLarge name v := by
  rcases List.mem_append.mp field with whole | float
  · exact shown_whole whole
  · exact shown_float float

theorem exists_shows (field : name ∈ numericFields) (v : Value) : ∃ d, Shows name v d := by
  rcases List.mem_append.mp field with whole | float
  · cases number : v.toInt with
    | ok n => exact ⟨_, .whole whole number⟩
    | error f => exact ⟨_, .noWhole whole fun n other => by cases number.symm.trans other⟩
  · cases number : v.toFloat with
    | ok x => exact ⟨_, .float float number⟩
    | error f => exact ⟨_, .noFloat float fun x other => by cases number.symm.trans other⟩

end

/-! ## The fields of a record -/

section
variable {r : LogRecord} {names : List String} {name : String} {fields more : Fields} {v : Value} {d : Json}
  {found documents : List (String × Json)}

/-- The fields as they stand in a line, one after another. -/
def lined (fields : Fields) : Except Fault (List (String × Json)) :=
  Value.lineFields (fields.map fun field => (.text field.1, field.2))

theorem lined_cons_eq_ok : lined ((name, v) :: fields) = .ok documents ↔
    ∃ d rest, v.toLine = .ok d ∧ lined fields = .ok rest ∧ documents = (name, d) :: rest := by
  have unfolds : lined ((name, v) :: fields) = (do
      let d ← v.toLine
      let rest ← lined fields
      return (name, d) :: rest) := rfl
  rw [unfolds]
  constructor
  · intro formed
    obtain ⟨d, first, formed⟩ := bind_eq_ok_iff.mp formed
    obtain ⟨rest, onward, ⟨⟩⟩ := bind_eq_ok_iff.mp formed
    exact ⟨d, rest, first, onward, rfl⟩
  · rintro ⟨d, rest, first, onward, rfl⟩
    exact bind_eq_ok_iff.mpr ⟨d, first, bind_eq_ok_iff.mpr ⟨rest, onward, rfl⟩⟩

theorem lined_append_eq_ok : lined (fields ++ more) = .ok documents ↔
    ∃ before after, lined fields = .ok before ∧ lined more = .ok after ∧ documents = before ++ after := by
  induction fields generalizing documents with
  | nil =>
    constructor
    · exact fun formed => ⟨[], documents, rfl, formed, rfl⟩
    · rintro ⟨_, after, ⟨⟩, formed, rfl⟩
      exact formed
  | cons field fields ih =>
    obtain ⟨name, v⟩ := field
    rw [List.cons_append, lined_cons_eq_ok]
    constructor
    · rintro ⟨d, rest, first, onward, rfl⟩
      obtain ⟨before, after, early, late, rfl⟩ := ih.mp onward
      exact ⟨_, after, lined_cons_eq_ok.mpr ⟨d, before, first, early, rfl⟩, late, rfl⟩
    · rintro ⟨_, after, whole, late, rfl⟩
      obtain ⟨d, before, first, early, rfl⟩ := lined_cons_eq_ok.mp whole
      exact ⟨d, before ++ after, first, ih.mpr ⟨before, after, early, late, rfl⟩, rfl⟩

/-- A new name comes last. -/
theorem put_new (fresh : ∀ field ∈ fields, field.1 ≠ name) : put fields name v = fields ++ [(name, v)] := by
  induction fields with
  | nil => rfl
  | cons field fields ih =>
    obtain ⟨other, old⟩ := field
    obtain ⟨apart, fresh⟩ := List.forall_mem_cons.mp fresh
    rw [put, if_neg apart, ih fresh, List.cons_append]

/-- What a record adds to a line for some names, in their order. -/
inductive Adds (r : LogRecord) : List String → List (String × Json) → Prop where
  | done : Adds r [] []
  | absent {name : String} {names : List String} {found : List (String × Json)} (lacks : r.extra? name = none)
    (onward : Adds r names found) : Adds r (name :: names) found
  | field {name : String} {names : List String} {v : Value} {d : Json} {found : List (String × Json)}
    (has : r.extra? name = some v) (shows : shown name v = .ok d) (onward : Adds r names found) :
    Adds r (name :: names) ((name, d) :: found)

theorem adds_absent (lacks : r.extra? name = none) : Adds r (name :: names) found ↔ Adds r names found := by
  constructor
  · intro adds
    cases adds with
    | absent _ onward => exact onward
    | field has => cases lacks.symm.trans has
  · exact .absent lacks

theorem adds_field (has : r.extra? name = some v) : Adds r (name :: names) found ↔
    ∃ d rest, shown name v = .ok d ∧ Adds r names rest ∧ found = (name, d) :: rest := by
  constructor
  · intro adds
    cases adds with
    | absent lacks => cases lacks.symm.trans has
    | field again shows onward =>
      cases again.symm.trans has
      exact ⟨_, _, shows, onward, rfl⟩
  · rintro ⟨d, rest, shows, onward, rfl⟩
    exact .field has shows onward

/-- The fields with the one of a record under a name put in. -/
def putField (r : LogRecord) (fields : Fields) (name : String) : Except Fault Fields :=
  match r.extra? name with
  | none => .ok fields
  | some v => do return put fields name (safe name (← typed name v))

theorem putField_absent (lacks : r.extra? name = none) : putField r fields name = .ok fields := by
  rw [putField, lacks]

private theorem putField_new (has : r.extra? name = some v) (fresh : ∀ field ∈ fields, field.1 ≠ name) :
    putField r fields name = (typed name v).map fun w => fields ++ [(name, safe name w)] := by
  simp only [putField, has]
  cases typed name v with
  | error f => rfl
  | ok w => exact congrArg Except.ok (put_new fresh)

/-- The fields of a record under some names are not there yet. -/
def Fresh (r : LogRecord) (names : List String) (fields : Fields) : Prop :=
  ∀ name ∈ names, ∀ v, r.extra? name = some v → ∀ field ∈ fields, field.1 ≠ name

theorem Fresh.onward (fresh : Fresh r names fields) (new : name ∉ names) : Fresh r names (fields ++ [(name, v)]) := by
  intro other member w has field among
  rcases List.mem_append.mp among with old | last
  · exact fresh other member w has field old
  · cases List.mem_singleton.mp last
    exact (ne_of_mem_of_not_mem member new).symm

/-- A line is formed with new fields just if each of them has a place in it, and there they come one after another. -/
theorem foldlM_putField_eq_ok (distinct : names.Nodup) (fresh : Fresh r names fields) :
    (∃ whole, names.foldlM (putField r) fields = .ok whole ∧ lined (whole ++ more) = .ok documents) ↔
      ∃ before found after, lined fields = .ok before ∧ Adds r names found ∧ lined more = .ok after ∧
        documents = before ++ found ++ after := by
  induction names generalizing fields with
  | nil =>
    constructor
    · rintro ⟨_, ⟨⟩, formed⟩
      obtain ⟨before, after, early, late, rfl⟩ := lined_append_eq_ok.mp formed
      exact ⟨before, [], after, early, .done, late, by rw [List.append_nil]⟩
    · rintro ⟨before, _, after, early, ⟨⟩, late, rfl⟩
      exact ⟨fields, rfl, lined_append_eq_ok.mpr ⟨before, after, early, late, by rw [List.append_nil]⟩⟩
  | cons name names ih =>
    obtain ⟨new, distinct⟩ := List.nodup_cons.mp distinct
    obtain ⟨here, fresh⟩ := List.forall_mem_cons.mp fresh
    rw [List.foldlM_cons]
    cases extra : r.extra? name with
    | none =>
      simp only [adds_absent extra]
      rw [putField_absent extra]
      exact ih distinct fresh
    | some v =>
      simp only [adds_field extra]
      rw [putField_new extra (here v extra)]
      cases stands : typed name v with
      | error f =>
        refine iff_of_false nofun ?_
        rintro ⟨_, _, _, _, ⟨d, _, shows, -⟩, -⟩
        simp [shown, stands, bind, Except.bind] at shows
      | ok w =>
        have shows : shown name v = (safe name w).toLine := by
          rw [shown, stands]
          rfl
        -- The field goes from the end of those that are there to the front of those that are added.
        refine (ih distinct (Fresh.onward fresh new)).trans ?_
        simp only [lined_append_eq_ok, lined_cons_eq_ok, shows]
        constructor
        · rintro ⟨_, found, after, ⟨before, _, early, ⟨d, _, line, ⟨⟩, rfl⟩, rfl⟩, adds, late, rfl⟩
          exact ⟨before, (name, d) :: found, after, early, ⟨d, found, line, adds, rfl⟩, late, by simp⟩
        · rintro ⟨before, _, after, early, ⟨d, found, line, adds, rfl⟩, late, rfl⟩
          exact ⟨before ++ [(name, d)], found, after, ⟨before, _, early, ⟨d, [], line, rfl, rfl⟩, rfl⟩, adds, late,
            by simp⟩

/-- What is added has the names in their order, each with the value of its field. -/
theorem Adds.sublist (adds : Adds r names found) : (found.map Prod.fst).Sublist names := by
  induction adds with
  | done => exact .slnil
  | absent _ _ ih => exact .cons _ ih
  | field _ _ _ ih => exact .cons_cons _ ih

theorem Adds.mem_iff (adds : Adds r names found) :
    (name, d) ∈ found ↔ name ∈ names ∧ ∃ v, r.extra? name = some v ∧ shown name v = .ok d := by
  induction adds with
  | done => simp
  | @absent other names found lacks onward ih =>
    rw [ih, List.mem_cons]
    refine and_congr_left ?_
    rintro ⟨v, has, -⟩
    exact (or_iff_right fun same => by cases lacks.symm.trans (same ▸ has)).symm
  | @field other names w e found has shows onward ih =>
    rw [List.mem_cons, List.mem_cons, ih, Prod.mk.injEq]
    constructor
    · rintro (⟨rfl, rfl⟩ | ⟨among, shown⟩)
      · exact ⟨.inl rfl, w, has, shows⟩
      · exact ⟨.inr among, shown⟩
    · rintro ⟨rfl | among, v, again, shown⟩
      · cases has.symm.trans again
        exact .inl ⟨rfl, Except.ok.inj (shown.symm.trans shows)⟩
      · exact .inr ⟨among, v, again, shown⟩

theorem exists_adds_iff :
    (∃ found, Adds r names found) ↔ ∀ name ∈ names, ∀ v, r.extra? name = some v → ∃ d, shown name v = .ok d := by
  induction names with
  | nil => exact iff_of_true ⟨[], .done⟩ (List.forall_mem_nil _)
  | cons name names ih =>
    rw [List.forall_mem_cons, ← ih]
    cases extra : r.extra? name with
    | none => simp only [adds_absent extra, reduceCtorEq, false_implies, implies_true, true_and]
    | some v =>
      simp only [adds_field extra, Option.some.injEq, forall_eq']
      constructor
      · rintro ⟨_, d, found, shows, adds, rfl⟩
        exact ⟨⟨d, shows⟩, found, adds⟩
      · rintro ⟨⟨d, shows⟩, found, adds⟩
        exact ⟨_, d, found, shows, adds, rfl⟩

/-- The fields that a line opens with, before those of the record. -/
def opening (context : LogContext) (r : LogRecord) (message : String) : Fields :=
  [("level", .text r.level.name), ("logger", .text r.logger), ("message", .text message)] ++
    contextFields context ++ placeFields r

theorem opening_not_numeric {context : LogContext} {message : String} :
    ∀ field ∈ opening context r message, field.1 ∉ numericFields := by
  have names : ∀ name ∈ ["level", "logger", "message", "consumer_group", "consumer_id", "api", "file"],
      name ∉ numericFields := by decide
  intro field among
  refine names field.1 ?_
  simp only [opening, List.mem_append] at among
  rcases among with (head | attributed) | placed
  · simp only [List.mem_cons, List.not_mem_nil, or_false] at head
    rcases head with rfl | rfl | rfl <;> simp
  · have among := (List.mem_filter.mp attributed).1
    simp only [List.mem_cons, List.not_mem_nil, or_false] at among
    rcases among with rfl | rfl | rfl <;> simp
  · unfold placeFields at placed
    split at placed
    · cases List.mem_singleton.mp placed
      simp
    · cases placed

theorem failureFields_not_numeric : ∀ field ∈ failureFields r, field.1 ∉ numericFields := by
  intro field among
  unfold failureFields at among
  split at among
  · cases among
  · cases List.mem_singleton.mp among
    exact (by decide : "exception" ∉ numericFields)

private theorem map_fst_lined (formed : lined fields = .ok documents) :
    documents.map Prod.fst = fields.map Prod.fst := by
  induction fields generalizing documents with
  | nil =>
    cases formed
    rfl
  | cons field fields ih =>
    obtain ⟨d, rest, -, onward, rfl⟩ := lined_cons_eq_ok.mp formed
    rw [List.map_cons, List.map_cons, ih onward]

theorem not_numeric_of_lined (formed : lined fields = .ok documents)
    (free : ∀ field ∈ fields, field.1 ∉ numericFields) : ∀ field ∈ documents, field.1 ∉ numericFields := by
  intro field among
  have name : field.1 ∈ fields.map Prod.fst := map_fst_lined formed ▸ List.mem_map_of_mem among
  obtain ⟨same, member, named⟩ := List.mem_map.mp name
  exact named ▸ free same member

variable {now : DateTime} {context : LogContext} {line : String}

private theorem document_eq_ok {line : Json} : document fields = .ok line ↔
    ∃ documents, lined fields = .ok documents ∧ .object documents = line := map_eq_ok_iff

theorem entry_eq_ok : entry context r = .ok fields ↔
    ∃ message whole, r.text = .ok message ∧
      fieldNames.foldlM (putField r) (opening context r message) = .ok whole ∧ fields = whole ++ failureFields r := by
  have unfolds : entry context r = (do
      let message ← r.text
      let whole ← fieldNames.foldlM (putField r) (opening context r message)
      return whole ++ failureFields r) := rfl
  rw [unfolds]
  constructor
  · intro entered
    obtain ⟨message, said, entered⟩ := bind_eq_ok_iff.mp entered
    obtain ⟨whole, put, ⟨⟩⟩ := bind_eq_ok_iff.mp entered
    exact ⟨message, whole, said, put, rfl⟩
  · rintro ⟨message, whole, said, put, rfl⟩
    exact bind_eq_ok_iff.mpr ⟨message, said, bind_eq_ok_iff.mpr ⟨whole, put, rfl⟩⟩

/-- The field of a line for its time. -/
def timeField (now : DateTime) : String × Json := ("ts", .text now.universalStamp)

theorem format_eq_ok : format now context r = .ok line ↔
    ∃ fields documents, entry context r = .ok fields ∧ lined fields = .ok documents ∧
      line = Json.render .line (.object (timeField now :: documents)) := by
  have unfolds : format now context r = (do
      let fields ← entry context r
      let d ← document (("ts", .text now.universalStamp) :: fields)
      return Json.render .line d) := rfl
  rw [unfolds]
  constructor
  · intro whole
    obtain ⟨fields, entered, rendered⟩ := bind_eq_ok_iff.mp whole
    obtain ⟨d, told, ⟨⟩⟩ := bind_eq_ok_iff.mp rendered
    obtain ⟨_, timed, rfl⟩ := document_eq_ok.mp told
    obtain ⟨_, documents, ⟨⟩, formed, rfl⟩ := lined_cons_eq_ok.mp timed
    exact ⟨fields, documents, entered, formed, rfl⟩
  · rintro ⟨fields, documents, entered, formed, rfl⟩
    have timed : lined (("ts", .text now.universalStamp) :: fields) = .ok (timeField now :: documents) :=
      lined_cons_eq_ok.mpr ⟨_, documents, rfl, formed, rfl⟩
    exact bind_eq_ok_iff.mpr ⟨fields, entered, bind_eq_ok_iff.mpr ⟨_, document_eq_ok.mpr ⟨_, timed, rfl⟩, rfl⟩⟩

/-- The extra fields of a record have numeric names, each of them once. -/
structure OnlyNumeric (r : LogRecord) : Prop where
  names : ∀ field ∈ r.extras, field.1 ∈ numericFields
  distinct : (r.extras.map Prod.fst).Nodup

private theorem find_eq_some_iff {extras : List (String × Value)} (distinct : (extras.map Prod.fst).Nodup) :
    (extras.find? fun field => field.1 == name).map Prod.snd = some v ↔ (name, v) ∈ extras := by
  induction extras with
  | nil => simp
  | cons field extras ih =>
    obtain ⟨other, w⟩ := field
    obtain ⟨new, distinct⟩ := List.nodup_cons.mp distinct
    by_cases same : other = name
    · subst same
      have gone : (other, v) ∉ extras := fun member => new (List.mem_map.mpr ⟨_, member, rfl⟩)
      simp [gone, eq_comm]
    · rw [List.find?_cons_of_neg (by simp [same]), ih distinct]
      simp [Ne.symm same]

/-- A field of a record that holds nothing counts as absent. -/
theorem extra?_eq_some_iff (distinct : (r.extras.map Prod.fst).Nodup) :
    r.extra? name = some v ↔ (name, v) ∈ r.extras ∧ v ≠ .null := by
  rw [← find_eq_some_iff distinct]
  unfold LogRecord.extra?
  split
  · next nothing =>
    rw [nothing]
    exact iff_of_false nofun fun both => both.2 (Option.some.inj both.1).symm
  · next other =>
    exact ⟨fun has => ⟨has, by rintro rfl; exact other has⟩, And.left⟩

/-- The line of a record with numeric fields only: they stand between the opening and the failure. -/
theorem format_numeric_eq_ok (numeric : OnlyNumeric r) : format now context r = .ok line ↔
    ∃ message before found after, r.text = .ok message ∧ lined (opening context r message) = .ok before ∧
      Adds r fieldNames found ∧ lined (failureFields r) = .ok after ∧
      line = Json.render .line (.object (timeField now :: (before ++ found ++ after))) := by
  have fresh (message : String) : Fresh r fieldNames (opening context r message) := by
    rintro name - v has field among rfl
    exact opening_not_numeric field among (numeric.names (_, v) ((extra?_eq_some_iff numeric.distinct).mp has).1)
  rw [format_eq_ok]
  constructor
  · rintro ⟨_, documents, entered, formed, rfl⟩
    obtain ⟨message, whole, said, put, rfl⟩ := entry_eq_ok.mp entered
    obtain ⟨before, found, after, early, adds, late, rfl⟩ :=
      (foldlM_putField_eq_ok (by decide) (fresh message)).mp ⟨whole, put, formed⟩
    exact ⟨message, before, found, after, said, early, adds, late, rfl⟩
  · rintro ⟨message, before, found, after, said, early, adds, late, rfl⟩
    obtain ⟨whole, put, formed⟩ :=
      (foldlM_putField_eq_ok (by decide) (fresh message)).mpr ⟨before, found, after, early, adds, late, rfl⟩
    exact ⟨_, _, entry_eq_ok.mpr ⟨message, whole, said, put, rfl⟩, formed, rfl⟩

/-- The record without its extra fields. -/
def bare (r : LogRecord) : LogRecord := { r with extras := [] }

theorem Adds.of_bare (adds : Adds (bare r) names found) : found = [] := by
  induction adds with
  | done => rfl
  | absent _ _ ih => exact ih
  | field has => cases has

private theorem adds_bare (r : LogRecord) (names : List String) : Adds (bare r) names [] := by
  induction names with
  | nil => exact .done
  | cons name names ih => exact .absent rfl ih

theorem format_bare_eq_ok : format now context (bare r) = .ok line ↔
    ∃ message before after, r.text = .ok message ∧ lined (opening context r message) = .ok before ∧
      lined (failureFields r) = .ok after ∧
      line = Json.render .line (.object (timeField now :: (before ++ after))) := by
  have none : OnlyNumeric (bare r) := ⟨List.forall_mem_nil _, List.nodup_nil⟩
  rw [format_numeric_eq_ok none]
  constructor
  · rintro ⟨message, before, found, after, said, early, adds, late, rfl⟩
    rw [adds.of_bare, List.append_nil]
    exact ⟨message, before, after, said, early, late, rfl⟩
  · rintro ⟨message, before, after, said, early, late, rfl⟩
    exact ⟨message, before, [], after, said, early, adds_bare r _, late, by rw [List.append_nil]⟩

theorem numericFields_among : ∀ name ∈ numericFields, name ∈ fieldNames := by decide

theorem exists_adds_iff_not_tooLarge (numeric : OnlyNumeric r) :
    (∃ found, Adds r fieldNames found) ↔ ∀ name v, (name, v) ∈ r.extras → ¬ TooLarge name v := by
  rw [exists_adds_iff]
  constructor
  · intro each name v member large
    have field := numeric.names _ member
    have filled : v ≠ .null := by
      rintro rfl
      cases large
    obtain ⟨d, shows⟩ :=
      each name (numericFields_among _ field) v ((extra?_eq_some_iff numeric.distinct).mpr ⟨member, filled⟩)
    exact ((shown_eq_ok field).mp shows).2 large
  · intro fits name _ v has
    have member := ((extra?_eq_some_iff numeric.distinct).mp has).1
    have field := numeric.names _ member
    obtain ⟨d, shows⟩ := exists_shows field v
    exact ⟨d, (shown_eq_ok field).mpr ⟨shows, fits name v member⟩⟩

/-- The floating-point number of a truth value or of a whole number is finite. -/
private theorem finite_or_notFinite {x : Binary64} (number : v.toFloat = .ok x) : x.IsFinite ∨ NotFinite v := by
  by_cases finite : x.IsFinite
  · exact .inl finite
  · refine .inr ⟨⟨x, number, finite⟩, ?_, ?_⟩
    · rintro b rfl
      cases number
      cases b <;> exact finite trivial
    · rintro n rfl
      rw [toFloat_int] at number
      split at number
      · next nearest =>
        cases number
        exact finite (Binary64.ofInt?_finite nearest)
      · cases number

theorem Shows.number_or_null (shows : Shows name v d) :
    d = .null ∨ (∃ n, d = .int n) ∨ ∃ x, d = .float x ∧ (x.IsFinite ∨ NotFinite v) := by
  cases shows with
  | whole => exact .inr (.inl ⟨_, rfl⟩)
  | noWhole | noFloat => exact .inl rfl
  | float _ number => exact .inr (.inr ⟨_, rfl, finite_or_notFinite number⟩)

private theorem exists_line_iff (numeric : OnlyNumeric r) : (∃ line, format now context r = .ok line) ↔
    (∃ line, format now context (bare r) = .ok line) ∧ ∀ name v, (name, v) ∈ r.extras → ¬ TooLarge name v := by
  constructor
  · rintro ⟨_, formed⟩
    obtain ⟨message, before, found, after, said, early, adds, late, rfl⟩ := (format_numeric_eq_ok numeric).mp formed
    exact ⟨⟨_, format_bare_eq_ok.mpr ⟨message, before, after, said, early, late, rfl⟩⟩,
      (exists_adds_iff_not_tooLarge numeric).mp ⟨found, adds⟩⟩
  · rintro ⟨⟨_, formed⟩, fits⟩
    obtain ⟨message, before, after, said, early, late, rfl⟩ := format_bare_eq_ok.mp formed
    obtain ⟨found, adds⟩ := (exists_adds_iff_not_tooLarge numeric).mpr fits
    exact ⟨_, (format_numeric_eq_ok numeric).mpr ⟨message, before, found, after, said, early, adds, late, rfl⟩⟩

/-- What a record adds to a line are its fields that hold something, each as a line shows it. -/
theorem Adds.mem_iff_shows (adds : Adds r fieldNames found) (numeric : OnlyNumeric r) :
    (name, d) ∈ found ↔ ∃ v, (name, v) ∈ r.extras ∧ v ≠ .null ∧ Shows name v d := by
  have fits := (exists_adds_iff_not_tooLarge numeric).mp ⟨found, adds⟩
  rw [adds.mem_iff]
  constructor
  · rintro ⟨-, v, has, shows⟩
    obtain ⟨member, filled⟩ := (extra?_eq_some_iff numeric.distinct).mp has
    exact ⟨v, member, filled, ((shown_eq_ok (numeric.names _ member)).mp shows).1⟩
  · rintro ⟨v, member, filled, shows⟩
    have field := numeric.names _ member
    exact ⟨numericFields_among _ field, v, (extra?_eq_some_iff numeric.distinct).mpr ⟨member, filled⟩,
      (shown_eq_ok field).mpr ⟨shows, fits name v member⟩⟩

/-- A record with numeric fields has a line just if it has one without them and none of them is too large. Its line is
then that other line with the fields put in, in their order. A field that holds nothing is absent; every other one is
there with its number, or with null if it stands for none. A number there is finite, if the value was not an infinity or
no number itself. -/
theorem numbers_or_null_unless_too_large (now : DateTime) (context : LogContext) (r : LogRecord)
    (numeric : OnlyNumeric r) :
    ((∃ line, format now context r = .ok line) ↔
      (∃ line, format now context (bare r) = .ok line) ∧ ∀ name v, (name, v) ∈ r.extras → ¬ TooLarge name v) ∧
    ∀ line, format now context r = .ok line → ∃ before found after,
      format now context (bare r) = .ok (Json.render .line (.object (before ++ after))) ∧
      line = Json.render .line (.object (before ++ found ++ after)) ∧
      (∀ field ∈ before ++ after, field.1 ∉ numericFields) ∧ (found.map Prod.fst).Sublist fieldNames ∧
      (∀ name d, (name, d) ∈ found ↔ ∃ v, (name, v) ∈ r.extras ∧ v ≠ .null ∧ Shows name v d) ∧
      ∀ name d, (name, d) ∈ found → d = .null ∨ (∃ n, d = .int n) ∨
        ∃ x, d = .float x ∧ (x.IsFinite ∨ ∃ v, (name, v) ∈ r.extras ∧ NotFinite v) := by
  refine ⟨exists_line_iff numeric, fun line formed => ?_⟩
  obtain ⟨message, before, found, after, said, early, adds, late, rfl⟩ := (format_numeric_eq_ok numeric).mp formed
  have without : format now context (bare r) =
      .ok (Json.render .line (.object (timeField now :: (before ++ after)))) :=
    format_bare_eq_ok.mpr ⟨message, before, after, said, early, late, rfl⟩
  refine ⟨timeField now :: before, found, after, without, rfl, ?_, adds.sublist,
    fun name d => adds.mem_iff_shows numeric, ?_⟩
  · intro field among
    rcases List.mem_append.mp among with first | last
    · rcases List.mem_cons.mp first with rfl | opens
      · exact (by decide : "ts" ∉ numericFields)
      · exact not_numeric_of_lined early opening_not_numeric field opens
    · exact not_numeric_of_lined late failureFields_not_numeric field last
  · intro name d among
    obtain ⟨v, member, -, shows⟩ := (adds.mem_iff_shows numeric).mp among
    refine shows.number_or_null.imp_right (Or.imp_right ?_)
    rintro ⟨x, same, odd⟩
    exact ⟨x, same, odd.imp_right fun odd => ⟨v, member, odd⟩⟩

/-- The start of a year. -/
def newYear : DateTime := ⟨⟨2024, 1, 1⟩, 0, 0, 0, 0, none⟩

/-- A record with a text that writes no number, a field that holds nothing, and a truth value. -/
def oddRecord : LogRecord :=
  .event "app" Level.info "m" [("http_status", .text "abc"), ("wait_seconds", .null), ("duration_ms", .bool true)]

theorem odd_record_has_line : OnlyNumeric oddRecord ∧ ∃ line, format newYear .empty oddRecord = .ok line := by
  have numeric : OnlyNumeric oddRecord := ⟨by decide, by decide⟩
  have spoken : ∃ line, format newYear .empty (bare oddRecord) = .ok line :=
    ⟨_, format_bare_eq_ok.mpr ⟨_, _, _, rfl, rfl, rfl, rfl⟩⟩
  refine ⟨numeric, (numbers_or_null_unless_too_large _ _ _ numeric).1.mpr ⟨spoken, ?_⟩⟩
  intro name v member large
  simp only [oddRecord, LogRecord.event, List.mem_cons, Prod.mk.injEq, List.not_mem_nil, or_false] at member
  rcases member with ⟨-, rfl⟩ | ⟨-, rfl⟩ | ⟨-, rfl⟩ <;> cases large

/-- A record with a status beyond every number. -/
def endlessRecord : LogRecord := .event "app" Level.info "m" [("http_status", .float (.infinity false))]

/-- The status stands for no whole number, but instead of a line with null there is none. -/
theorem endless_record_has_no_line : OnlyNumeric endlessRecord ∧ Shows "http_status" (.float (.infinity false)) .null ∧
    (∃ line, format newYear .empty (bare endlessRecord) = .ok line) ∧
    format newYear .empty endlessRecord = .error .tooLarge :=
  ⟨⟨by decide, by decide⟩, .noWhole (by decide) nofun, ⟨_, format_bare_eq_ok.mpr ⟨_, _, _, rfl, rfl, rfl, rfl⟩⟩, rfl⟩

end

end JsonLine

end ConsumerChannel
