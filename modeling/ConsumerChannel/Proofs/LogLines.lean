import ConsumerChannel.Proofs.Encoding
import ConsumerChannel.Proofs.OneLine
import ConsumerChannel.Proofs.WholeFloats

/-! One line for each record. Whatever a record says and whatever goes with it, its line has no line break in it, and is
read back as one object: what the line opens with, what the context attributes it to, its place, and the known fields
of the record, which come before the context where they have the same name. -/
namespace ConsumerChannel

namespace Json

/-! ## Looking fields up -/

section
variable {fields more : List (String × Json)} {name other : String} {d : Json}

theorem lookup_insertField_self : lookup? (insertField fields name d) name = some d := by
  induction fields with
  | nil => simp [insertField, lookup?]
  | cons field fields ih =>
    rw [insertField]
    split
    · next same => simp [lookup?, same]
    · next apart => simpa [lookup?, apart] using ih

theorem lookup_insertField_of_ne (apart : name ≠ other) :
    lookup? (insertField fields name d) other = lookup? fields other := by
  induction fields with
  | nil => simp [insertField, lookup?, apart]
  | cons field fields ih =>
    rw [insertField]
    split
    · next same => simp [lookup?, same, apart]
    · next differs =>
      by_cases here : field.1 = other
      · simp [lookup?, here]
      · simpa [lookup?, here] using ih

theorem lookup_append : lookup? (fields ++ more) name = (lookup? fields name).or (lookup? more name) := by
  rw [lookup?, List.find?_append, Option.map_or]
  rfl

theorem lookup_eq_none (absent : name ∉ fields.map Prod.fst) : lookup? fields name = none := by
  rw [lookup?, Option.map_eq_none_iff, List.find?_eq_none]
  intro field among same
  exact absent (beq_iff_eq.mp same ▸ List.mem_map_of_mem among)

end

end Json

namespace JsonLine
open Json

section
variable {r : LogRecord} {names : List String} {name : String} {fields : Fields} {v w : Value} {d : Json}
  {documents after : List (String × Json)}

/-! ## Putting fields in -/

private theorem lined_put (formed : lined fields = .ok documents) (line : v.toLine = .ok d) (name : String) :
    lined (put fields name v) = .ok (insertField documents name d) := by
  induction fields generalizing documents with
  | nil =>
    cases formed
    exact lined_cons_eq_ok.mpr ⟨d, [], line, rfl, rfl⟩
  | cons field fields ih =>
    obtain ⟨other, old⟩ := field
    obtain ⟨former, rest, first, onward, rfl⟩ := lined_cons_eq_ok.mp formed
    rw [put, insertField]
    split
    · exact lined_cons_eq_ok.mpr ⟨d, rest, line, onward, rfl⟩
    · exact lined_cons_eq_ok.mpr ⟨former, _, first, ih onward, rfl⟩

/-- The documents of a line after the known fields of a record under some names have been put in. -/
inductive Fills (r : LogRecord) : List String → List (String × Json) → List (String × Json) → Prop where
  | done {documents : List (String × Json)} : Fills r [] documents documents
  | absent {name : String} {names : List String} {documents after : List (String × Json)}
    (lacks : r.extra? name = none) (onward : Fills r names documents after) : Fills r (name :: names) documents after
  | field {name : String} {names : List String} {v : Value} {d : Json} {documents after : List (String × Json)}
    (has : r.extra? name = some v) (shows : shown name v = .ok d)
    (onward : Fills r names (insertField documents name d) after) : Fills r (name :: names) documents after

/-- If each field has a place in a line, they are put in one after another. -/
theorem exists_fills (formed : lined fields = .ok documents)
    (shows : ∀ name ∈ names, ∀ v, r.extra? name = some v → ∃ d, shown name v = .ok d) : ∃ whole after,
    names.foldlM (putField r) fields = .ok whole ∧ lined whole = .ok after ∧ Fills r names documents after := by
  induction names generalizing fields documents with
  | nil => exact ⟨fields, documents, rfl, formed, .done⟩
  | cons name names ih =>
    obtain ⟨here, others⟩ := List.forall_mem_cons.mp shows
    cases extra : r.extra? name with
    | none =>
      obtain ⟨whole, after, put, line, fills⟩ := ih formed others
      refine ⟨whole, after, ?_, line, .absent extra fills⟩
      rw [List.foldlM_cons, putField_absent extra]
      exact put
    | some v =>
      obtain ⟨d, stands⟩ := here v extra
      obtain ⟨w, converted, told⟩ := bind_eq_ok_iff.mp stands
      obtain ⟨whole, after, put, line, fills⟩ := ih (lined_put formed told name) others
      refine ⟨whole, after, ?_, line, .field extra stands fills⟩
      rw [List.foldlM_cons]
      refine bind_eq_ok_iff.mpr ⟨_, ?_, put⟩
      simp only [putField, extra, converted]
      rfl

/-- Names that are new come last, in their order. -/
theorem Fills.keys (fills : Fills r names documents after) (distinct : names.Nodup) :
    after.map Prod.fst = documents.map Prod.fst ++
      names.filter fun name => (r.extra? name).isSome && !(documents.map Prod.fst).contains name := by
  induction fills with
  | done => rw [List.filter_nil, List.append_nil]
  | absent lacks _ ih =>
    rw [ih distinct.of_cons, List.filter_cons_of_neg (by simp [lacks])]
  | @field name names v d documents after has _ _ ih =>
    obtain ⟨new, distinct⟩ := List.nodup_cons.mp distinct
    rw [ih distinct]
    by_cases old : name ∈ documents.map Prod.fst
    · rw [map_fst_insertField_old old, List.filter_cons_of_neg (by simp [old])]
    · rw [insertField_new old, List.map_append, List.map_cons, List.map_nil,
        List.filter_cons_of_pos (by simp [has, old]), List.append_assoc, List.singleton_append]
      refine congrArg (documents.map Prod.fst ++ name :: ·) (List.filter_congr fun other among => ?_)
      have apart : [name].contains other = false := by simpa using ne_of_mem_of_not_mem among new
      rw [List.contains_append, apart, Bool.or_false]

theorem Fills.lookup_kept (fills : Fills r names documents after) (kept : name ∉ names ∨ r.extra? name = none) :
    lookup? after name = lookup? documents name := by
  induction fills with
  | done => rfl
  | absent _ _ ih => exact ih (kept.imp_left (mt (List.mem_cons_of_mem _)))
  | @field other names v d documents after has _ _ ih =>
    have apart : other ≠ name := by
      rintro rfl
      rcases kept with new | lacks
      · exact new (List.mem_cons_self ..)
      · cases lacks.symm.trans has
    rw [ih (kept.imp_left (mt (List.mem_cons_of_mem _))), lookup_insertField_of_ne apart]

theorem Fills.lookup_field (fills : Fills r names documents after) (among : name ∈ names)
    (has : r.extra? name = some v) : ∃ d, shown name v = .ok d ∧ lookup? after name = some d := by
  induction fills with
  | done => cases among
  | @absent other names documents after lacks _ ih =>
    rcases List.mem_cons.mp among with rfl | onward
    · cases lacks.symm.trans has
    · exact ih onward
  | @field other names w d documents after found shows onward ih =>
    by_cases later : name ∈ names
    · exact ih later
    · obtain rfl := (List.mem_cons.mp among).resolve_right later
      cases found.symm.trans has
      exact ⟨d, shows, by rw [onward.lookup_kept (.inl later), lookup_insertField_self]⟩

theorem Fills.forall {holds : Json → Prop} (fills : Fills r names documents after)
    (old : ∀ field ∈ documents, holds field.2)
    (new : ∀ name ∈ names, ∀ v, r.extra? name = some v → ∀ d, shown name v = .ok d → holds d) :
    ∀ field ∈ after, holds field.2 := by
  induction fills with
  | done => exact old
  | absent _ _ ih => exact ih old (List.forall_mem_cons.mp new).2
  | field has shows _ ih =>
    obtain ⟨here, others⟩ := List.forall_mem_cons.mp new
    exact ih (forall_insertField old _ (here _ has _ shows)) others

/-! ## Records with a line -/

/-- A value for a field of numbers: a truth value, or a whole number that is one of 64 bits. -/
inductive Small : Value → Prop where
  | bool {b : Bool} : Small (.bool b)
  | int {n : Int} (small : n.natAbs < 2 ^ 53) : Small (.int n)

theorem Small.number (small : Small v) : ∃ n : Int, n.natAbs < 2 ^ 53 ∧ v.toInt = .ok n ∧
    v.toFloat = .ok (Binary64.ofRatio (n < 0) n.natAbs 1) := by
  cases small with
  | @bool b => cases b <;> exact ⟨_, by decide, rfl, rfl⟩
  | @int n small => exact ⟨n, small, rfl, by rw [toFloat_int, Binary64.ofInt?_whole small]⟩

/-- A record without a failure, whose fields of numbers hold such numbers and whose other known fields hold values that
a line can hold. -/
structure Ordinary (r : LogRecord) : Prop where
  calm : r.failure = none
  numbers : ∀ name ∈ numericFields, ∀ v, r.extra? name = some v → Small v
  others : ∀ name ∈ fieldNames, name ∉ numericFields → ∀ v, r.extra? name = some v → v.Loggable

/-- A document without repeated names that is told by its text. -/
structure Legible (d : Json) : Prop where
  fits (level : Nat) : Fits .none level d
  told : Told .line .none d

theorem legible_text (s : String) : Legible (.text s) :=
  ⟨fun _ => trivial, told_of_floatFree Style.line_standard _ rfl⟩

theorem typed_other (other : name ∉ numericFields) : typed name v = .ok v := by
  rw [numericFields, List.mem_append, not_or] at other
  simp [typed, other.1, other.2]

theorem shown_plain (other : name ∉ numericFields) (plain : name ∉ addressFields) : shown name v = v.toLine := by
  have same : safe name v = v := by
    cases v <;> simp [safe, plain]
  rw [shown, typed_other other]
  exact congrArg Value.toLine same

private theorem loggable_safe (loggable : v.Loggable) : (safe name v).Loggable := by
  unfold safe
  split
  · split
    · exact .text
    · exact loggable
  · exact loggable

/-- Every known field of such a record has a place in a line. -/
theorem Ordinary.shows (ordinary : Ordinary r) (known : name ∈ fieldNames) (has : r.extra? name = some v) :
    ∃ d, shown name v = .ok d ∧ Legible d := by
  by_cases numeric : name ∈ numericFields
  · obtain ⟨n, small, whole, nearest⟩ := (ordinary.numbers name numeric v has).number
    have short : Binary64.digitCount n.natAbs ≤ Numeral.digitLimit :=
      Nat.le_trans (Binary64.digitCount_le small) (by decide)
    rcases List.mem_append.mp numeric with field | field
    · refine ⟨.int n, ?_, fun _ => rfl, told_of_floatFree Style.line_standard _ rfl⟩
      rw [shown, typed_whole field, whole]
      exact Value.lineInt_eq_ok.mpr ⟨short, rfl⟩
    · refine ⟨.float _, ?_, fun _ => trivial, told_whole small rfl⟩
      rw [shown, typed_float field, nearest]
      rfl
  · have loggable : (safe name v).Loggable := loggable_safe (ordinary.others name known numeric v has)
    obtain ⟨d, written⟩ := loggable.exists_written
    refine ⟨d, ?_, written.fits, told_of_floatFree Style.line_standard _ written.free⟩
    rw [shown, typed_other numeric]
    exact written.encodes.toLine

end

/-! ## What a line opens with -/

section
variable {r : LogRecord} {group consumer api name text message : String}

/-- What a context attributes a line to, under the names of the fields: every text that is not empty. -/
def attributed (group consumer api : String) : List (String × String) :=
  [("consumer_group", group), ("consumer_id", consumer), ("api", api)].filter fun field => field.2 ≠ ""

/-- The names of the fields that a line opens with: the place is told when debugging and for errors only. -/
def openingNames (group consumer api : String) (r : LogRecord) : List String :=
  ["ts", "level", "logger", "message"] ++ (attributed group consumer api).map Prod.fst ++
    if r.level ∈ [Level.debug, Level.error, Level.critical] then ["file"] else []

/-- The names of the fields of a line: after those that it opens with the known ones that the record has besides. -/
def lineNames (group consumer api : String) (r : LogRecord) : List String :=
  openingNames group consumer api r ++ fieldNames.filter fun name =>
    (r.extra? name).isSome && !(openingNames group consumer api r).contains name

private theorem nodup_openingNames : (openingNames group consumer api r).Nodup := by
  have attributes : ((attributed group consumer api).map Prod.fst).Sublist ["consumer_group", "consumer_id", "api"] :=
    List.filter_sublist.map Prod.fst
  have place : (if r.level ∈ [Level.debug, Level.error, Level.critical] then ["file"] else []).Sublist ["file"] := by
    split
    · exact .refl _
    · exact List.nil_sublist _
  have among := ((List.Sublist.refl ["ts", "level", "logger", "message"]).append attributes).append place
  exact List.Nodup.sublist among (by decide)

theorem nodup_lineNames : (lineNames group consumer api r).Nodup := by
  rw [lineNames, List.nodup_append]
  refine ⟨nodup_openingNames, List.Nodup.sublist List.filter_sublist (by decide), ?_⟩
  rintro name opens _ added rfl
  simpa [opens] using (List.mem_filter.mp added).2

/-- The fields that a line opens with after its time, as texts. -/
def openingTexts (group consumer api : String) (r : LogRecord) (message : String) : List (String × String) :=
  [("level", r.level.name), ("logger", r.logger), ("message", message)] ++ attributed group consumer api ++
    if r.level ∈ [Level.debug, Level.error, Level.critical] then [("file", r.file ++ ":" ++ toString r.line)] else []

theorem map_fst_openingTexts :
    "ts" :: (openingTexts group consumer api r message).map Prod.fst = openingNames group consumer api r := by
  rw [openingTexts, openingNames, List.map_append, List.map_append]
  split <;> rfl

/-- Texts as the documents of a line. -/
def textFields (texts : List (String × String)) : List (String × Json) :=
  texts.map fun field => (field.1, .text field.2)

theorem lined_texts (texts : List (String × String)) :
    lined (texts.map fun field => (field.1, .text field.2)) = .ok (textFields texts) := by
  induction texts with
  | nil => rfl
  | cons field texts ih => exact lined_cons_eq_ok.mpr ⟨_, _, rfl, ih, rfl⟩

theorem opening_eq : opening ⟨.text group, .text consumer, .text api⟩ r message =
    (openingTexts group consumer api r message).map fun field => (field.1, .text field.2) := by
  have attributes : contextFields ⟨.text group, .text consumer, .text api⟩ =
      (attributed group consumer api).map fun field => (field.1, .text field.2) := by
    have row : ([("consumer_group", .text group), ("consumer_id", .text consumer), ("api", .text api)] : Fields) =
        [("consumer_group", group), ("consumer_id", consumer), ("api", api)].map fun field =>
          (field.1, .text field.2) := rfl
    rw [contextFields, row, List.filter_map]
    refine congrArg _ (List.filter_congr fun field _ => ?_)
    simp [Value.truthy, bne, beq_eq_decide]
  have place : placeFields r = (if r.level ∈ [Level.debug, Level.error, Level.critical]
      then [("file", r.file ++ ":" ++ toString r.line)] else []).map fun field => (field.1, .text field.2) := by
    simp only [placeFields, tellsPlace, Bool.or_eq_true, beq_iff_eq, or_assoc, List.mem_cons, List.not_mem_nil,
      or_false]
    split <;> rfl
  rw [opening, attributes, place, openingTexts, List.map_append, List.map_append]
  rfl

theorem map_fst_textFields (texts : List (String × String)) :
    (textFields texts).map Prod.fst = texts.map Prod.fst := by
  rw [textFields, List.map_map]
  rfl

/-- A text is there under its name, unless it is empty. -/
private theorem lookup_filled {texts : List (String × String)} (distinct : (texts.map Prod.fst).Nodup)
    (among : (name, text) ∈ texts) : lookup? (textFields (texts.filter fun field => field.2 ≠ "")) name =
      if text = "" then none else some (.text text) := by
  induction texts with
  | nil => cases among
  | cons field texts ih =>
    obtain ⟨new, distinct⟩ := List.nodup_cons.mp distinct
    rcases List.mem_cons.mp among with rfl | later
    · by_cases empty : text = ""
      · rw [List.filter_cons_of_neg (by simpa using empty), if_pos empty]
        refine lookup_eq_none fun member => new ?_
        rw [map_fst_textFields] at member
        exact (List.filter_sublist.map Prod.fst).subset member
      · rw [List.filter_cons_of_pos (by simpa using empty), if_neg empty]
        simp [textFields, lookup?]
    · have apart : field.1 ≠ name := fun same => new (same ▸ List.mem_map_of_mem later)
      rw [← ih distinct later, List.filter_cons]
      split
      · simp [textFields, lookup?, apart]
      · rfl

/-- The fields that hold what the context has as well. -/
theorem lookup_opening (among : (name, text) ∈ [("consumer_group", group), ("consumer_id", consumer), ("api", api)]) :
    lookup? (textFields (openingTexts group consumer api r message)) name =
      if text = "" then none else some (.text text) := by
  have known : name ∈ ["consumer_group", "consumer_id", "api"] := List.mem_map_of_mem (f := Prod.fst) among
  have head : lookup? (textFields [("level", r.level.name), ("logger", r.logger), ("message", message)]) name = none :=
    lookup_eq_none fun member => (by decide : ∀ name ∈ ["consumer_group", "consumer_id", "api"],
      name ∉ ["level", "logger", "message"]) name known member
  have last : lookup? (textFields (if r.level ∈ [Level.debug, Level.error, Level.critical]
      then [("file", r.file ++ ":" ++ toString r.line)] else [])) name = none := by
    split
    · exact lookup_eq_none fun member => (by decide : ∀ name ∈ ["consumer_group", "consumer_id", "api"],
        name ∉ ["file"]) name known member
    · rfl
  have attributes := lookup_filled (by simp) among
  unfold openingTexts textFields
  rw [List.map_append, List.map_append, lookup_append, lookup_append]
  change ((lookup? (textFields _) name).or (lookup? (textFields (attributed group consumer api)) name)).or
    (lookup? (textFields _) name) = _
  rw [head, last, attributed, attributes, Option.none_or, Option.or_none]

end

/-! ## The line of a record -/

section
variable {now : DateTime} {context : LogContext} {r : LogRecord} {group consumer api message : String}

theorem Ordinary.exists_line (ordinary : Ordinary r) (said : r.text = .ok message) (now : DateTime)
    (group consumer api : String) : ∃ after,
    format now ⟨.text group, .text consumer, .text api⟩ r = .ok (render .line (.object (timeField now :: after))) ∧
      Fills r fieldNames (textFields (openingTexts group consumer api r message)) after := by
  have opens := lined_texts (openingTexts group consumer api r message)
  rw [← opening_eq] at opens
  obtain ⟨whole, after, put, line, fills⟩ := exists_fills opens fun name known v has =>
    (ordinary.shows known has).imp fun _ => And.left
  refine ⟨after, format_eq_ok.mpr ⟨whole, after, entry_eq_ok.mpr ⟨message, whole, said, put, ?_⟩, line, rfl⟩, fills⟩
  rw [failureFields, ordinary.calm, List.append_nil]

theorem format_error {f : Fault} (unsaid : r.text = .error f) : format now context r = .error f := by
  rw [format, entry, unsaid]
  rfl

/-- The record without the fields that no line takes over. -/
def known (r : LogRecord) : LogRecord :=
  { r with extras := r.extras.filter fun field => fieldNames.contains field.1 }

private theorem extra?_known {name : String} (among : name ∈ fieldNames) : (known r).extra? name = r.extra? name := by
  have same : (r.extras.filter fun field => fieldNames.contains field.1).find? (fun field => field.1 == name) =
      r.extras.find? fun field => field.1 == name := by
    rw [List.find?_filter]
    refine congrArg (List.find? · r.extras) (funext fun field => ?_)
    by_cases here : field.1 = name
    · simp [here, among]
    · simp [here]
  rw [LogRecord.extra?, LogRecord.extra?, known, same]

private theorem foldlM_known {names : List String} {fields : Fields} (among : ∀ name ∈ names, name ∈ fieldNames) :
    names.foldlM (putField (known r)) fields = names.foldlM (putField r) fields := by
  induction names generalizing fields with
  | nil => rfl
  | cons name names ih =>
    obtain ⟨here, others⟩ := List.forall_mem_cons.mp among
    have same : putField (known r) fields name = putField r fields name := by
      rw [putField, putField, extra?_known here]
    rw [List.foldlM_cons, List.foldlM_cons, same]
    exact congrArg _ (funext fun fields => ih others)

/-- The other fields of a record have no part in its line. -/
theorem format_known (now : DateTime) (context : LogContext) (r : LogRecord) :
    format now context (known r) = format now context r := by
  have same (fields : Fields) : putExtras (known r) fields = putExtras r fields :=
    foldlM_known fun _ => id
  have entries : entry context (known r) = entry context r := by
    simp only [entry, same]
    rfl
  rw [format, format, entries]

theorem lookup_after_time {name : String} {after : List (String × Json)} (apart : name ≠ "ts") :
    lookup? (timeField now :: after) name = lookup? after name := by
  simp [lookup?, timeField, apart.symm]

section
variable {after : List (String × Json)} (ordinary : Ordinary r)
  (fills : Fills r fieldNames (textFields (openingTexts group consumer api r message)) after)
include fills

/-- The names of a line are those that belong there. -/
theorem Fills.lineNames : (timeField now :: after).map Prod.fst = lineNames group consumer api r := by
  have apart : ∀ name ∈ fieldNames, name ≠ "ts" := by decide
  rw [List.map_cons, fills.keys (by decide), map_fst_textFields, JsonLine.lineNames, ← map_fst_openingTexts,
    List.cons_append]
  refine congrArg ("ts" :: _ ++ ·) (List.filter_congr fun name known => ?_)
  rw [List.contains_cons, beq_eq_false_iff_ne.mpr (apart name known), Bool.false_or]

include ordinary

theorem Fills.legible : Legible (.object (timeField now :: after)) := by
  have each : ∀ field ∈ timeField now :: after, Legible field.2 := by
    refine List.forall_mem_cons.mpr ⟨legible_text _, fills.forall ?_ ?_⟩
    · intro field among
      obtain ⟨text, -, rfl⟩ := List.mem_map.mp among
      exact legible_text _
    · intro name known v has d shows
      obtain ⟨e, same, legible⟩ := ordinary.shows known has
      cases same.symm.trans shows
      exact legible
  have distinct : ((timeField now :: after).map Prod.fst).Nodup := fills.lineNames ▸ nodup_lineNames
  exact ⟨fun level => ⟨fun _ => rfl, distinct, fitFields_iff.mpr fun field among => (each field among).fits _⟩,
    told_object Style.line_standard fun field among => (each field among).told⟩

/-- A field of the record that the context may have as well stands in the line instead of that of the context. -/
theorem Fills.lookup_own {name : String} {v : Value} (named : name ∈ ["consumer_group", "consumer_id", "api"])
    (has : r.extra? name = some v) : ∃ d, lookup? after name = some d ∧ v.Turned d := by
  have known : ∀ name ∈ ["consumer_group", "consumer_id", "api"],
      name ∈ fieldNames ∧ name ∉ numericFields ∧ name ∉ addressFields := by decide
  obtain ⟨field, other, plain⟩ := known name named
  obtain ⟨d, shows, found⟩ := fills.lookup_field field has
  obtain ⟨e, written⟩ := (ordinary.others name field other v has).exists_written
  rw [shown_plain other plain, written.encodes.toLine] at shows
  cases shows
  exact ⟨_, found, written.turned⟩

end

/-- A record without a failure, with values that a line can hold, has a line if it has a message, and the very fault of
its message otherwise. The line is one line and one object, with the names that belong there, each of them once and in
their order. The message is what the record says. The group, the consumer and the operation are those of the record if
it has them, otherwise those of the context if these are not empty. The other fields of the record have no part in
it. -/
theorem one_object_for_each_record (now : DateTime) (group consumer api : String) (r : LogRecord)
    (ordinary : Ordinary r) :
    (∀ f, r.text = .error f → format now ⟨.text group, .text consumer, .text api⟩ r = .error f) ∧
    ∀ message, r.text = .ok message → ∃ line fields,
      format now ⟨.text group, .text consumer, .text api⟩ r = .ok line ∧
      format now ⟨.text group, .text consumer, .text api⟩ (known r) = .ok line ∧
      (∀ c ∈ line.toList, c ≠ '\n' ∧ c ≠ '\r') ∧ parse? .none line = some (.object fields) ∧
      fields.map Prod.fst = lineNames group consumer api r ∧ (lineNames group consumer api r).Nodup ∧
      lookup? fields "message" = some (.text message) ∧
      ∀ name text, (name, text) ∈ [("consumer_group", group), ("consumer_id", consumer), ("api", api)] →
        (∀ v, r.extra? name = some v → ∃ d, lookup? fields name = some d ∧ v.Turned d) ∧
        (r.extra? name = none → lookup? fields name = if text = "" then none else some (.text text)) := by
  refine ⟨fun f unsaid => format_error unsaid, fun message said => ?_⟩
  obtain ⟨after, formed, fills⟩ := ordinary.exists_line said now group consumer api
  have legible : Legible (.object (timeField now :: after)) := fills.legible ordinary
  refine ⟨_, _, formed, (format_known ..).trans formed, ?_, legible.told.parse_render (legible.fits 0),
    fills.lineNames, nodup_lineNames, ?_, ?_⟩
  · rw [render, String.toList_ofList]
    exact oneLine_write _
  · rw [lookup_after_time (by decide), fills.lookup_kept (.inl (by decide))]
    rfl
  · intro name text among
    have named : name ∈ ["consumer_group", "consumer_id", "api"] := List.mem_map_of_mem (f := Prod.fst) among
    have apart : ∀ name ∈ ["consumer_group", "consumer_id", "api"], name ≠ "ts" := by decide
    rw [lookup_after_time (apart name named)]
    refine ⟨fun v has => fills.lookup_own ordinary named has, fun lacks => ?_⟩
    rw [fills.lookup_kept (.inr lacks), lookup_opening among]

/-- A record with a consumer of its own, bytes in a set, a number of seconds, and a field that no line takes over. -/
def busyRecord : LogRecord :=
  .event "app" Level.error "a \"b\"\n" [("consumer_id", .text "own"), ("topics", .set [.bytes (Text.encode "é")]),
    ("wait_seconds", .int (-3)), ("shape", .float .nan)]

theorem busy_record_is_one_object : Ordinary busyRecord ∧ ∃ line fields,
    format newYear ⟨.text "g", .text "c", .text ""⟩ busyRecord = .ok line ∧ parse? .none line = some (.object fields) ∧
      fields.map Prod.fst = ["ts", "level", "logger", "message", "consumer_group", "consumer_id", "file", "topics",
        "wait_seconds"] ∧
      lookup? fields "message" = some (.text "a \"b\"\n") := by
  have among (name : String) (v : Value) (has : busyRecord.extra? name = some v) : (name, v) ∈ busyRecord.extras :=
    ((extra?_eq_some_iff (by decide)).mp has).1
  simp only [busyRecord, LogRecord.event, List.mem_cons, Prod.mk.injEq, List.not_mem_nil, or_false] at among
  have ordinary : Ordinary busyRecord := by
    refine ⟨rfl, fun name numeric v has => ?_, fun name known other v has => ?_⟩
    · rcases among name v has with ⟨rfl, rfl⟩ | ⟨rfl, rfl⟩ | ⟨rfl, rfl⟩ | ⟨rfl, rfl⟩
      · exact absurd numeric (by decide)
      · exact absurd numeric (by decide)
      · exact .int (by decide)
      · exact absurd numeric (by decide)
    · rcases among name v has with ⟨rfl, rfl⟩ | ⟨rfl, rfl⟩ | ⟨rfl, rfl⟩ | ⟨rfl, rfl⟩
      · exact .text
      · exact .set .bytes
      · exact absurd (by decide) other
      · exact absurd known (by decide)
  obtain ⟨line, fields, formed, -, -, reads, names, -, message, -⟩ :=
    (one_object_for_each_record newYear "g" "c" "" busyRecord ordinary).2 _ rfl
  exact ⟨ordinary, line, fields, formed, reads, names, message⟩

/-- A record whose topics are a whole number. -/
def countedRecord (n : Int) : LogRecord := .event "app" Level.info "m" [("topics", .int n)]

/-- A record with an argument that its message has no place for. -/
def overfullRecord : LogRecord := { LogRecord.event "app" Level.info "m" [] with arguments := [.int 1] }

private theorem format_countedRecord {n : Int} {f : Fault} (long : Value.lineInt n = .error f) :
    format newYear .empty (countedRecord n) = .error f := by
  have entered : entry .empty (countedRecord n) =
      .ok [("level", .text "INFO"), ("logger", .text "app"), ("message", .text "m"), ("topics", .int n)] := rfl
  rw [format, entered]
  simp [document, Value.lineFields, Value.lineKey, Value.toLine, long, bind, Except.bind, Except.map]

/-- A whole number with more digits than the limit has no place in a line, and a message with more arguments than it has
places for is none. -/
theorem some_records_have_no_line :
    format newYear .empty (countedRecord (10 ^ Numeral.digitLimit)) = .error (.badValue none) ∧
      format newYear .empty overfullRecord = .error .wrongSort :=
  ⟨format_countedRecord Value.lineInt_pow, rfl⟩

end

end JsonLine

end ConsumerChannel
