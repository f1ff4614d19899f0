import ConsumerChannel.Log.JsonLine
import Mathlib.Data.List.Forall2

/-! Masking of secrets in addresses. What an address looks like once it is masked is said without any scanner: which
labels announce a secret, how far the secret goes, and that all else is kept. No secret is left behind any label that
shows, masking twice is masking once, and addresses that differ in secrets only make the same line of a log. -/
namespace ConsumerChannel

namespace Redaction

/-! ## Labels and secrets -/

/-- The label of a secret: a separator, one of the names in any case, and the equals sign. -/
def Label (label : List Char) : Prop :=
  ∃ separator letters, (separator = '?' ∨ separator = '&') ∧ letters.map foldChar ∈ names ∧
    label = separator :: (letters ++ ['='])

/-- A text starts with a label. -/
def Labelled (s : List Char) : Prop := ∃ label tail, Label label ∧ s = label ++ tail

/-- The characters of a secret. -/
def Secret (s : List Char) : Prop := '&' ∉ s

/-- Here a secret stops: at an ampersand, or at the end. -/
def Stops (rest : List Char) : Prop := ∀ c ∈ rest.head?, c = '&'

/-- A text with the secrets behind its labels replaced, read from the left, and everything else kept. -/
inductive Masks : List Char → List Char → Prop where
  | done : Masks [] []
  | secret {label secret rest out : List Char} (announced : Label label) (free : Secret secret) (stops : Stops rest)
    (onward : Masks rest out) : Masks (label ++ secret ++ rest) (label ++ mark ++ out)
  | kept {c : Char} {rest out : List Char} (plain : ¬ Labelled (c :: rest)) (onward : Masks rest out) :
    Masks (c :: rest) (c :: out)

/-- Texts that differ in secrets behind labels only, one at a time, wherever the labels stand. -/
inductive Alike (s : List Char) : List Char → Prop where
  | same : Alike s s
  | secret {before label secret other rest : List Char} (alike : Alike s (before ++ (label ++ secret ++ rest)))
    (announced : Label label) (free : Secret secret) (otherFree : Secret other) (stops : Stops rest) :
    Alike s (before ++ (label ++ other ++ rest))

/-! ## Finding labels -/

section
variable {s out tail label other before rest secret : List Char} {c : Char}

theorem afterName?_eq_some {name spelt : List Char} :
    afterName? name s = some (spelt, tail) ↔
      ∃ letters, letters.map foldChar = name ∧ spelt = letters ++ ['='] ∧ s = letters ++ '=' :: tail := by
  induction name generalizing s spelt with
  | nil =>
    constructor
    · intro found
      cases s with
      | nil => cases found
      | cons c rest =>
        by_cases equals : c = '='
        · subst equals
          cases found
          exact ⟨[], rfl, rfl, rfl⟩
        · simp [afterName?, equals] at found
    · rintro ⟨letters, none, rfl, rfl⟩
      rw [List.map_eq_nil_iff.mp none]
      rfl
  | cons n name ih =>
    constructor
    · intro found
      cases s with
      | nil => cases found
      | cons c rest =>
        rw [afterName?] at found
        split at found
        · next same =>
          obtain ⟨⟨inner, behind⟩, onward, ⟨⟩⟩ := Option.map_eq_some_iff.mp found
          obtain ⟨letters, rfl, rfl, rfl⟩ := ih.mp onward
          exact ⟨c :: letters, by rw [List.map_cons, beq_iff_eq.mp same], rfl, rfl⟩
        · cases found
    · rintro ⟨letters, spells, rfl, rfl⟩
      obtain ⟨c, letters, rfl, same, rest⟩ := List.map_eq_cons_iff.mp spells
      rw [List.cons_append, afterName?, if_pos (beq_iff_eq.mpr same), ih.mpr ⟨letters, rest, rfl, rfl⟩]
      rfl

/-- A label is found behind its separator. -/
theorem sensitive?_eq_some_of {spelt : List Char} (found : sensitive? s = some (spelt, tail)) :
    ∃ letters, letters.map foldChar ∈ names ∧ spelt = letters ++ ['='] ∧ s = letters ++ '=' :: tail := by
  obtain ⟨name, member, inner⟩ := List.exists_of_findSome?_eq_some found
  obtain ⟨letters, rfl, apart⟩ := afterName?_eq_some.mp inner
  exact ⟨letters, member, apart⟩

theorem isSeparator_iff : isSeparator c = true ↔ c = '?' ∨ c = '&' := by simp [isSeparator]

theorem not_labelled_of_none (none : sensitive? rest = none) : ¬ Labelled (c :: rest) := by
  rintro ⟨_, tail, ⟨separator, letters, -, named, rfl⟩, whole⟩
  have found : afterName? (letters.map foldChar) rest = some (letters ++ ['='], tail) :=
    afterName?_eq_some.mpr ⟨letters, rfl, rfl, by simpa using (List.cons.inj whole).2⟩
  cases (List.findSome?_eq_none_iff.mp none _ named).symm.trans found

private theorem not_labelled_of_plain (plain : isSeparator c = false) : ¬ Labelled (c :: rest) := by
  rintro ⟨_, tail, ⟨separator, letters, separates, -, rfl⟩, whole⟩
  rw [← (List.cons.inj whole).1] at separates
  rw [isSeparator_iff.mpr separates] at plain
  cases plain

/-- A secret goes as far as it can. -/
private theorem stops_dropWhile (s : List Char) : Stops (s.dropWhile (· != '&')) := by
  intro c first
  have apart := List.head?_dropWhile_not (· != '&') s
  rw [Option.mem_def.mp first] at apart
  simpa using apart

private theorem secret_takeWhile (s : List Char) : Secret (s.takeWhile (· != '&')) := by
  intro member
  have inside := List.all_eq_true.mp (List.all_takeWhile (p := (· != '&')) (l := s)) '&' member
  cases inside

/-- What is redacted is masked. -/
theorem masks_redact (s : List Char) : Masks s (redact s) := by
  induction s using redact.induct with
  | case1 =>
    rw [redact]
    exact .done
  | case2 c rest separates spelt tail found ih =>
    obtain ⟨letters, named, rfl, rfl⟩ := sensitive?_eq_some_of found
    have announced : Label (c :: (letters ++ ['='])) := ⟨c, letters, isSeparator_iff.mp separates, named, rfl⟩
    have masked := Masks.secret announced (secret_takeWhile tail) (stops_dropWhile tail) ih
    rw [List.append_assoc, List.takeWhile_append_dropWhile] at masked
    rw [redact, if_pos separates]
    split
    · next other =>
      cases found.symm.trans other
      simpa using masked
    · next none => cases found.symm.trans none
  | case3 c rest separates none ih =>
    rw [redact, if_pos separates]
    split
    · next found => cases none.symm.trans found
    · exact .kept (not_labelled_of_none none) ih
  | case4 c rest plain ih =>
    rw [redact, if_neg plain]
    exact .kept (not_labelled_of_plain (by simpa using plain)) ih

/-! ## Where labels stand -/

/-- No character of a text separates parameters. -/
def Unbroken (run : List Char) : Prop := ∀ c ∈ run, isSeparator c = false

theorem Unbroken.append {run more : List Char} (unbroken : Unbroken run) (further : Unbroken more) :
    Unbroken (run ++ more) := fun c member => (List.mem_append.mp member).elim (unbroken c) (further c)

theorem unbroken_mark : Unbroken mark := by
  intro c member
  have each : mark.all (isSeparator · == false) = true := by decide
  exact beq_iff_eq.mp (List.all_eq_true.mp each c member)

theorem secret_mark : Secret mark := by
  unfold Secret
  decide

/-- The names are spelt with neither separators nor equals signs. -/
theorem plain_of_named {letters : List Char} (named : letters.map foldChar ∈ names) :
    ∀ c ∈ letters, isSeparator c = false ∧ c ≠ '=' := by
  intro c member
  have each : names.all (fun name => name.all fun n => n != '?' && n != '&' && n != '=') = true := by decide
  have folded := List.all_eq_true.mp (List.all_eq_true.mp each _ named) _ (List.mem_map_of_mem member)
  have other (special : Char) (same : foldChar special = special) (apart : foldChar c ≠ special) : c ≠ special := by
    rintro rfl
    exact apart same
  simp only [Bool.and_eq_true, bne_iff_ne] at folded
  obtain ⟨⟨question, ampersand⟩, equals⟩ := folded
  refine ⟨?_, other '=' rfl equals⟩
  simp [isSeparator, other '?' rfl question, other '&' rfl ampersand]

/-- Behind its separator a label goes on without another one. -/
theorem Label.exists_run (announced : Label label) :
    ∃ separator run, label = separator :: run ∧ isSeparator separator = true ∧ Unbroken run := by
  obtain ⟨separator, letters, separates, named, rfl⟩ := announced
  refine ⟨separator, letters ++ ['='], rfl, isSeparator_iff.mpr separates, ?_⟩
  refine Unbroken.append (fun c member => (plain_of_named named c member).1) ?_
  intro c member
  rw [List.mem_singleton.mp member]
  rfl

/-- Runs without a character are told from what follows them if that begins with it. -/
theorem run_unique {stop : Char} {run : List Char} (free : stop ∉ run) (otherFree : stop ∉ other)
    (stops : ∀ c ∈ tail.head?, c = stop) (otherStops : ∀ c ∈ rest.head?, c = stop)
    (same : run ++ tail = other ++ rest) : run = other ∧ tail = rest := by
  induction run generalizing other with
  | nil =>
    cases other with
    | nil => exact ⟨rfl, same⟩
    | cons c other =>
      have begins : tail = c :: (other ++ rest) := same
      rw [begins] at stops
      rw [stops c rfl] at otherFree
      exact absurd List.mem_cons_self otherFree
  | cons c run ih =>
    cases other with
    | nil =>
      have begins : rest = c :: (run ++ tail) := same.symm
      rw [begins] at otherStops
      rw [otherStops c rfl] at free
      exact absurd List.mem_cons_self free
    | cons d other =>
      obtain ⟨rfl, inner⟩ := List.cons.inj same
      obtain ⟨rfl, rfl⟩ := ih (fun member => free (.tail _ member)) (fun member => otherFree (.tail _ member)) inner
      exact ⟨rfl, rfl⟩

theorem Label.labelled (announced : Label label) : Labelled (label ++ secret ++ rest) :=
  ⟨label, secret ++ rest, announced, List.append_assoc ..⟩

/-- A text begins with one label at most. -/
theorem Label.unique (announced : Label label) (again : Label other) (same : label ++ tail = other ++ rest) :
    label = other ∧ tail = rest := by
  obtain ⟨separator, letters, -, named, rfl⟩ := announced
  obtain ⟨second, spelt, -, renamed, rfl⟩ := again
  obtain ⟨rfl, -⟩ := List.cons.inj same
  have inner : letters ++ '=' :: tail = spelt ++ '=' :: rest := by simpa using same
  have first : '=' ∉ letters := fun member => (plain_of_named named _ member).2 rfl
  have last : '=' ∉ spelt := fun member => (plain_of_named renamed _ member).2 rfl
  obtain ⟨rfl, behind⟩ := run_unique first last (by simp) (by simp) inner
  exact ⟨rfl, (List.cons.inj behind).2⟩

/-- A label that stands in a text behind an unbroken run stands behind the whole run. -/
theorem Unbroken.exists_front {run : List Char} (unbroken : Unbroken run) (separates : isSeparator c = true)
    (whole : run ++ out = before ++ c :: rest) : ∃ front, before = run ++ front ∧ out = front ++ c :: rest := by
  rcases List.append_eq_append_iff.mp whole with ⟨front, rfl, found⟩ | ⟨front, rfl, found⟩
  · exact ⟨front, rfl, found⟩
  · cases front with
    | nil => exact ⟨[], by simp, by simpa using found.symm⟩
    | cons first more =>
      obtain ⟨rfl, -⟩ := List.cons.inj found
      rw [unbroken c (by simp)] at separates
      cases separates

/-! ## Masked texts -/

/-- Masking keeps what comes first. -/
theorem Masks.stops (masks : Masks s out) (stops : Stops s) : Stops out := by
  cases masks with
  | done => exact stops
  | kept plain onward => exact stops
  | secret announced free ends onward =>
    obtain ⟨separator, run, rfl, -⟩ := announced.exists_run
    exact stops

/-- An unbroken run that shows was there before. -/
theorem Masks.exists_tail {run : List Char} (unbroken : Unbroken run) (masks : Masks s (run ++ tail)) :
    ∃ rest, s = run ++ rest := by
  induction run generalizing s with
  | nil => exact ⟨s, rfl⟩
  | cons c run ih =>
    generalize shown : c :: run ++ tail = out at masks
    cases masks with
    | done => cases shown
    | kept plain onward =>
      obtain ⟨rfl, rfl⟩ := List.cons.inj shown
      obtain ⟨rest, rfl⟩ := ih (fun c member => unbroken c (.tail _ member)) onward
      exact ⟨rest, rfl⟩
    | secret announced free stops onward =>
      obtain ⟨separator, run', rfl, separates, -⟩ := announced.exists_run
      rw [← (List.cons.inj shown).1, unbroken c List.mem_cons_self] at separates
      cases separates

/-- A character that is kept starts no label in what is shown. -/
theorem Masks.not_labelled (masks : Masks s out) (plain : ¬ Labelled (c :: s)) : ¬ Labelled (c :: out) := by
  rintro ⟨label, tail, announced, whole⟩
  obtain ⟨separator, run, rfl, -, unbroken⟩ := announced.exists_run
  obtain ⟨rfl, rfl⟩ := List.cons.inj whole
  obtain ⟨rest, rfl⟩ := masks.exists_tail unbroken
  exact plain ⟨_, rest, announced, rfl⟩

/-- Behind every label that shows stands the mark, and nothing else up to the next ampersand. -/
theorem Masks.marked (masks : Masks s out) (announced : Label label) (shows : out = before ++ (label ++ rest)) :
    ∃ more, rest = mark ++ more ∧ Stops more := by
  obtain ⟨separator, run, rfl, separates, unbroken⟩ := announced.exists_run
  induction masks generalizing before with
  | done => simp at shows
  | @kept c s out plain onward ih =>
    cases before with
    | nil => exact absurd ⟨_, rest, announced, shows⟩ (onward.not_labelled plain)
    | cons first before => exact ih (List.cons.inj shows).2
  | @secret other secret s out otherAnnounced free stops onward ih =>
    obtain ⟨second, otherRun, rfl, otherSeparates, otherUnbroken⟩ := otherAnnounced.exists_run
    cases before with
    | nil =>
      rw [List.append_assoc] at shows
      obtain ⟨-, rfl⟩ := otherAnnounced.unique announced shows
      exact ⟨out, rfl, onward.stops stops⟩
    | cons first before =>
      have inner : (otherRun ++ mark) ++ out = before ++ separator :: (run ++ rest) := by
        simpa using (List.cons.inj shows).2
      obtain ⟨front, -, further⟩ := (otherUnbroken.append unbroken_mark).exists_front separates inner
      exact ih further

/-- What is masked is masked already. -/
theorem Masks.again (masks : Masks s out) : Masks out out := by
  induction masks with
  | done => exact .done
  | kept plain onward ih => exact .kept (onward.not_labelled plain) ih
  | secret announced free stops onward ih => exact .secret announced secret_mark (onward.stops stops) ih

/-- There is one way to mask a text. -/
theorem Masks.unique (masks : Masks s out) (again : Masks s other) : other = out := by
  induction masks generalizing other with
  | done =>
    generalize nothing : [] = s at again
    cases again with
    | done => rfl
    | kept plain onward => cases nothing
    | secret announced free stops onward =>
      obtain ⟨separator, run, rfl, -⟩ := announced.exists_run
      cases nothing
  | @kept c s out plain onward ih =>
    generalize whole : c :: s = text at again
    cases again with
    | done => cases whole
    | kept otherPlain further =>
      cases whole
      rw [ih further]
    | secret announced free stops further => exact (plain (whole ▸ announced.labelled)).elim
  | @secret label secret s out announced free stops onward ih =>
    generalize whole : label ++ secret ++ s = text at again
    cases again with
    | done =>
      obtain ⟨separator, run, rfl, -⟩ := announced.exists_run
      cases whole
    | kept plain further => exact (plain (whole ▸ announced.labelled)).elim
    | secret otherAnnounced otherFree otherStops further =>
      rw [List.append_assoc, List.append_assoc] at whole
      obtain ⟨rfl, inner⟩ := announced.unique otherAnnounced whole
      obtain ⟨-, rfl⟩ := run_unique free otherFree stops otherStops inner
      rw [ih further]

/-! ## Texts that differ in secrets -/

theorem Secret.append {front more : List Char} (free : Secret front) (further : Secret more) :
    Secret (front ++ more) := fun member => (List.mem_append.mp member).elim free further

/-- A label with its secret stands behind another secret, or it is part of it together with its own. -/
theorem Secret.behind_or_inside {hidden front : List Char} (hides : Secret hidden) (ends : Stops s)
    (announced : Label label) (free : Secret secret) (stops : Stops rest)
    (whole : hidden ++ s = front ++ (label ++ secret ++ rest)) :
    (∃ more, front = hidden ++ more ∧ s = more ++ (label ++ secret ++ rest)) ∨
      hidden = front ++ (label ++ secret) ∧ s = rest ∧ Secret label := by
  obtain ⟨separator, run, rfl, -, unbroken⟩ := announced.exists_run
  rcases List.append_eq_append_iff.mp whole with ⟨more, rfl, later⟩ | ⟨inside, rfl, begins⟩
  · exact .inl ⟨more, rfl, later⟩
  · cases inside with
    | nil => exact .inl ⟨[], by simp, begins.symm⟩
    | cons d inside =>
      obtain ⟨rfl, -⟩ := List.cons.inj begins
      have free' : Secret (separator :: run) := by
        intro member
        rcases List.mem_cons.mp member with same | member
        · exact hides (by simp [← same])
        · cases unbroken _ member
      have within : Secret (separator :: inside) := fun member => hides (List.mem_append_right _ member)
      obtain ⟨same, rfl⟩ := run_unique (free'.append free) within stops ends begins
      exact .inr ⟨congrArg (front ++ ·) same.symm, rfl, free'⟩

/-- A label that begins in front of another label ends before the secret of that one. -/
private theorem not_labelled_other (announced : Label label)
    (plain : ¬ Labelled (c :: (before ++ (label ++ secret ++ rest)))) :
    ¬ Labelled (c :: (before ++ (label ++ other ++ rest))) := by
  obtain ⟨separator, run, begins, separates, -⟩ := announced.exists_run
  rintro ⟨second, tail, otherAnnounced, starts⟩
  obtain ⟨_, otherRun, rfl, -, otherUnbroken⟩ := otherAnnounced.exists_run
  obtain ⟨rfl, inner⟩ := List.cons.inj starts
  rw [begins] at inner
  obtain ⟨front, rfl, -⟩ := otherUnbroken.exists_front separates inner.symm
  exact plain ⟨_, _, otherAnnounced, congrArg (c :: ·) (List.append_assoc ..)⟩

private theorem stops_other (announced : Label label) (stops : Stops (before ++ (label ++ secret ++ rest))) :
    Stops (before ++ (label ++ other ++ rest)) := by
  obtain ⟨separator, run, rfl, -⟩ := announced.exists_run
  cases before with
  | nil => exact stops
  | cons c before => exact stops

/-- Another secret behind a label makes no difference to what is shown, wherever the label stands. -/
theorem Masks.other_secret (masks : Masks s out) (announced : Label label) (free : Secret secret)
    (otherFree : Secret other) (stops : Stops rest) (whole : s = before ++ (label ++ secret ++ rest)) :
    Masks (before ++ (label ++ other ++ rest)) out := by
  obtain ⟨separator, run, begins, separates, -⟩ := announced.exists_run
  induction masks generalizing before with
  | done => simp [begins] at whole
  | @kept c s out plain onward ih =>
    cases before with
    | nil => exact (plain (whole ▸ announced.labelled)).elim
    | cons first before =>
      obtain ⟨rfl, rfl⟩ := List.cons.inj whole
      exact .kept (not_labelled_other announced plain) (ih rfl)
  | @secret second hidden s out otherAnnounced hides ends onward ih =>
    cases before with
    | nil =>
      rw [List.nil_append, List.append_assoc, List.append_assoc] at whole
      obtain ⟨rfl, inner⟩ := otherAnnounced.unique announced whole
      obtain ⟨-, rfl⟩ := run_unique hides free ends stops inner
      exact .secret announced otherFree stops onward
    | cons first before =>
      obtain ⟨c, otherRun, rfl, -, otherUnbroken⟩ := otherAnnounced.exists_run
      obtain ⟨rfl, inner⟩ := List.cons.inj whole
      rw [begins] at inner
      obtain ⟨front, rfl, behind⟩ :=
        otherUnbroken.exists_front separates ((List.append_assoc ..).symm.trans inner)
      have behind : hidden ++ s = front ++ (label ++ secret ++ rest) := by
        rw [begins]
        exact behind
      rcases hides.behind_or_inside ends announced free stops behind with
        ⟨more, rfl, rfl⟩ | ⟨rfl, rfl, labelFree⟩
      · have shown := Masks.secret otherAnnounced hides (stops_other announced ends) (ih rfl)
        simpa using shown
      · -- The label stands in a secret itself, so that all of it is hidden by the mark in front.
        have wider : Secret (front ++ (label ++ other)) :=
          Secret.append (fun member => hides (List.mem_append_left _ member)) (labelFree.append otherFree)
        have shown := Masks.secret otherAnnounced wider ends onward
        simpa using shown

theorem Alike.masks (alike : Alike s other) (masks : Masks s out) : Masks other out := by
  induction alike with
  | same => exact masks
  | secret alike announced free otherFree stops ih => exact ih.other_secret announced free otherFree stops rfl

end

end Redaction

namespace JsonLine
open Redaction

/-! ## Lines -/

/-- Fields of two records that are the same, or addresses that differ in secrets only. -/
inductive SameField : String × Value → String × Value → Prop where
  | same {field : String × Value} : SameField field field
  | address {u v : String} (alike : Alike u.toList v.toList) : SameField ("http_url", .text u) ("http_url", .text v)

section
variable {r : LogRecord} {others : List (String × Value)}

theorem redactText_alike {u v : String} (alike : Alike u.toList v.toList) : redactText v = redactText u :=
  congrArg String.ofList ((alike.masks (masks_redact _)).unique (masks_redact _))

/-- A field of two records is the same, or it holds an address in both. -/
private theorem find_alike {extras : List (String × Value)} (same : List.Forall₂ SameField extras others)
    (name : String) :
    others.find? (fun pair => pair.1 == name) = extras.find? (fun pair => pair.1 == name) ∨
      name = "http_url" ∧ ∃ u v, Alike u.toList v.toList ∧
        extras.find? (fun pair => pair.1 == name) = some (name, .text u) ∧
        others.find? (fun pair => pair.1 == name) = some (name, .text v) := by
  induction same with
  | nil => exact .inl rfl
  | @cons field other extras others head tail ih =>
    cases head with
    | same =>
      by_cases here : field.1 = name
      · exact .inl (by rw [List.find?_cons_of_pos (by simp [here]), List.find?_cons_of_pos (by simp [here])])
      · rwa [List.find?_cons_of_neg (by simp [here]), List.find?_cons_of_neg (by simp [here])]
    | @address u v alike =>
      by_cases here : name = "http_url"
      · subst here
        exact .inr ⟨rfl, u, v, alike, rfl, rfl⟩
      · have apart : ("http_url" == name) = false := beq_eq_false_iff_ne.mpr (Ne.symm here)
        rwa [List.find?_cons_of_neg (by simp [apart]), List.find?_cons_of_neg (by simp [apart])]

private theorem putExtras_alike (same : List.Forall₂ SameField r.extras others) (fields : Fields) :
    putExtras { r with extras := others } fields = putExtras r fields := by
  unfold putExtras
  refine congrArg (fun put => List.foldlM put fields fieldNames) ?_
  funext fields name
  unfold LogRecord.extra?
  rcases find_alike same name with found | ⟨rfl, u, v, alike, first, second⟩
  · rw [found]
  · rw [first, second]
    show Except.ok (put fields "http_url" (.text (redactText v))) =
      Except.ok (put fields "http_url" (.text (redactText u)))
    rw [redactText_alike alike]

private theorem format_alike (same : List.Forall₂ SameField r.extras others) (now : DateTime) (context : LogContext) :
    format now context { r with extras := others } = format now context r := by
  unfold format entry
  simp only [putExtras_alike same]
  rfl

private theorem masks_redactText (address : String) : Masks address.toList (redactText address).toList := by
  rw [redactText, String.toList_ofList]
  exact masks_redact _

/-- Behind every label that shows in a masked address stands the mark, up to the next ampersand or the end. The masked
address is the address with the secrets replaced and all else kept, and no other text is. Masking it again changes
nothing, addresses that differ in secrets only are masked alike, and records with such addresses make the same line. -/
theorem secrets_do_not_show (address : String) :
    (∀ before label rest, (redactText address).toList = before ++ (label ++ rest) → Label label →
      ∃ more, rest = mark ++ more ∧ Stops more) ∧
    (∀ masked : String, redactText address = masked ↔ Masks address.toList masked.toList) ∧
    redactText (redactText address) = redactText address ∧
    (∀ other : String, Alike address.toList other.toList → redactText other = redactText address) ∧
    ∀ (now : DateTime) (context : LogContext) (r : LogRecord) (others : List (String × Value)),
      List.Forall₂ SameField r.extras others →
      format now context { r with extras := others } = format now context r := by
  have masks := masks_redactText address
  have exact (masked : String) (again : Masks address.toList masked.toList) : redactText address = masked :=
    String.toList_inj.mp (again.unique masks)
  refine ⟨fun before label rest shows announced => masks.marked announced shows, fun masked => ⟨?_, exact masked⟩, ?_,
    fun other alike => redactText_alike alike, fun now context r others same => format_alike same now context⟩
  · rintro rfl
    exact masks
  · exact String.toList_inj.mp (masks.again.unique (masks_redactText _))

/-- A secret that looks like another parameter, one in another case, and one that was masked before. -/
example : redactText "https://h/p?token=a?key=b&SIG=c#d&x=1&auth=[REDACTED]" =
    "https://h/p?token=[REDACTED]&SIG=[REDACTED]&x=1&auth=[REDACTED]" := by decide +kernel

end

end JsonLine

end ConsumerChannel
