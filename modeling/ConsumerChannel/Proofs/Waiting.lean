import ConsumerChannel.Proofs.Holdings
import ConsumerChannel.Proofs.Outcomes
import Mathlib.Algebra.Order.Field.Power
import Mathlib.Algebra.Order.Field.Rat
import Mathlib.Algebra.Order.Monoid.Unbundled.WithTop

/-! How long a channel waits. Settings are made only if the period is above zero and the timeout not below it, as the
numbers that are meant; what is no number passes both tests. A channel sleeps for nothing but its period, and asks for
records with nothing but its timeout. -/
namespace ConsumerChannel

/-! ## Numbers -/

namespace Binary64

/-- The number that is meant, between the infinities; nothing for no number. -/
def amount? : Binary64 → Option (WithBot (WithTop ℚ))
  | nan => none
  | infinity negative => some (if negative then ⊥ else ((⊤ : WithTop ℚ) : WithBot (WithTop ℚ)))
  | finite negative significand exponent _ =>
    some (((if negative then -1 else 1) * significand * 2 ^ exponent : ℚ) : WithTop ℚ)

private theorem size_pos {significand : Nat} (exponent : Int) (some : significand ≠ 0) :
    0 < (significand : ℚ) * 2 ^ exponent :=
  mul_pos (Nat.cast_pos.mpr (Nat.pos_of_ne_zero some)) (zpow_pos two_pos exponent)

theorem sign?_of_amount? {x : Binary64} {a : WithBot (WithTop ℚ)} (meant : x.amount? = some a) :
    x.sign? = some 1 ∧ 0 < a ∨ x.sign? = some 0 ∧ a = 0 ∨ x.sign? = some (-1) ∧ a < 0 := by
  cases x with
  | nan => cases meant
  | infinity negative =>
    cases meant
    cases negative with
    | true => exact .inr (.inr ⟨rfl, WithBot.bot_lt_coe _⟩)
    | false => exact .inl ⟨rfl, WithBot.coe_lt_coe.mpr (WithTop.coe_lt_top _)⟩
  | finite negative significand exponent canonical =>
    cases meant
    by_cases nothing : significand = 0
    · refine .inr (.inl ⟨by simp [sign?, nothing], ?_⟩)
      rw [nothing, Nat.cast_zero, mul_zero, zero_mul]
      rfl
    · have size := size_pos exponent nothing
      cases negative with
      | true =>
        refine .inr (.inr ⟨by simp [sign?, nothing], WithBot.coe_lt_coe.mpr (WithTop.coe_lt_coe.mpr ?_)⟩)
        rw [if_pos rfl, neg_one_mul, neg_mul]
        exact neg_neg_of_pos size
      | false =>
        refine .inl ⟨by simp [sign?, nothing], WithBot.coe_lt_coe.mpr (WithTop.coe_lt_coe.mpr ?_)⟩
        rwa [if_neg Bool.false_ne_true, one_mul]

end Binary64

namespace Value

/-- A truth value, a whole number or a floating-point number. -/
def IsNumber : Value → Prop
  | bool _ | int _ | float _ => True
  | _ => False

/-- The number that is meant, between the infinities; truth values count as one and zero. -/
def amount? : Value → Option (WithBot (WithTop ℚ))
  | bool b => some (((if b then 1 else 0 : ℚ) : WithTop ℚ) : WithBot (WithTop ℚ))
  | int n => some (((n : ℚ) : WithTop ℚ) : WithBot (WithTop ℚ))
  | float x => x.amount?
  | _ => none

/-- A number above zero. -/
def Positive (v : Value) : Prop := ∃ a, v.amount? = some a ∧ 0 < a

/-- A number that is not below zero. -/
def NonNegative (v : Value) : Prop := ∃ a, v.amount? = some a ∧ 0 ≤ a

section
variable {v : Value}

theorem sign_of_amount? {a : WithBot (WithTop ℚ)} (meant : v.amount? = some a) :
    v.sign 1 = .ok 1 ∧ 0 < a ∨ v.sign 1 = .ok 0 ∧ a = 0 ∨ v.sign 1 = .ok (-1) ∧ a < 0 := by
  cases v with
  | bool b =>
    cases meant
    cases b with
    | true => exact .inl ⟨rfl, by simp⟩
    | false => exact .inr (.inl ⟨rfl, rfl⟩)
  | int n =>
    cases meant
    rcases Int.lt_trichotomy n 0 with below | rfl | above
    · refine .inr (.inr ⟨congrArg Except.ok (Int.sign_eq_neg_one_of_neg below), ?_⟩)
      exact WithBot.coe_lt_coe.mpr (WithTop.coe_lt_coe.mpr (Int.cast_lt_zero.mpr below))
    · exact .inr (.inl ⟨rfl, rfl⟩)
    · refine .inl ⟨congrArg Except.ok (Int.sign_eq_one_of_pos above), ?_⟩
      exact WithBot.coe_lt_coe.mpr (WithTop.coe_lt_coe.mpr (Int.cast_pos.mpr above))
  | float x =>
    rcases Binary64.sign?_of_amount? meant with ⟨sign, above⟩ | ⟨sign, same⟩ | ⟨sign, below⟩
    · exact .inl ⟨by simp [Value.sign, sign], above⟩
    · exact .inr (.inl ⟨by simp [Value.sign, sign], same⟩)
    · exact .inr (.inr ⟨by simp [Value.sign, sign], below⟩)
  | _ => cases meant

/-- A number is no number, or it has an amount. -/
theorem IsNumber.cases (number : v.IsNumber) : v = .float .nan ∨ ∃ a, v.amount? = some a := by
  cases v with
  | bool | int => exact .inr ⟨_, rfl⟩
  | float x =>
    cases x with
    | nan => exact .inl rfl
    | infinity | finite => exact .inr ⟨_, rfl⟩
  | _ => exact number.elim

/-- With an amount, a value either has one of a kind or is no number just if its own is of that kind. -/
theorem exists_amount_or_nan_iff {a : WithBot (WithTop ℚ)} {p : WithBot (WithTop ℚ) → Prop}
    (meant : v.amount? = some a) : (∃ b, v.amount? = some b ∧ p b) ∨ v = .float .nan ↔ p a := by
  constructor
  · rintro (⟨b, same, holds⟩ | rfl)
    · cases meant.symm.trans same
      exact holds
    · cases meant
  · exact fun holds => .inl ⟨a, meant, holds⟩

/-- A test for what is zero or less lets every other number pass, and what is no number. -/
theorem isNonPositive_eq_false (number : v.IsNumber) :
    v.isNonPositive = .ok false ↔ v.Positive ∨ v = .float .nan := by
  rcases number.cases with rfl | ⟨a, meant⟩
  · exact iff_of_true rfl (.inr rfl)
  · rw [Positive, exists_amount_or_nan_iff meant]
    unfold isNonPositive
    rcases sign_of_amount? meant with ⟨sign, above⟩ | ⟨sign, rfl⟩ | ⟨sign, below⟩
    · rw [sign]
      exact iff_of_true rfl above
    · rw [sign]
      exact iff_of_false nofun (lt_irrefl 0)
    · rw [sign]
      exact iff_of_false nofun (lt_asymm below)

/-- A test for what is below zero lets every other number pass, and what is no number. -/
theorem isNegative_eq_false (number : v.IsNumber) :
    v.isNegative = .ok false ↔ v.NonNegative ∨ v = .float .nan := by
  rcases number.cases with rfl | ⟨a, meant⟩
  · exact iff_of_true rfl (.inr rfl)
  · rw [NonNegative, exists_amount_or_nan_iff meant]
    unfold isNegative
    rcases sign_of_amount? meant with ⟨sign, above⟩ | ⟨sign, rfl⟩ | ⟨sign, below⟩
    · rw [sign]
      exact iff_of_true rfl above.le
    · rw [sign]
      exact iff_of_true rfl le_rfl
    · rw [sign]
      exact iff_of_false nofun (not_le_of_gt below)

end

end Value

namespace Settings

/-! ## Settings that are made -/

section
variable {s t : Settings} {extra : Value} {arguments : List (String × Value)}

/-- The extra entries that a value makes: none if it counts as false. -/
def entriesOf (extra : Value) : Except Fault (List (Value × Value)) :=
  if extra.truthy then dictOf extra else .ok []

theorem check_eq_ok : check s extra = .ok t ↔
    s.stopPeriod.isNonPositive = .ok false ∧ s.consumeTimeout.isNegative = .ok false ∧
      ∃ entries, entriesOf extra = .ok entries ∧ t = { s with extra := entries } := by
  have unfolds : check s extra = (do
      let short ← s.stopPeriod.isNonPositive
      if short then throw (.badValue (some ("stop_wait_period must be > 0, got " ++ s.stopPeriod.plain)))
      let below ← s.consumeTimeout.isNegative
      if below then throw (.badValue (some ("consume_timeout_ms must be >= 0, got " ++ s.consumeTimeout.plain)))
      let entries ← entriesOf extra
      return { s with extra := entries }) := by
    unfold check entriesOf
    cases extra.truthy <;> rfl
  rw [unfolds]
  constructor
  · intro made
    obtain ⟨short, period, made⟩ := bind_eq_ok_iff.mp made
    cases short with
    | true => cases made
    | false =>
      obtain ⟨below, timeout, made⟩ := bind_eq_ok_iff.mp made
      cases below with
      | true => cases made
      | false =>
        obtain ⟨entries, extras, ⟨⟩⟩ := bind_eq_ok_iff.mp made
        exact ⟨period, timeout, entries, extras, rfl⟩
  · rintro ⟨period, timeout, entries, extras, rfl⟩
    rw [period, timeout, extras]
    rfl

/-- The value of an argument, or another if it is not given. -/
def argument (arguments : List (String × Value)) (name : String) (default : Value) : Value :=
  ((arguments.find? fun pair => pair.1 == name).map Prod.snd).getD default

/-- The settings that arguments say, with the entries that are made of the extra ones. -/
def said (arguments : List (String × Value)) (entries : List (Value × Value)) : Settings where
  base := argument arguments "base" .null
  group := argument arguments "consumer_group" .null
  pathPrefix := argument arguments "path_prefix" .null
  consumerPathPrefix := argument arguments "consumer_path_prefix" .null
  retryOnFail := argument arguments "retry_on_fail" (.bool false)
  certificates := argument arguments "verify_cert_bundle" (.text "")
  extra := entries
  stopPeriod := argument arguments "stop_wait_period" defaultStopPeriod
  consumeTimeout := argument arguments "consume_timeout_ms" (.int 0)

/-- The names of arguments are known, and the address is among them. -/
structure WellNamed (arguments : List (String × Value)) : Prop where
  known : ∀ pair ∈ arguments, pair.1 ∈ argumentNames
  address : ∃ pair ∈ arguments, pair.1 = "base"

theorem ofArguments_eq_ok : ofArguments arguments = .ok s ↔ WellNamed arguments ∧
    check (said arguments []) (argument arguments "extra_configs" .null) = .ok s := by
  have known : arguments.any (fun pair => !argumentNames.contains pair.1) = false ↔
      ∀ pair ∈ arguments, pair.1 ∈ argumentNames := by simp
  have address : (!arguments.any (fun pair => pair.1 == "base")) = false ↔ ∃ pair ∈ arguments, pair.1 = "base" := by
    simp
  unfold ofArguments
  split
  · next unknown =>
    refine iff_of_false nofun fun made => ?_
    rw [known.mpr made.1.known] at unknown
    cases unknown
  · next named =>
    split
    · next missing =>
      refine iff_of_false nofun fun made => ?_
      rw [address.mpr made.1.address] at missing
      cases missing
    · next given =>
      have well : WellNamed arguments :=
        ⟨known.mp (Bool.eq_false_iff.mpr named), address.mp (Bool.eq_false_iff.mpr given)⟩
      exact ⟨fun made => ⟨well, made⟩, And.right⟩

/-- The settings of a section have a floating-point number for the period and a whole number for the timeout. -/
theorem ofSection_eq_ok {v : Value} (made : ofSection v = .ok s) :
    ∃ x n, s.stopPeriod = .float x ∧ s.consumeTimeout = .int n ∧ s.stopPeriod.isNonPositive = .ok false ∧
      s.consumeTimeout.isNegative = .ok false := by
  cases v with
  | dict entries =>
    simp only [ofSection] at made
    split at made
    · cases made
    · obtain ⟨x, period, made⟩ := bind_eq_ok_iff.mp made
      obtain ⟨n, timeout, made⟩ := bind_eq_ok_iff.mp made
      obtain ⟨long, patient, extras, -, rfl⟩ := check_eq_ok.mp made
      exact ⟨x, n, rfl, rfl, long, patient⟩
  | _ => cases made

/-- The period is above zero and the timeout not below it, where they are numbers. -/
structure Bounded (s : Settings) : Prop where
  period : s.stopPeriod.Positive ∨ s.stopPeriod = .float .nan
  timeout : s.consumeTimeout.NonNegative ∨ s.consumeTimeout = .float .nan

end

end Settings

namespace Channel
open Operation

/-! ## What a channel waits for -/

/-- A question that lets nobody wait but as the settings say: a sleep is for their period, and a request for records
has their timeout. -/
def Query.WaitsAsSet (settings : Settings) : Query → Prop
  | .outside (.sleep seconds) => seconds = settings.stopPeriod
  | .outside (.send _ request) => request.method = .get → ∃ id, request = .pull settings id settings.consumeTimeout
  | _ => True

/-- What operations are held to that are to wait as the settings say, whatever they are answered. -/
def waiting (settings : Settings) : Discipline Unit where
  permits _ q := q.WaitsAsSet settings
  allows _ _ _ := True
  after _ _ _ := ()

/-- Whatever it is answered, an operation waits as the settings say. -/
abbrev WaitsAsSet (settings : Settings) (operation : Operation α) : Prop :=
  Balances (waiting settings) (fun _ => True) operation

section
variable {settings : Settings}

theorem waits_step (s : Step) : WaitsAsSet settings (step s) := fun _ _ => ⟨trivial, fun _ _ => rfl⟩

theorem waits_session : WaitsAsSet settings session := waits_step .session

theorem waits_flags : WaitsAsSet settings flags := waits_step .flags

theorem waits_log (level : Level) (message : String) (extras : List (String × Value)) :
    WaitsAsSet settings (log level message extras) := fun _ _ => ⟨trivial, fun _ _ => rfl⟩

theorem waits_release : WaitsAsSet settings release := fun _ _ => ⟨trivial, fun _ _ => rfl⟩

theorem waits_closeTransport : WaitsAsSet settings closeTransport :=
  fun _ _ => ⟨trivial, fun _ _ => ⟨trivial, fun _ _ => rfl⟩⟩

theorem waits_openTransport : WaitsAsSet settings openTransport :=
  Balances.bind (fun _ _ => ⟨trivial, fun _ _ => rfl⟩) fun n => waits_step (.useTransport n)

theorem waits_reset (api : Api) : WaitsAsSet settings (reset api) := by
  refine Balances.bind (fun _ _ => ⟨trivial, fun _ _ => rfl⟩) fun _ => Balances.bind (waits_step .transport) fun n => ?_
  exact Balances.bind (fun _ _ => ⟨trivial, fun _ _ => rfl⟩) fun _ => fun _ _ => ⟨trivial, fun _ _ => rfl⟩

theorem waits_send (request : Request)
    (permitted : ∀ n, Query.WaitsAsSet settings (.outside (.send n request))) :
    WaitsAsSet settings (send request) :=
  Balances.bind (waits_step .transport) fun n => fun _ _ => ⟨permitted n, fun _ _ => rfl⟩

theorem waits_sendFor (api : Api) (method : Method) (path : String) (body : Option String)
    (permitted : ∀ n, Query.WaitsAsSet settings (.outside (.send n ⟨method, path, body, .ofApi api⟩))) :
    WaitsAsSet settings (sendFor api method path body) := (waits_send _ permitted).rescue fun _ => balances_throw _

/-- Nobody waits for records that are not asked for. -/
theorem waits_posted (api : Api) (path : String) (body : Option String) :
    WaitsAsSet settings (sendFor api .post path body) := waits_sendFor api .post path body fun _ => nofun

theorem waits_acquireActive (api : String) : WaitsAsSet settings (acquireActive api) := by
  refine Balances.bind (fun _ _ => ⟨trivial, fun _ _ => rfl⟩) fun _ => waits_session.bind fun s => ?_
  split
  · exact waits_release.bind fun _ => balances_throw _
  · exact balances_pure _

theorem waits_inContext {change : LogContext.Change} {body : Operation α} (waits : WaitsAsSet settings body) :
    WaitsAsSet settings (inContext change body) :=
  Balances.bind (waits_step .context) fun _ => Balances.bind (waits_step _) fun _ =>
    waits.ensuring (waits_step _)

theorem waits_named {api : Api} {body : Operation α} (waits : WaitsAsSet settings body) :
    WaitsAsSet settings (named settings api body) :=
  (waits_acquireActive _).bind fun _ =>
    (waits_session.bind fun _ => waits_inContext waits).ensuring waits_release

theorem waits_understand (api : Api) (reader : String → Checked α) (answer : Option String) :
    WaitsAsSet settings (understand api reader answer) := by
  unfold understand
  split
  · exact balances_throw _
  · exact balances_throw _
  · split
    · exact balances_pure _
    · exact balances_throw _

theorem waits_create : WaitsAsSet settings (create settings) := by
  refine waits_named ?_
  cases settings.group.truthy with
  | false => exact balances_throw_bind _ _
  | true =>
    refine (waits_reset .create).bind fun _ => (balances_written _ _).bind fun body => ?_
    refine (waits_posted _ _ _).bind fun answer => (waits_understand _ _ _).bind fun created => ?_
    exact Balances.bind (fun _ _ => ⟨trivial, fun _ _ => rfl⟩) fun _ => Balances.bind (waits_step _) fun _ =>
      waits_log _ _ _

theorem waits_subscribeHeld (wanted : List Value) : WaitsAsSet settings (subscribeHeld settings wanted) := by
  have records : WaitsAsSet settings (replaceTopics wanted .subscribe) := fun _ _ => ⟨trivial, fun _ _ => rfl⟩
  unfold subscribeHeld
  refine (waits_session.consumerPath _ _).bind fun path => (balances_written _ _).bind fun body => ?_
  refine (waits_posted _ _ _).bind fun _ => records.bind fun _ => ?_
  exact waits_session.bind fun _ => waits_log _ _ _

theorem waits_subscribe (topics : Topics) : WaitsAsSet settings (subscribe settings topics) := by
  refine waits_named ((balances_settle _).bind fun wanted => waits_session.bind fun s => ?_)
  show WaitsAsSet settings (if !s.hasConsumer then create settings >>= fun _ => _ else _)
  split
  · exact waits_create.bind fun _ => waits_subscribeHeld wanted
  · exact waits_subscribeHeld wanted

theorem waits_delete : WaitsAsSet settings (delete settings) := by
  refine waits_named (waits_session.bind fun s => ?_)
  cases heldConsumer? s with
  | none => exact balances_pure _
  | some id =>
    have deletes : WaitsAsSet settings (deletion settings id) := by
      refine Balances.rescue ((waits_session.consumerPath _ _).bind fun path =>
        (waits_send ⟨.delete, path, none, .ofApi .delete⟩ fun _ => nofun).bind fun _ => waits_log _ _ _) fun e => ?_
      split
      · exact waits_log _ _ _
      · exact balances_throw _
    exact deletes.ensuring (waits_reset .delete)

theorem waits_commit : WaitsAsSet settings (commit settings) := by
  refine waits_named ?_
  cases settings.autoCommits with
  | true => exact balances_pure _
  | false => exact (waits_session.consumerPath _ _).bind fun path => (waits_posted _ _ _).bind fun _ =>
      balances_pure _

/-- The path of a consumer is the one of its name. -/
theorem obeys_consumerPath (api : Api) (suffix : String) :
    Obeys (waiting settings) (consumerPath settings api suffix).run () fun r _ =>
      ∀ path, r = .ok path → ∃ id, path = consumerAddress settings id ++ suffix := by
  refine Obeys.step_bind trivial fun (s : Session String Value) _ => ?_
  cases heldConsumer? s with
  | none => exact nofun
  | some id =>
    rintro _ ⟨⟩
    exact ⟨id, rfl⟩

/-- Records are asked for with the timeout that is given. -/
theorem waits_consume : WaitsAsSet settings (consume settings settings.consumeTimeout) := by
  generalize told : settings.consumeTimeout = timeout
  refine waits_named (waits_session.bind fun s => ?_)
  show WaitsAsSet settings (if !s.isSubscribed then throw _ >>= fun _ => _ else _)
  split
  · exact balances_throw_bind _ _
  · rintro ⟨⟩ -
    refine (obeys_consumerPath .consume "/records").bind ?_ fun _ _ _ => rfl
    rintro path ⟨⟩ found
    obtain ⟨id, rfl⟩ := found path rfl
    cases positive : timeout.isPositive with
    | error f => rfl
    | ok counts =>
      -- Whether the timeout is told was decided before, so both requests are pulls with it.
      have pulls (n : Nat) : Query.WaitsAsSet settings (.outside (.send n ⟨.get,
          if counts then consumerAddress settings id ++ "/records" ++ "?timeout=" ++ timeout.plain
          else consumerAddress settings id ++ "/records", none, .ofApi .consume⟩)) := by
        refine fun _ => ⟨id, ?_⟩
        cases counts <;> simp [Request.pull, told, positive]
      have asks : WaitsAsSet settings (do
          let answer ← sendFor .consume .get (if counts then consumerAddress settings id ++ "/records" ++ "?timeout=" ++
            timeout.plain else consumerAddress settings id ++ "/records") none
          let batch ← understand .consume Batch.ofText answer
          let s ← session
          log Level.debug "Consumed records"
            [("consumer_id", optionalText s.consumer), ("records_count", .int batch.records.length),
              ("timeout_ms", timeout)]
          return batch) :=
        (waits_sendFor _ _ _ _ pulls).bind fun answer => (waits_understand _ _ _).bind fun batch =>
          waits_session.bind fun s => (waits_log _ _ _).bind fun _ => balances_pure _
      exact asks () trivial

theorem waits_recreate (e : Failure) : WaitsAsSet settings (recreate settings e) :=
  waits_session.bind fun _ => (waits_log _ _ _).bind fun _ => waits_delete.bind fun _ =>
    waits_closeTransport.bind fun _ => waits_openTransport.bind fun _ => waits_create

theorem waits_recover (goOn : Bool) (e : Failure) : WaitsAsSet settings (recover settings goOn e) := by
  have cleans : WaitsAsSet settings (deleteAfterFailure settings e) :=
    waits_delete.deleteAfterFailure waits_session waits_log e
  unfold recover
  split
  · exact (waits_recreate e).bind fun _ => balances_pure _
  · exact cleans.bind fun _ => balances_throw _
  · exact cleans.bind fun _ => balances_throw _
  · exact balances_throw _

theorem waits_goesOn (state : LoopState) : WaitsAsSet settings (goesOn state) := by
  unfold goesOn
  split
  · exact waits_flags.bind fun _ => balances_pure _
  · exact balances_pure _

theorem waits_tryStart (rounds : Nat) (patient : Bool) : WaitsAsSet settings (tryStart rounds patient) := by
  have waits : WaitsAsSet settings (awaitIdle rounds) :=
    waits_flags.awaitIdle (fun _ _ => ⟨trivial, fun _ _ => rfl⟩) rounds
  unfold tryStart
  cases patient with
  | false => exact waits_step _
  | true => exact waits.bind fun _ => waits_step _

theorem waits_enterLoop (rounds : Nat) (callback : Option CallbackId) (topics : Topics) :
    WaitsAsSet settings (enterLoop settings rounds callback topics) := by
  unfold enterLoop
  cases settings.group.truthy with
  | false => exact balances_throw_bind _ _
  | true =>
    cases callback with
    | none => exact balances_throw _
    | some id =>
      refine (waits_session.loopTopics topics).bind fun wanted => Balances.bind (waits_step .depth) fun claims => ?_
      refine (waits_tryStart rounds _).bind fun started => ?_
      split
      · exact balances_pure _
      · exact (waits_log _ _ _).bind fun _ => balances_pure _

theorem waits_fetch (callback : CallbackId) (topics : List Value) (subscribed : Bool) :
    WaitsAsSet settings (fetch settings callback topics subscribed) := by
  have rest (stopped : Bool) : WaitsAsSet settings (do
      if stopped then return none
      let batch ← consume settings settings.consumeTimeout
      let s ← session
      let wish ← callBack callback batch s.consumer
      if (← session).active then return some wish.truthy else return none) := by
    cases stopped with
    | true => exact balances_pure _
    | false =>
      refine waits_consume.bind fun batch => waits_session.bind fun s => ?_
      refine Balances.bind (fun _ _ => ⟨trivial, fun _ _ => rfl⟩) fun wish => waits_session.bind fun t => ?_
      split
      · exact balances_pure _
      · exact balances_pure _
  unfold fetch
  cases subscribed with
  | true => exact (balances_pure _).bind rest
  | false => exact (waits_subscribe _).bind fun _ => waits_flags.bind fun _ => (balances_pure _).bind rest

theorem waits_cycle (callback : CallbackId) (topics : List Value) (subscribed : Bool) :
    WaitsAsSet settings (cycle settings callback topics subscribed) := by
  refine (waits_fetch callback topics subscribed).outcome.bind fun r => ?_
  split
  · exact waits_recover _ _
  · exact balances_pure _
  · exact (waits_commit.bind fun _ => balances_pure _).rescue fun e => waits_recover _ e

theorem waits_loop (callback : CallbackId) (topics : List Value) (rounds : Nat) (state : LoopState) :
    WaitsAsSet settings (loop settings callback topics rounds state) := by
  induction rounds generalizing state with
  | zero =>
    refine (waits_goesOn state).bind fun going => ?_
    split
    · exact balances_throw _
    · exact balances_pure _
  | succ rounds ih =>
    refine (waits_goesOn state).bind fun going => ?_
    split
    · exact (waits_cycle callback topics state.subscribed).bind fun next => ih next
    · exact balances_pure _

theorem waits_run (rounds : Nat) (callback : Option CallbackId) (topics : Topics) :
    WaitsAsSet settings (run settings rounds callback topics) := by
  unfold run
  refine (waits_acquireActive _).bind fun _ => (waits_enterLoop rounds callback topics).outcome.bind fun r => ?_
  split
  · exact waits_release.bind fun _ => balances_throw _
  · exact waits_release
  · next id wanted =>
    have looped (change : LogContext.Change) : WaitsAsSet settings (inContext change do
        log Level.info "Starting consume loop" [("topics", .list wanted)]
        loop settings id wanted rounds ⟨false, true⟩) :=
      waits_inContext ((waits_log _ _ _).bind fun _ => waits_loop id wanted rounds _)
    exact (looped _).outcome.bind fun _ => waits_release.bind fun _ => Balances.bind (waits_step _) fun _ =>
      (waits_log _ _ _).bind fun _ => balances_settle _

theorem waits_stop (rounds : Nat) : WaitsAsSet settings (stop settings rounds) := by
  have sleeps : WaitsAsSet settings (sleep settings.stopPeriod) := fun _ _ => ⟨rfl, fun _ _ => rfl⟩
  have polled : WaitsAsSet settings (ensuring (rescue (awaitEnd settings rounds) fun e => throw (stopFailure e))
      (step .clearStopRequest)) :=
    ((waits_flags.awaitEnd waits_log sleeps rounds).rescue fun _ => balances_throw _).ensuring (waits_step _)
  unfold stop
  refine waits_flags.bind fun f => ?_
  cases f.running with
  | false => exact balances_pure _
  | true =>
    refine Balances.bind (waits_step .tryRequestStop) fun (asked : Bool) => ?_
    cases asked with
    | false => exact balances_pure _
    | true =>
      refine Balances.bind (waits_step .held) fun (own : Bool) => ?_
      cases own with
      | true => exact waits_log _ _ _
      | false => exact polled

theorem waits_destroy (rounds : Nat) : WaitsAsSet settings (destroy settings rounds) := by
  have frozen : WaitsAsSet settings (do
      if (← session).active then
        stop settings rounds
        delete settings
        closeTransport
        step .deactivate
        log Level.info "Channel destroyed" [("consumer_group", settings.group)]) := by
    refine waits_session.bind fun s => ?_
    split
    · exact (waits_stop rounds).bind fun _ => waits_delete.bind fun _ => waits_closeTransport.bind fun _ =>
        Balances.bind (waits_step _) fun _ => waits_log _ _ _
    · exact balances_pure _
  unfold destroy
  refine Balances.bind (waits_step .lockDestroy) fun (free : Bool) => ?_
  cases free with
  | false => exact balances_throw_bind _ _
  | true => exact frozen.ensuring fun _ _ => ⟨trivial, fun _ _ => rfl⟩

end

/-- With numbers for period and timeout, settings are made of arguments just if these are well named, the extra entries
make a dictionary, the period is above zero or no number, and the timeout is not below zero or no number; and they are
what the arguments say. A section of a file makes settings only with such a period and such a timeout, the one a
floating-point and the other a whole number. Whatever it is answered, a channel that is stopped or destroyed or runs
sleeps for the period of its settings only, and asks for records with their timeout only. -/
theorem accepted_settings_wait_in_bounds (s : Settings) :
    (∀ arguments, (Settings.said arguments []).stopPeriod.IsNumber →
      (Settings.said arguments []).consumeTimeout.IsNumber →
      (Settings.ofArguments arguments = .ok s ↔ Settings.WellNamed arguments ∧ (Settings.said arguments []).Bounded ∧
        ∃ entries, Settings.entriesOf (Settings.argument arguments "extra_configs" .null) = .ok entries ∧
          s = Settings.said arguments entries)) ∧
    (∀ v, Settings.ofSection v = .ok s → s.Bounded ∧ ∃ x n, s.stopPeriod = .float x ∧ s.consumeTimeout = .int n) ∧
    ∀ rounds callback topics, WaitsAsSet s (stop s rounds) ∧ WaitsAsSet s (destroy s rounds) ∧
      WaitsAsSet s (run s rounds callback topics) := by
  refine ⟨?_, ?_, fun rounds callback topics =>
    ⟨waits_stop rounds, waits_destroy rounds, waits_run rounds callback topics⟩⟩
  · intro arguments period timeout
    rw [Settings.ofArguments_eq_ok, Settings.check_eq_ok, Value.isNonPositive_eq_false period,
      Value.isNegative_eq_false timeout]
    constructor
    · rintro ⟨named, long, patient, entries, extras, rfl⟩
      exact ⟨named, ⟨long, patient⟩, entries, extras, rfl⟩
    · rintro ⟨named, ⟨long, patient⟩, entries, extras, rfl⟩
      exact ⟨named, long, patient, entries, extras, rfl⟩
  · intro v made
    obtain ⟨x, n, period, timeout, long, patient⟩ := Settings.ofSection_eq_ok made
    have numbers : s.stopPeriod.IsNumber ∧ s.consumeTimeout.IsNumber := by
      rw [period, timeout]
      exact ⟨trivial, trivial⟩
    exact ⟨⟨(Value.isNonPositive_eq_false numbers.1).mp long, (Value.isNegative_eq_false numbers.2).mp patient⟩, x, n,
      period, timeout⟩

/-- What is no number passes for a period, given by a caller or written in a file. -/
theorem period_may_be_no_number :
    (∃ s, Settings.ofArguments [("base", .text "b"), ("stop_wait_period", .float .nan)] = .ok s ∧
      ¬ s.stopPeriod.Positive) ∧
    ∃ s, Settings.ofSection (.dict [(.text "base_url", .text "b"), (.text "stop_wait_period", .text "nan")]) = .ok s ∧
      ¬ s.stopPeriod.Positive := by
  have odd : ¬ (Value.float .nan).Positive := nofun
  exact ⟨⟨_, rfl, odd⟩, ⟨_, rfl, odd⟩⟩

end Channel

end ConsumerChannel
