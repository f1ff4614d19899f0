import ConsumerChannel.Proofs.Chronicle
import ConsumerChannel.Proofs.Discipline
import ConsumerChannel.Proofs.Readings

/-! What a thread has of a channel: its claims of the guard, its log context, the right to destroy the
channel, a loop that it has marked as running, and a request to stop that it has not taken back. Every
operation uses only what its thread has, and leaves the thread with what it had before, whatever it is
answered and whichever way it ends. -/
namespace ConsumerChannel.Channel
open Operation

/-- What a thread has of a channel. -/
structure Holdings where
  claims : Nat
  context : LogContext
  destroys : Bool
  loops : Bool
  asks : Bool

namespace Holdings

/-- What a thread that has nothing has. -/
def none (context : LogContext) : Holdings := ⟨0, context, false, false, false⟩

/-- What a thread may ask: it gives up only what it has, records only under the guard and only consumers
with a name, and calls back only from a loop of its own. -/
def permits (h : Holdings) : Query → Prop
  | .step .release => 0 < h.claims
  | .step (.setConsumer id _) => 0 < h.claims ∧ id ≠ ""
  | .step (.replaceTopics _ _) => 0 < h.claims
  | .step (.resetSession _) => 0 < h.claims
  | .step .deactivate => h.destroys = true
  | .step .unlockDestroy => h.destroys = true
  | .step .finish => h.loops = true
  | .step .clearStopRequest => h.asks = true
  | .outside (.callback _ _ _) => 0 < h.claims ∧ h.loops = true ∧ h.asks = false
  | _ => True

/-- What a thread can be answered. -/
def allows (h : Holdings) : (q : Query) → q.Answer → Prop
  | .step (.acquire api), r => ∀ e, r = .error e → h.claims = 0 ∧ e = .transient contentionMessage api
  | .step .release, r => r = .ok ()
  | .step .context, context => context = h.context
  | .step .lockDestroy, free => h.destroys = true → free = false
  | .step .tryStart, started => h.loops = true → started = false
  | .step .unlockDestroy, r => r = .ok ()
  | _, _ => True

/-- What a thread has once it is answered. -/
def after (h : Holdings) : (q : Query) → q.Answer → Holdings
  | .step (.acquire _), .ok _ => { h with claims := h.claims + 1 }
  | .step .release, .ok _ => { h with claims := h.claims - 1 }
  | .step (.changeContext change), _ => { h with context := h.context.apply change }
  | .step .lockDestroy, true => { h with destroys := true }
  | .step .unlockDestroy, .ok _ => { h with destroys := false }
  | .step .tryStart, true => { h with loops := true }
  | .step .finish, _ => { h with loops := false }
  | .step .tryRequestStop, true => { h with asks := true }
  | .step .held, true => { h with asks := false }
  | .step .clearStopRequest, _ => { h with asks := false }
  | _, _ => h

/-- What threads are held to by what they have. -/
def discipline : Discipline Holdings := ⟨permits, allows, after⟩

/-- The thread has asked no loop to stop. -/
def Calm (h : Holdings) : Prop := h.asks = false

/-- The thread is inside an operation. -/
structure Inside (h : Holdings) : Prop where
  calm : h.Calm
  claims : 0 < h.claims

/-- The thread is inside a loop of its own. -/
structure Looping (h : Holdings) : Prop extends h.Inside where
  loops : h.loops = true

/-- What a thread has with one more claim. -/
def claimed (h : Holdings) : Holdings := { h with claims := h.claims + 1 }

/-- What a thread has with a loop that it has marked as running. -/
def started (h : Holdings) : Holdings := { h with loops := true }

/-- What a thread has while its request to stop stands. -/
def asking (h : Holdings) : Holdings := { h with asks := true }

/-- What a thread has in another log context. -/
def attributed (h : Holdings) (context : LogContext) : Holdings := { h with context }

/-- Nothing but the log context is different. -/
def SameButContext (h later : Holdings) : Prop := ∃ context, later = h.attributed context

variable {h : Holdings}

theorem Calm.claimed (calm : h.Calm) : h.claimed.Inside := ⟨calm, Nat.succ_pos _⟩

/-- A request that is taken back was never there. -/
theorem Calm.unasked (calm : h.Calm) : { h.asking with asks := false } = h := by
  cases h
  cases calm
  rfl

theorem Inside.started (inside : h.Inside) : h.started.Looping := ⟨⟨inside.calm, inside.claims⟩, rfl⟩

theorem Inside.attributed (inside : h.Inside) (context : LogContext) : (h.attributed context).Inside :=
  ⟨inside.calm, inside.claims⟩

theorem Looping.attributed (looping : h.Looping) (context : LogContext) :
    (h.attributed context).Looping := ⟨looping.toInside.attributed context, looping.loops⟩

end Holdings

section
variable {calm : Holdings → Prop} {settings : Settings}

/-! ## Questions -/

/-- A question that is always permitted and after which a thread has what it had. -/
theorem balances_step (s : Step) (permitted : ∀ h, Holdings.permits h (.step s))
    (same : ∀ h answer, Holdings.after h (.step s) answer = h) :
    Balances Holdings.discipline calm (step s) :=
  fun account _ => ⟨permitted account, fun answer _ => same account answer⟩

theorem balances_session : Balances Holdings.discipline calm session :=
  balances_step .session (fun _ => trivial) fun _ _ => rfl

theorem balances_flags : Balances Holdings.discipline calm flags :=
  balances_step .flags (fun _ => trivial) fun _ _ => rfl

theorem balances_depth : Balances Holdings.discipline calm depth :=
  balances_step .depth (fun _ => trivial) fun _ _ => rfl

theorem balances_log (level : Level) (message : String) (extras : List (String × Value)) :
    Balances Holdings.discipline calm (log level message extras) :=
  fun _ _ => ⟨trivial, fun _ _ => rfl⟩

theorem balances_sleep (seconds : Value) : Balances Holdings.discipline calm (sleep seconds) :=
  fun _ _ => ⟨trivial, fun _ _ => rfl⟩

theorem balances_wait : Balances Holdings.discipline calm wait :=
  fun _ _ => ⟨trivial, fun _ _ => rfl⟩

theorem balances_send (request : Request) : Balances Holdings.discipline calm (send request) :=
  fun _ _ => ⟨trivial, fun _ _ => ⟨trivial, fun _ _ => rfl⟩⟩

theorem balances_closeTransport : Balances Holdings.discipline calm closeTransport :=
  fun _ _ => ⟨trivial, fun _ _ => ⟨trivial, fun _ _ => rfl⟩⟩

theorem balances_openTransport : Balances Holdings.discipline calm openTransport := by
  refine Balances.bind (fun _ _ => ⟨trivial, fun _ _ => rfl⟩) ?_
  intro n
  exact balances_step (.useTransport n) (fun _ => trivial) fun _ _ => rfl

theorem balances_callBack (id : CallbackId) (batch : Batch) (consumer : Option String) :
    Balances Holdings.discipline Holdings.Looping (callBack id batch consumer) :=
  fun _ looping => ⟨⟨looping.claims, looping.loops, looping.calm⟩, fun _ _ => rfl⟩

theorem balances_replaceTopics (topics : List Value) (api : Api) :
    Balances Holdings.discipline Holdings.Inside (replaceTopics topics api) :=
  fun _ inside => ⟨inside.claims, fun _ _ => rfl⟩

theorem balances_setConsumer {id : String} (named : id ≠ "") (api : Api) :
    Balances Holdings.discipline Holdings.Inside (setConsumer id api) :=
  fun _ inside => ⟨⟨inside.claims, named⟩, fun _ _ => rfl⟩

theorem balances_reset (api : Api) : Balances Holdings.discipline Holdings.Inside (reset api) := by
  refine Balances.bind (fun _ inside => ⟨inside.claims, fun _ _ => rfl⟩) fun _ => ?_
  exact fun _ _ => ⟨trivial, fun _ _ => ⟨trivial, fun
    | .ok _, _ => ⟨trivial, fun _ _ => rfl⟩
    | .error _, _ => rfl⟩⟩

/-! ## Blocks -/

/-- A claim of the guard of an active channel is kept only if it is granted. -/
theorem obeys_acquireActive (api : String) (account : Holdings) :
    Obeys Holdings.discipline (acquireActive api).run account fun r later =>
      (r = .ok () → later = account.claimed) ∧ ∀ e, r = .error e → later = account := by
  unfold acquireActive
  have acquired : Obeys Holdings.discipline (acquire api).run account fun r later =>
      (r = .ok () → later = account.claimed) ∧ ∀ e, r = .error e → later = account := by
    refine ⟨trivial, fun answer _ => ?_⟩
    cases answer with
    | ok _ => exact ⟨fun _ => rfl, nofun⟩
    | error e => exact ⟨nofun, fun _ _ => rfl⟩
  refine acquired.bind ?_ fun e later ended => ⟨nofun, fun _ _ => ended.2 e rfl⟩
  rintro ⟨⟩ later ⟨claimed, -⟩
  cases claimed rfl
  refine .step_bind trivial fun (s : Session String Value) _ => ?_
  show Obeys Holdings.discipline (if !s.active then release >>= fun _ => throw _ else pure ()).run
    account.claimed _
  split
  · exact ⟨Nat.succ_pos _, fun | .ok _, _ => ⟨nofun, fun _ _ => rfl⟩⟩
  · exact ⟨fun _ => rfl, nofun⟩

/-- A block under the guard. -/
theorem balances_holding {api : String} {body : Operation α}
    (balances : Balances Holdings.discipline Holdings.Inside body) :
    Balances Holdings.discipline Holdings.Calm (holding api body) := by
  intro account calm
  refine (obeys_acquireActive api account).bind ?_ fun e later ended => ended.2 e rfl
  rintro ⟨⟩ later ⟨claimed, -⟩
  cases claimed rfl
  refine (balances _ calm.claimed).ensuring ?_
  rintro r later rfl
  exact ⟨Nat.succ_pos _, fun | .ok _, _ => ⟨fun _ => rfl, nofun⟩⟩

/-- A block in a log context of its own, which it may change. -/
theorem balances_inContext {change : LogContext.Change} {body : Operation α}
    (obeys : ∀ account context, calm account → Obeys Holdings.discipline body.run (account.attributed context)
      fun _ later => account.SameButContext later) :
    Balances Holdings.discipline calm (inContext change body) := by
  intro account holds
  refine .step_bind trivial fun found same => ?_
  cases same
  refine .step_bind trivial fun _ _ => ?_
  refine (obeys account _ holds).ensuring ?_
  rintro r later ⟨left, rfl⟩
  exact ⟨trivial, fun _ _ => ⟨fun _ => rfl, nofun⟩⟩

/-- A block that leaves even its own log context as it was. -/
theorem balances_inContext_of_balances {change : LogContext.Change} {body : Operation α}
    (balances : Balances Holdings.discipline calm body)
    (steady : ∀ account context, calm account → calm (account.attributed context)) :
    Balances Holdings.discipline calm (inContext change body) := by
  refine balances_inContext fun account context holds => ?_
  exact (balances _ (steady account context holds)).weaken fun _ _ same => ⟨_, same⟩

/-- The block of one operation, which may change its log context. -/
theorem balances_named_of_obeys {api : Api} {body : Operation α}
    (obeys : ∀ (account : Holdings) context, account.Inside → Obeys Holdings.discipline body.run
      (account.attributed context) fun _ later => account.SameButContext later) :
    Balances Holdings.discipline Holdings.Calm (named settings api body) :=
  balances_holding (balances_session.bind fun _ => balances_inContext obeys)

/-- The block of one operation. -/
theorem balances_named {api : Api} {body : Operation α}
    (balances : Balances Holdings.discipline Holdings.Inside body) :
    Balances Holdings.discipline Holdings.Calm (named settings api body) :=
  balances_holding (balances_session.bind fun _ => balances_inContext_of_balances balances
    fun _ context inside => inside.attributed context)

/-! ## Operations on a consumer -/

theorem balances_sendFor (api : Api) (method : Method) (path : String) (body : Option String) :
    Balances Holdings.discipline calm (sendFor api method path body) :=
  (balances_send _).rescue fun _ => balances_throw _

/-- What looking at the session leaves as it was, looking for the path of the consumer does. -/
theorem Balances.consumerPath {d : Discipline σ} {calm : σ → Prop} (looks : Balances d calm session) (api : Api)
    (suffix : String) : Balances d calm (consumerPath settings api suffix) := by
  refine looks.bind fun s => ?_
  split
  · exact balances_pure _
  · exact balances_throw _

theorem balances_consumerPath (api : Api) (suffix : String) :
    Balances Holdings.discipline calm (consumerPath settings api suffix) := balances_session.consumerPath api suffix

theorem balances_written {d : Discipline σ} {calm : σ → Prop} (checked : Checked β)
    (write : β → Except Fault String) : Balances d calm (written checked write) := by
  cases checked with
  | ok b => exact balances_ofFault _
  | error issues => exact balances_throw _

/-- What an answer denotes has been read from its text. -/
theorem obeys_understand (api : Api) (reader : String → Checked β) (answer : Option String)
    (account : Holdings) :
    Obeys Holdings.discipline (understand api reader answer).run account fun r later =>
      later = account ∧ ∀ b, r = .ok b → ∃ text, reader text = .ok b := by
  unfold understand
  split
  · exact ⟨rfl, nofun⟩
  · exact ⟨rfl, nofun⟩
  · rename_i text _
    split
    · rename_i b read
      exact ⟨rfl, fun _ same => ⟨text, by cases same; exact read⟩⟩
    · exact ⟨rfl, nofun⟩

theorem balances_understand (api : Api) (reader : String → Checked β) (answer : Option String) :
    Balances Holdings.discipline calm (understand api reader answer) :=
  fun account _ => (obeys_understand api reader answer account).weaken fun _ _ ended => ended.1

/-- A consumer is recorded only by the name that the service gave it, which is never blank. -/
theorem balances_create : Balances Holdings.discipline Holdings.Calm (create settings) := by
  refine balances_named_of_obeys fun account context inside => ?_
  have within := inside.attributed context
  have same : account.SameButContext (account.attributed context) := ⟨context, rfl⟩
  cases settings.group.truthy with
  | false => exact same
  | true =>
    refine (balances_reset .create).obeys_bind within (fun _ => ?_) fun _ => same
    refine (balances_written _ _).obeys_bind within (fun body => ?_) fun _ => same
    refine (balances_sendFor .create .post _ _).obeys_bind within (fun answer => ?_) fun _ => same
    refine (obeys_understand .create CreatedConsumer.ofText answer _).bind ?_ ?_
    · rintro created later ⟨rfl, read⟩
      obtain ⟨text, denoted⟩ := read created rfl
      have named := CreatedConsumer.id_ne_empty denoted
      refine (balances_setConsumer named .create).obeys_bind within (fun _ => ?_) fun _ => same
      refine .step_bind trivial fun _ _ => ?_
      exact ((balances_log _ _ _).anywhere _).weaken fun _ _ ended => ⟨_, ended⟩
    · rintro e later ⟨rfl, -⟩
      exact same

theorem balances_subscribeHeld (wanted : List Value) :
    Balances Holdings.discipline Holdings.Inside (subscribeHeld settings wanted) := by
  unfold subscribeHeld
  refine (balances_consumerPath _ _).bind fun path => (balances_written _ _).bind fun body => ?_
  refine (balances_sendFor _ _ _ _).bind fun _ => (balances_replaceTopics _ _).bind fun _ => ?_
  exact balances_session.bind fun _ => balances_log _ _ _

theorem balances_subscribe (topics : Topics) :
    Balances Holdings.discipline Holdings.Calm (subscribe settings topics) := by
  refine balances_named ((balances_settle _).bind fun wanted => balances_session.bind fun s => ?_)
  show Balances _ _ (if !s.hasConsumer then create settings >>= fun _ => _ else _)
  split
  · exact (balances_create.strengthen fun _ inside => inside.calm).bind fun _ => balances_subscribeHeld wanted
  · exact balances_subscribeHeld wanted

theorem balances_subscriptions : Balances Holdings.discipline Holdings.Calm (subscriptions settings) := by
  refine balances_named ((balances_consumerPath _ _).bind fun path =>
    (balances_sendFor _ _ _ _).bind fun answer => ?_)
  split
  · exact balances_pure _
  · exact balances_pure _
  · exact balances_understand _ _ _

theorem balances_deletion (id : String) :
    Balances Holdings.discipline calm (deletion settings id) := by
  refine Balances.rescue ((balances_consumerPath _ _).bind fun path => (balances_send _).bind fun _ =>
    balances_log _ _ _) fun e => ?_
  split
  · exact balances_log _ _ _
  · exact balances_throw _

theorem balances_delete : Balances Holdings.discipline Holdings.Calm (delete settings) := by
  refine balances_named (balances_session.bind fun s => ?_)
  cases heldConsumer? s with
  | none => exact balances_pure _
  | some id => exact (balances_deletion id).ensuring (balances_reset .delete)

theorem balances_consume (timeout : Value) :
    Balances Holdings.discipline Holdings.Calm (consume settings timeout) := by
  refine balances_named (balances_session.bind fun s => ?_)
  show Balances _ _ (if !s.isSubscribed then throw _ >>= fun _ => _ else _)
  split
  · exact balances_throw_bind _ _
  · refine (balances_consumerPath _ _).bind fun path => (balances_ofFault _).bind fun positive => ?_
    refine (balances_sendFor _ _ _ _).bind fun answer => (balances_understand _ _ _).bind fun batch => ?_
    exact balances_session.bind fun _ => (balances_log _ _ _).bind fun _ => balances_pure _

theorem balances_commit : Balances Holdings.discipline Holdings.Calm (commit settings) := by
  refine balances_named ?_
  cases settings.autoCommits with
  | true => exact balances_pure _
  | false => exact (balances_consumerPath _ _).bind fun path => (balances_sendFor _ _ _ _).bind fun _ =>
      balances_pure _

/-! ## Running -/

theorem balances_recreate (e : Failure) :
    Balances Holdings.discipline Holdings.Calm (recreate settings e) :=
  balances_session.bind fun _ => (balances_log _ _ _).bind fun _ => balances_delete.bind fun _ =>
    balances_closeTransport.bind fun _ => balances_openTransport.bind fun _ => balances_create

/-- What looking at the session, logging and deleting leave as it was, deleting after a failure does. -/
theorem Balances.deleteAfterFailure {d : Discipline σ} {calm : σ → Prop} (deletes : Balances d calm (delete settings))
    (looks : Balances d calm session) (logs : ∀ level message extras, Balances d calm (log level message extras))
    (e : Failure) : Balances d calm (deleteAfterFailure settings e) := by
  refine looks.bind fun _ => (logs _ _ _).bind fun _ => looks.bind fun s => ?_
  split
  · refine deletes.rescue fun second => ?_
    split
    · exact logs _ _ _
    · exact balances_throw _
  · exact balances_pure _

theorem balances_deleteAfterFailure (e : Failure) :
    Balances Holdings.discipline Holdings.Calm (deleteAfterFailure settings e) :=
  balances_delete.deleteAfterFailure balances_session balances_log e

theorem balances_recover (goOn : Bool) (e : Failure) :
    Balances Holdings.discipline Holdings.Calm (recover settings goOn e) := by
  unfold recover
  split
  · exact (balances_recreate e).bind fun _ => balances_pure _
  · exact (balances_deleteAfterFailure e).bind fun _ => balances_throw _
  · exact (balances_deleteAfterFailure e).bind fun _ => balances_throw _
  · exact balances_throw _

theorem balances_fetch (callback : CallbackId) (topics : List Value) (subscribed : Bool) :
    Balances Holdings.discipline Holdings.Looping (fetch settings callback topics subscribed) := by
  have calm : ∀ h : Holdings, h.Looping → h.Calm := fun _ looping => looping.calm
  have rest (stopped : Bool) : Balances Holdings.discipline Holdings.Looping (do
      if stopped then return none
      let batch ← consume settings settings.consumeTimeout
      let s ← session
      let wish ← callBack callback batch s.consumer
      if (← session).active then return some wish.truthy else return none) := by
    cases stopped with
    | true => exact balances_pure _
    | false =>
      refine ((balances_consume _).strengthen calm).bind fun batch => balances_session.bind fun s => ?_
      refine (balances_callBack _ _ _).bind fun wish => balances_session.bind fun t => ?_
      split
      · exact balances_pure _
      · exact balances_pure _
  unfold fetch
  cases subscribed with
  | true => exact (balances_pure _).bind rest
  | false => exact ((balances_subscribe _).strengthen calm).bind fun _ => balances_flags.bind fun _ =>
      (balances_pure _).bind rest

theorem balances_cycle (callback : CallbackId) (topics : List Value) (subscribed : Bool) :
    Balances Holdings.discipline Holdings.Looping (cycle settings callback topics subscribed) := by
  have calm : ∀ h : Holdings, h.Looping → h.Calm := fun _ looping => looping.calm
  unfold cycle
  refine Balances.bind (balances_fetch callback topics subscribed).outcome fun r => ?_
  split
  · exact (balances_recover _ _).strengthen calm
  · exact balances_pure _
  · exact ((balances_commit.strengthen calm).bind fun _ => balances_pure _).rescue fun e =>
      (balances_recover _ e).strengthen calm

theorem balances_goesOn (state : LoopState) : Balances Holdings.discipline calm (goesOn state) := by
  unfold goesOn
  split
  · exact balances_flags.bind fun _ => balances_pure _
  · exact balances_pure _

theorem balances_loop (callback : CallbackId) (topics : List Value) (rounds : Nat) (state : LoopState) :
    Balances Holdings.discipline Holdings.Looping (loop settings callback topics rounds state) := by
  induction rounds generalizing state with
  | zero =>
    refine (balances_goesOn state).bind fun going => ?_
    split
    · exact balances_throw _
    · exact balances_pure _
  | succ rounds ih =>
    refine (balances_goesOn state).bind fun going => ?_
    split
    · exact (balances_cycle callback topics state.subscribed).bind fun next => ih next
    · exact balances_pure _

/-- What looking at the session leaves as it was, choosing the topics of a loop does. -/
theorem Balances.loopTopics {d : Discipline σ} {calm : σ → Prop} (looks : Balances d calm session)
    (topics : Topics) : Balances d calm (loopTopics topics) := by
  have recorded : Balances d calm (do return (← session).topics : Operation (List Value)) :=
    looks.bind fun _ => balances_pure _
  unfold Channel.loopTopics
  split
  · exact recorded
  · exact recorded
  · exact balances_pure _
  · exact balances_throw _
  · exact recorded
  · exact balances_pure _

/-- What looking at the flags and waiting leave as it was, waiting until no loop runs does. -/
theorem Balances.awaitIdle {d : Discipline σ} {calm : σ → Prop} (looks : Balances d calm flags)
    (waits : Balances d calm wait) (rounds : Nat) : Balances d calm (awaitIdle rounds) := by
  induction rounds with
  | zero =>
    refine looks.bind fun f => ?_
    split
    · exact balances_throw _
    · exact balances_pure _
  | succ rounds ih =>
    refine looks.bind fun f => ?_
    split
    · exact waits.bind fun _ => ih
    · exact balances_pure _

/-- A thread marks a loop as running only if it has none. -/
theorem obeys_tryStart (rounds : Nat) (patient : Bool) (account : Holdings) :
    Obeys Holdings.discipline (tryStart rounds patient).run account fun r later =>
      (r = .ok true → account.loops = false ∧ later = account.started) ∧ (r ≠ .ok true → later = account) := by
  have starts : Obeys Holdings.discipline (step .tryStart : Operation Bool).run account fun r later =>
      (r = .ok true → account.loops = false ∧ later = account.started) ∧ (r ≠ .ok true → later = account) := by
    refine ⟨trivial, fun (started : Bool) vacant => ?_⟩
    cases started with
    | true =>
      have idle : account.loops = false := Bool.eq_false_iff.mpr fun loops => nomatch vacant loops
      exact ⟨fun _ => ⟨idle, rfl⟩, fun other => absurd rfl other⟩
    | false => exact ⟨nofun, fun _ => rfl⟩
  unfold tryStart
  cases patient with
  | false => exact starts
  | true =>
    have waits : Balances Holdings.discipline (fun _ => True) (awaitIdle rounds) :=
      balances_flags.awaitIdle balances_wait rounds
    exact waits.anywhere_bind (fun _ => starts) fun _ => ⟨nofun, fun _ => rfl⟩

/-- A loop is marked as running exactly if the checks give its callback and topics. -/
theorem obeys_enterLoop (rounds : Nat) (callback : Option CallbackId) (topics : Topics)
    (account : Holdings) :
    Obeys Holdings.discipline (enterLoop settings rounds callback topics).run account fun r later =>
      (∀ entry, r = .ok (some entry) → account.loops = false ∧ later = account.started) ∧
        ((∀ entry, r ≠ .ok (some entry)) → later = account) := by
  unfold enterLoop
  cases settings.group.truthy with
  | false => exact ⟨nofun, fun _ => rfl⟩
  | true =>
    cases callback with
    | none => exact ⟨nofun, fun _ => rfl⟩
    | some id =>
      have chooses : Balances Holdings.discipline (fun _ => True) (loopTopics topics) :=
        balances_session.loopTopics topics
      refine chooses.anywhere_bind (fun wanted => ?_) fun _ => ⟨nofun, fun _ => rfl⟩
      refine balances_depth.anywhere_bind (fun claims => ?_) fun _ => ⟨nofun, fun _ => rfl⟩
      refine (obeys_tryStart rounds _ account).bind ?_ fun e later ended => ⟨nofun, fun _ => ended.2 nofun⟩
      intro started later ended
      cases started with
      | true => exact ⟨fun _ _ => ended.1 rfl, fun other => absurd rfl (other (id, wanted))⟩
      | false =>
        cases ended.2 nofun
        exact (balances_log _ _ _).anywhere_bind (fun _ => ⟨nofun, fun _ => rfl⟩)
          fun _ => ⟨nofun, fun _ => rfl⟩

/-- A run gives back the claim and the loop that it has taken. -/
theorem balances_run (rounds : Nat) (callback : Option CallbackId) (topics : Topics) :
    Balances Holdings.discipline Holdings.Calm (run settings rounds callback topics) := by
  intro account calm
  unfold run
  refine (obeys_acquireActive runName account).bind ?_ fun e later ended => ended.2 e rfl
  rintro ⟨⟩ later ⟨claimed, -⟩
  cases claimed rfl
  refine (obeys_enterLoop rounds callback topics account.claimed).outcome_bind ?_
  rintro r later ⟨entered, left⟩
  split
  · cases left nofun
    exact ⟨Nat.succ_pos _, fun | .ok _, _ => rfl⟩
  · cases left nofun
    exact ⟨Nat.succ_pos _, fun | .ok _, _ => rfl⟩
  · rename_i id wanted
    obtain ⟨idle, rfl⟩ := entered (id, wanted) rfl
    have looped (change : LogContext.Change) : Balances Holdings.discipline Holdings.Looping
        (inContext change do
          log Level.info "Starting consume loop" [("topics", .list wanted)]
          loop settings id wanted rounds ⟨false, true⟩) :=
      balances_inContext_of_balances ((balances_log _ _ _).bind fun _ => balances_loop id wanted rounds _)
        fun _ context looping => looping.attributed context
    refine (looped _ _ calm.claimed.started).outcome_bind ?_
    rintro r later rfl
    refine ⟨Nat.succ_pos _, fun | .ok _, _ => ?_⟩
    refine .step_bind rfl fun _ _ => ?_
    have back : { account with loops := false } = account := by
      cases account
      cases idle
      rfl
    show Obeys _ (log _ _ _ >>= fun _ => settle r).run { account with loops := false } _
    rw [back]
    exact (balances_log _ _ _).anywhere_bind (fun _ => (balances_settle r).anywhere account) fun _ => rfl

/-! ## Stopping and destroying -/

/-- What looking at the flags, logging and sleeping leave as it was, waiting for the end of a loop does. -/
theorem Balances.awaitEnd {d : Discipline σ} {calm : σ → Prop} (looks : Balances d calm flags)
    (logs : ∀ level message extras, Balances d calm (log level message extras))
    (sleeps : Balances d calm (sleep settings.stopPeriod)) (rounds : Nat) :
    Balances d calm (awaitEnd settings rounds) := by
  induction rounds with
  | zero =>
    refine looks.bind fun f => ?_
    split
    · exact balances_throw_bind _ _
    · exact logs _ _ _
  | succ rounds ih =>
    refine looks.bind fun f => ?_
    split
    · exact (logs _ _ _).bind fun _ => sleeps.bind fun _ => ih
    · exact logs _ _ _

/-- Whoever waits for the end of a loop takes the request back. -/
theorem balances_stop (rounds : Nat) : Balances Holdings.discipline Holdings.Calm (stop settings rounds) := by
  intro account calm
  unfold stop
  refine .step_bind trivial fun (f : RunFlags) _ => ?_
  cases running : f.running with
  | false =>
    simp only [Bool.not_false, ↓reduceIte]
    rfl
  | true =>
    simp only [Bool.not_true, Bool.false_eq_true, ↓reduceIte]
    refine .step_bind trivial fun (asked : Bool) _ => ?_
    cases asked with
    | false => rfl
    | true =>
      refine .step_bind trivial fun (own : Bool) _ => ?_
      cases own with
      | true =>
        show Obeys Holdings.discipline (log _ _ _).run { account.asking with asks := false } _
        rw [calm.unasked]
        exact (balances_log _ _ _).anywhere account
      | false =>
        have waited : Balances Holdings.discipline (fun _ => True)
            (rescue (awaitEnd settings rounds) fun e => throw (stopFailure e)) :=
          (Balances.awaitEnd balances_flags balances_log (balances_sleep _) rounds).rescue fun e => balances_throw _
        refine (waited.anywhere account.asking).ensuring ?_
        rintro r later rfl
        exact ⟨rfl, fun _ _ => ⟨fun _ => calm.unasked, nofun⟩⟩

/-- Whoever destroys the channel gives up the right to. -/
theorem balances_destroy (rounds : Nat) :
    Balances Holdings.discipline Holdings.Calm (destroy settings rounds) := by
  intro account calm
  unfold destroy
  refine .step_bind trivial fun (free : Bool) vacant => ?_
  cases free with
  | false => rfl
  | true =>
    have others : account.destroys = false := by
      cases destroys : account.destroys with
      | false => rfl
      | true => exact absurd (vacant destroys) nofun
    let destroyer : Holdings := { account with destroys := true }
    have back : { destroyer with destroys := false } = account := by
      cases account
      cases others
      rfl
    have frozen : Obeys Holdings.discipline (step .deactivate >>= fun _ =>
        log Level.info "Channel destroyed" [("consumer_group", settings.group)]).run destroyer
        fun _ later => later = destroyer :=
      .step_bind rfl fun _ _ => (balances_log _ _ _).anywhere destroyer
    have body : Obeys Holdings.discipline (do
        if (← session).active then
          stop settings rounds
          delete settings
          closeTransport
          step .deactivate
          log Level.info "Channel destroyed" [("consumer_group", settings.group)]).run destroyer
        fun _ later => later = destroyer := by
      refine .step_bind trivial fun (s : Session String Value) _ => ?_
      split
      · refine (balances_stop rounds).obeys_bind calm (fun _ => ?_) fun _ => rfl
        refine balances_delete.obeys_bind calm (fun _ => ?_) fun _ => rfl
        exact balances_closeTransport.anywhere_bind (fun _ => frozen) fun _ => rfl
      · rfl
    refine body.ensuring ?_
    rintro r later rfl
    exact ⟨rfl, fun | .ok _, _ => ⟨fun _ => back, nofun⟩⟩

/-- Every move leaves its thread with what it had before, however the move ends. -/
theorem Move.balances (move : Move) :
    Balances Holdings.discipline Holdings.Calm (move.operation settings) := by
  cases move with
  | create => exact balances_create
  | subscribe topics => exact balances_subscribe topics
  | subscriptions => exact balances_subscriptions.bind fun _ => balances_pure _
  | delete => exact balances_delete
  | consume timeout => exact (balances_consume timeout).bind fun _ => balances_pure _
  | commit => exact balances_commit
  | run rounds callback topics => exact balances_run rounds callback topics
  | stop rounds => exact balances_stop rounds
  | destroy rounds => exact balances_destroy rounds

end

end ConsumerChannel.Channel
