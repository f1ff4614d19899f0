import ConsumerChannel.Proofs.Operations
import ConsumerChannel.Proofs.Sharing

/-! What a thread can vouch for while it logs: what its log context says, and which consumer is recorded. It knows the
latter only from the moment at which it looks under the guard until it gives a claim up. Every operation goes by what
it has seen when it begins, sends its requests for a consumer only in a log context that names this one, and leaves the
log context as it was. -/
namespace ConsumerChannel.Channel
open Operation

/-- A request for a consumer, and the operation that sends it. -/
inductive Request.Concerns (settings : Settings) (id : String) : Api → Request → Prop where
  | subscription (topics : List String) : Concerns settings id .subscribe (.subscription settings id topics)
  | inquiry : Concerns settings id .subscriptions (.inquiry settings id)
  | pull (timeout : Value) : Concerns settings id .consume (.pull settings id timeout)
  | offsets : Concerns settings id .commit (.offsets settings id)
  | deletion : Concerns settings id .delete (.deletion settings id)

/-! ## What a thread can vouch for -/

/-- What a thread can say of the consumer that is recorded. -/
inductive Sight where
  /-- Nothing: it has claimed no guard since it last gave up a claim. -/
  | unsure
  /-- Nothing yet: it has claimed the guard, and not looked since. -/
  | claimed
  /-- What it has seen since it claimed the guard, which keeps others from recording another one. -/
  | seen (consumer : Option String)

/-- A look shows something only under the guard. -/
def Sight.look : Sight → Option String → Sight
  | unsure, _ => unsure
  | _, consumer => seen consumer

/-- What was seen is gone. -/
def Sight.forget : Sight → Sight
  | unsure => unsure
  | _ => claimed

/-- What a thread can vouch for: its log context, and the consumer that is recorded. -/
structure Credence where
  context : LogContext
  sight : Sight

namespace Credence

/-- The credence of a thread that has given up a claim. -/
def outside (k : Credence) : Credence := { k with sight := .unsure }

/-- The credence of a thread that has looked at the session. -/
def looking (k : Credence) (s : Session String Value) : Credence := { k with sight := k.sight.look s.consumer }

/-- The credence of a thread in a changed log context. -/
def changed (k : Credence) (change : LogContext.Change) : Credence := { k with context := k.context.apply change }

/-- The thread is between operations: nothing is named as the consumer, and nothing is known of it. -/
structure Calm (k : Credence) : Prop where
  unnamed : k.context.consumer = .text ""
  unsure : k.sight = .unsure

section
variable (settings : Settings) (k : Credence)

/-- A request for a consumer is credited to it; to no consumer at all by a thread that has given up a claim within
the operation, which is then a subscription. -/
def Credits (id : String) (api : Api) : Prop :=
  match k.sight with
  | .unsure => api = .subscribe ∧ k.context = ⟨settings.group, .text "", .text api.name⟩
  | _ => k.context = ⟨settings.group, .text id, .text api.name⟩

/-- What a thread may ask: it records consumers only of a group, sends requests for a consumer only credited as they
should be, and calls back only between operations. -/
def permits : Query → Prop
  | .step (.setConsumer _ _) => settings.group ≠ .null
  | .outside (.send _ request) => (∃ body, request = .creation settings body) ∨
      ∃ id api, request.Concerns settings id api ∧ k.Credits settings id api
  | .outside (.callback _ _ _) => k.Calm
  | _ => True

/-- What a thread can be answered. -/
def allows : (q : Query) → q.Answer → Prop
  | .step .context, context => context = k.context
  | .step .session, s => (∀ consumer, k.sight = .seen consumer → s.consumer = consumer) ∧
      ∀ id, s.consumer = some id → id ≠ "" ∧ settings.group ≠ .null
  | _, _ => True

/-- What a thread can vouch for once it is answered. -/
def after : (q : Query) → q.Answer → Credence
  | .step (.acquire _), .ok _ => { k with sight := .claimed }
  | .step .release, _ => k.outside
  | .step .session, s => k.looking s
  | .step (.setConsumer _ _), _ => { k with sight := k.sight.forget }
  | .step (.resetSession _), _ => { k with sight := k.sight.forget }
  | .step (.changeContext change), _ => k.changed change
  | _, _ => k

end

end Credence

/-- What threads are held to in what they log. -/
def crediting (settings : Settings) : Discipline Credence :=
  ⟨Credence.permits settings, Credence.allows settings, Credence.after⟩

section
variable {settings : Settings} {k : Credence} {api : Api} {calm kept : Credence → Prop}

namespace Credence

theorem Calm.outside (calm : k.Calm) : k.outside = k := by
  obtain ⟨context, sight⟩ := k
  cases calm.unsure
  rfl

/-- Whoever has looked and looks again sees the same. -/
theorem allows_looking {s t : Session String Value} (first : k.allows settings (.step .session) s)
    (second : (k.looking s).allows settings (.step .session) t) : k.allows settings (.step .session) t := by
  refine ⟨fun consumer seen => ?_, second.2⟩
  have same : (k.looking s).sight = .seen s.consumer := by
    simp [Credence.looking, seen, Sight.look]
  rw [second.1 _ same]
  exact first.1 consumer seen

end Credence

/-! ## Parts of operations -/

theorem crediting_flags : Balances (crediting settings) calm flags := fun _ _ => ⟨trivial, fun _ _ => rfl⟩

theorem crediting_log (level : Level) (message : String) (extras : List (String × Value)) :
    Balances (crediting settings) calm (log level message extras) := fun _ _ => ⟨trivial, fun _ _ => rfl⟩

theorem crediting_sleep (seconds : Value) : Balances (crediting settings) calm (sleep seconds) :=
  fun _ _ => ⟨trivial, fun _ _ => rfl⟩

theorem crediting_wait : Balances (crediting settings) calm wait := fun _ _ => ⟨trivial, fun _ _ => rfl⟩

theorem crediting_closeTransport : Balances (crediting settings) calm closeTransport :=
  fun _ _ => ⟨trivial, fun _ _ => ⟨trivial, fun _ _ => rfl⟩⟩

theorem crediting_openTransport : Balances (crediting settings) calm openTransport :=
  Balances.bind (fun _ _ => ⟨trivial, fun _ _ => rfl⟩) fun _ _ _ => ⟨trivial, fun _ _ => rfl⟩

theorem crediting_understand (reader : String → Checked β) (answer : Option String) :
    Balances (crediting settings) calm (understand api reader answer) := by
  unfold understand
  split
  · exact balances_throw _
  · exact balances_throw _
  · split
    · exact balances_pure _
    · exact balances_throw _

/-- Looking at the session leaves the log context alone. -/
theorem crediting_session (looked : ∀ k s, kept k → kept (k.looking s)) :
    Maintains (crediting settings) kept session := fun k holds => ⟨trivial, fun s _ => looked k s holds⟩

/-- A request is sent as it may be sent. -/
theorem crediting_sendFor {method : Method} {path : String} {body : Option String}
    (permitted : ∀ n, k.permits settings (.outside (.send n ⟨method, path, body, .ofApi api⟩))) :
    Obeys (crediting settings) (sendFor api method path body).run k fun _ later => later = k := by
  have sent : Obeys (crediting settings) (send ⟨method, path, body, .ofApi api⟩).run k fun _ later => later = k :=
    ⟨trivial, fun n _ => ⟨permitted n, fun _ _ => rfl⟩⟩
  refine sent.rescue (fun _ _ same => same) ?_
  rintro e later rfl
  exact rfl

/-- What an operation can do no harm with: it sends no request for a consumer. -/
abbrev Harmless (settings : Settings) (operation : Operation α) : Prop :=
  Maintains (crediting settings) (fun _ => True) operation

theorem Balances.harmless {operation : Operation α}
    (balances : Balances (crediting settings) (fun _ => True) operation) :
    Harmless settings operation := balances.maintains fun _ _ => trivial

theorem harmless_session : Harmless settings session := crediting_session fun _ _ _ => trivial

theorem harmless_reset (api : Api) : Harmless settings (reset api) := by
  refine Maintains.bind (fun _ _ => ⟨trivial, fun _ _ => trivial⟩) fun _ => ?_
  exact fun _ _ => ⟨trivial, fun _ _ => ⟨trivial, fun
    | .ok _, _ => ⟨trivial, fun _ _ => trivial⟩
    | .error _, _ => trivial⟩⟩

/-- Whatever consumer the thread may find recorded, a request for it would be credited as it should be. -/
def Poised (settings : Settings) (api : Api) (k : Credence) : Prop :=
  ∀ s, k.allows settings (.step .session) s → ∀ id, s.consumer = some id → k.Credits settings id api

/-- An operation does no harm, from one account on. -/
abbrev Proceeds (settings : Settings) (k : Credence) (operation : Operation α) : Prop :=
  Obeys (crediting settings) operation.run k fun _ _ => True

theorem Credence.credits_looking {s : Session String Value} {id : String} :
    (k.looking s).Credits settings id api ↔ k.Credits settings id api := by
  obtain ⟨context, sight⟩ := k
  cases sight <;> exact Iff.rfl

namespace Poised

/-- A thread that is poised may look first. -/
theorem session_bind (poised : Poised settings api k) {next : Session String Value → Operation α}
    (goes : ∀ s j, Poised settings api j → Proceeds settings j (next s)) :
    Proceeds settings k (session >>= next) := by
  refine .step_bind trivial fun (s : Session String Value) allowed => goes s _ ?_
  intro t seen id recorded
  exact Credence.credits_looking.mpr (poised t (Credence.allows_looking allowed seen) id recorded)

/-- A thread that is poised finds the path of a consumer that it may send requests for. -/
theorem consumerPath_bind (poised : Poised settings api k) {suffix : String} {next : String → Operation α}
    (goes : ∀ id j, j.Credits settings id api →
      Proceeds settings j (next (consumerAddress settings id ++ suffix))) :
    Proceeds settings k (consumerPath settings api suffix >>= next) := by
  have found : Obeys (crediting settings) (consumerPath settings api suffix).run k fun r j =>
      ∀ path, r = .ok path → ∃ id, path = consumerAddress settings id ++ suffix ∧ j.Credits settings id api := by
    refine .step_bind trivial fun (s : Session String Value) allowed => ?_
    split
    · next id held =>
      rintro path ⟨⟩
      have credits := poised s allowed id (heldConsumer?_eq_some.mp held).1
      exact ⟨id, rfl, Credence.credits_looking.mpr credits⟩
    · exact nofun
  refine found.bind ?_ fun _ _ _ => trivial
  intro path j named
  obtain ⟨id, rfl, credits⟩ := named path rfl
  exact goes id j credits

end Poised

/-- A request for a consumer, and whatever does no harm after it. -/
theorem proceeds_sendFor_bind {id : String} {method : Method} {path : String} {body : Option String}
    (credits : k.Credits settings id api)
    (concerns : Request.Concerns settings id api ⟨method, path, body, .ofApi api⟩)
    {next : Option String → Operation α} (goes : ∀ answer, Harmless settings (next answer)) :
    Proceeds settings k (sendFor api method path body >>= next) := by
  refine (crediting_sendFor fun n => .inr ⟨id, api, concerns, credits⟩).bind ?_ fun _ _ _ => trivial
  exact fun answer j _ => goes answer j trivial

/-! ## Operations on a consumer -/

/-- Nothing is recorded, or a consumer with a name, of a group. -/
def Recorded (settings : Settings) (consumer : Option String) : Prop :=
  ∀ id, consumer = some id → id ≠ "" ∧ settings.group ≠ .null

/-- A thread that has looked inside an operation, and goes by what it has seen in its log context. -/
structure Working (settings : Settings) (api : Api) (consumer : Option String) (k : Credence) : Prop where
  group : settings.group ≠ .null → k.context.group = settings.group
  named : k.context.consumer = (consumer.map .text).getD (.text "")
  api : k.context.api = .text api.name
  sight : k.sight = .seen consumer
  recorded : Recorded settings consumer

theorem Working.context {consumer : Option String} (working : Working settings api consumer k)
    (grouped : settings.group ≠ .null) :
    k.context = ⟨settings.group, (consumer.map .text).getD (.text ""), .text api.name⟩ := by
  rw [← working.group grouped, ← working.named, ← working.api]

theorem Working.poised {consumer : Option String} (working : Working settings api consumer k) :
    Poised settings api k := by
  intro s allowed id recorded
  have same : consumer = some id := (allowed.1 consumer working.sight).symm.trans recorded
  unfold Credence.Credits
  rw [working.sight, working.context (allowed.2 id recorded).2, same]
  rfl

/-- What a block leaves: a thread that has given up its claim, or that was refused one. -/
def Leaving (k : Credence) (r : Except Failure α) (later : Credence) : Prop :=
  later = k.outside ∨ later = k ∧ ∃ e, r = .error e

theorem crediting_acquireActive (name : String) (k : Credence) :
    Obeys (crediting settings) (acquireActive name).run k fun r later =>
      (∀ a, r = .ok a → ∃ consumer, Recorded settings consumer ∧ later = { k with sight := .seen consumer }) ∧
        ∀ e, r = .error e → Leaving k r later := by
  unfold acquireActive
  refine ⟨trivial, fun answer _ => ?_⟩
  cases answer with
  | error e => exact ⟨nofun, fun _ same => .inr ⟨rfl, e, rfl⟩⟩
  | ok _ =>
    refine .step_bind trivial fun (s : Session String Value) allowed => ?_
    split
    · exact ⟨trivial, fun
        | .ok _, _ => ⟨nofun, fun _ _ => .inl rfl⟩
        | .error _, _ => ⟨nofun, fun _ _ => .inl rfl⟩⟩
    · exact ⟨fun _ _ => ⟨s.consumer, allowed.2, rfl⟩, nofun⟩

/-- A block under the guard that leaves the log context as it was. -/
theorem crediting_holding {name : String} {body : Operation α}
    (obeys : ∀ consumer, Recorded settings consumer →
      Obeys (crediting settings) body.run { k with sight := .seen consumer } fun _ later => later.context = k.context) :
    Obeys (crediting settings) (holding name body).run k (Leaving k) := by
  refine (crediting_acquireActive name k).bind ?_ fun e later ended => ?_
  · rintro ⟨⟩ later ⟨claimed, -⟩
    obtain ⟨consumer, recorded, rfl⟩ := claimed () rfl
    refine (obeys consumer recorded).ensuring ?_
    intro r later same
    have left : later.outside = k.outside := congrArg (Credence.mk · .unsure) same
    exact ⟨trivial, fun
      | .ok _, _ => ⟨fun _ => .inl left, nofun⟩
      | .error _, _ => ⟨nofun, fun _ _ => .inl left⟩⟩
  · obtain same | ⟨same, -⟩ := ended.2 e rfl
    · exact .inl same
    · exact .inr ⟨same, e, rfl⟩

/-- A block in a log context of its own, which it may change. -/
theorem crediting_inContext {change : LogContext.Change} {body : Operation α}
    (proceeds : Proceeds settings (k.changed change) body) :
    Obeys (crediting settings) (inContext change body).run k fun _ later => later.context = k.context := by
  refine .step_bind trivial fun found same => ?_
  cases same
  refine .step_bind trivial fun _ _ => ?_
  refine proceeds.ensuring ?_
  rintro r later -
  exact ⟨trivial, fun _ _ => ⟨fun _ => rfl, nofun⟩⟩

/-- The block of an operation goes by the consumer that is recorded when it begins. -/
theorem crediting_named {body : Operation α} (unnamed : k.context.consumer = .text "")
    (proceeds : ∀ consumer j, Working settings api consumer j → Proceeds settings j body) :
    Obeys (crediting settings) (named settings api body).run k (Leaving k) := by
  refine crediting_holding fun consumer recorded => ?_
  refine .step_bind trivial fun (s : Session String Value) allowed => ?_
  refine crediting_inContext (proceeds s.consumer _ ⟨?_, ?_, rfl, rfl, allowed.2⟩)
  · intro grouped
    show (attribution settings api s).group.getD k.context.group = settings.group
    unfold attribution
    cases same : settings.group with
    | null => exact absurd same grouped
    | _ => rfl
  · rw [← unnamed]
    rfl

/-- From between operations, what a block leaves is what there was before. -/
theorem balances_of_leaving {operation : Operation α}
    (leaves : ∀ k : Credence, k.context.consumer = .text "" →
      Obeys (crediting settings) operation.run k (Leaving k)) :
    Balances (crediting settings) Credence.Calm operation := fun k calm =>
  (leaves k calm.unnamed).weaken fun _ _ left => by
    obtain same | ⟨same, -⟩ := left
    · exact same.trans calm.outside
    · exact same

theorem crediting_create (unnamed : k.context.consumer = .text "") :
    Obeys (crediting settings) (create settings).run k (Leaving k) := by
  refine crediting_named unnamed fun consumer j working => ?_
  cases grouped : settings.group.truthy with
  | false => exact trivial
  | true =>
    simp only [Bool.not_true, Bool.false_eq_true, ↓reduceIte]
    have some : settings.group ≠ .null := by
      intro missing
      rw [missing] at grouped
      cases grouped
    refine (harmless_reset .create j trivial).bind (fun _ j _ => ?_) fun _ _ _ => trivial
    refine (balances_written _ _).anywhere_bind (fun body => ?_) fun _ => trivial
    refine (crediting_sendFor fun n => .inl ⟨body, rfl⟩).bind ?_ fun _ _ _ => trivial
    rintro answer later rfl
    refine (crediting_understand _ _).anywhere_bind (fun created => ?_) fun _ => trivial
    have recorded : Obeys (crediting settings) (setConsumer created.id .create).run later fun _ _ => True :=
      ⟨some, fun _ _ => trivial⟩
    refine recorded.bind (fun _ j _ => ?_) fun _ _ _ => trivial
    exact .step_bind trivial fun _ _ => (crediting_log _ _ _).harmless _ trivial

/-- Once a consumer is there, a subscription goes its way. -/
theorem proceeds_subscribeHeld (poised : Poised settings .subscribe k) (wanted : List Value) :
    Proceeds settings k (subscribeHeld settings wanted) := by
  unfold subscribeHeld
  refine poised.consumerPath_bind fun id j credits => ?_
  cases checked : TopicsBody.ofArguments [("topics", .list wanted)] with
  | error issues => exact trivial
  | ok body =>
    have records : Harmless settings (replaceTopics wanted .subscribe) :=
      fun _ _ => ⟨trivial, fun _ _ => trivial⟩
    exact proceeds_sendFor_bind credits (.subscription body.topics) fun answer =>
      records.bind fun _ => harmless_session.bind fun s => (crediting_log _ _ _).harmless

theorem crediting_subscribe (topics : Topics) (unnamed : k.context.consumer = .text "") :
    Obeys (crediting settings) (subscribe settings topics).run k (Leaving k) := by
  refine crediting_named unnamed fun consumer j working => ?_
  refine (balances_settle _).anywhere_bind (fun wanted => ?_) fun _ => trivial
  refine .step_bind trivial fun (s : Session String Value) allowed => ?_
  have same : s.consumer = consumer := allowed.1 consumer working.sight
  have still : j.looking s = j := by
    obtain ⟨context, sight⟩ := j
    cases working.sight
    rw [← same]
    rfl
  show Proceeds settings (j.looking s) _
  rw [still]
  cases holds : s.hasConsumer with
  | true => exact proceeds_subscribeHeld working.poised wanted
  | false =>
    have nobody : consumer = none := by
      cases consumer with
      | none => rfl
      | some id =>
        rw [hasConsumer_eq_isSome, heldConsumer?_eq_some.mpr ⟨same, (working.recorded id rfl).1⟩] at holds
        cases holds
    subst nobody
    refine (crediting_create working.named).bind ?_ fun _ _ _ => trivial
    intro a later left
    obtain rfl | ⟨-, e, failed⟩ := left
    · refine proceeds_subscribeHeld ?_ wanted
      intro t seen id recorded
      exact ⟨rfl, working.context (seen.2 id recorded).2⟩
    · cases failed

theorem crediting_subscriptions (unnamed : k.context.consumer = .text "") :
    Obeys (crediting settings) (subscriptions settings).run k (Leaving k) := by
  refine crediting_named unnamed fun consumer j working => ?_
  refine working.poised.consumerPath_bind fun id j credits => ?_
  refine proceeds_sendFor_bind credits .inquiry fun answer => ?_
  split
  · exact (balances_pure _).harmless
  · exact (balances_pure _).harmless
  · exact (crediting_understand _ _).harmless

theorem crediting_delete (unnamed : k.context.consumer = .text "") :
    Obeys (crediting settings) (delete settings).run k (Leaving k) := by
  refine crediting_named unnamed fun consumer j working => ?_
  refine working.poised.session_bind fun s j poised => ?_
  split
  · exact trivial
  · next id held =>
    have asked : Proceeds settings j (deletion settings id) := by
      refine Obeys.rescue (?_ : Obeys (crediting settings) _ j fun _ _ => True) (fun _ _ _ => trivial)
        fun e later _ => ?_
      · refine poised.consumerPath_bind fun other i credits => ?_
        rw [String.append_empty]
        have sent : Proceeds settings i (send (.deletion settings other)) :=
          ⟨trivial, fun n _ => ⟨.inr ⟨other, .delete, .deletion, credits⟩, fun _ _ => trivial⟩⟩
        exact sent.bind (fun _ later _ => (crediting_log _ _ _).harmless later trivial) fun _ _ _ => trivial
      · split
        · exact (crediting_log _ _ _).harmless _ trivial
        · exact trivial
    refine asked.ensuring fun r later _ => ?_
    exact (harmless_reset .delete later trivial).weaken fun _ _ _ => ⟨fun _ => trivial, fun _ _ => trivial⟩

theorem crediting_consume (timeout : Value) (unnamed : k.context.consumer = .text "") :
    Obeys (crediting settings) (consume settings timeout).run k (Leaving k) := by
  refine crediting_named unnamed fun consumer j working => ?_
  refine working.poised.session_bind fun s j poised => ?_
  cases s.isSubscribed with
  | false => exact trivial
  | true =>
    simp only [Bool.not_true, Bool.false_eq_true, ↓reduceIte]
    refine poised.consumerPath_bind fun id j credits => ?_
    cases positive : timeout.isPositive with
    | error f => exact trivial
    | ok above =>
      have concerns : Request.Concerns settings id .consume (.pull settings id timeout) := .pull timeout
      rw [Request.pull_eq settings id positive] at concerns
      refine proceeds_sendFor_bind credits concerns fun answer => ?_
      refine (crediting_understand _ _).harmless.bind fun batch => harmless_session.bind fun s => ?_
      exact ((crediting_log _ _ _).bind fun _ => balances_pure _).harmless

theorem crediting_commit (unnamed : k.context.consumer = .text "") :
    Obeys (crediting settings) (commit settings).run k (Leaving k) := by
  refine crediting_named unnamed fun consumer j working => ?_
  split
  · exact trivial
  · refine working.poised.consumerPath_bind fun id j credits => ?_
    exact proceeds_sendFor_bind credits .offsets fun _ => (balances_pure _).harmless

end

/-! ## Running -/

section
variable {settings : Settings} {context : LogContext}

/-- An operation leaves the log context as it was. -/
abbrev KeepsContext (settings : Settings) (context : LogContext) (operation : Operation α) : Prop :=
  Maintains (crediting settings) (fun k => k.context = context) operation

theorem keepsContext_of_leaving (unnamed : context.consumer = .text "") {operation : Operation α}
    (leaves : ∀ k : Credence, k.context.consumer = .text "" →
      Obeys (crediting settings) operation.run k (Leaving k)) : KeepsContext settings context operation := by
  rintro k rfl
  refine (leaves k unnamed).weaken ?_
  rintro r later (rfl | ⟨rfl, -⟩)
  · rfl
  · rfl

theorem Balances.keepsContext {operation : Operation α}
    (balances : Balances (crediting settings) (fun _ => True) operation) : KeepsContext settings context operation :=
  balances.maintains fun _ _ => trivial

theorem keepsContext_session : KeepsContext settings context session := crediting_session fun _ _ same => same

theorem keepsContext_goesOn (state : LoopState) : KeepsContext settings context (goesOn state) := by
  unfold goesOn
  split
  · exact crediting_flags.keepsContext.bind fun _ => (balances_pure _).keepsContext
  · exact (balances_pure _).keepsContext

section
variable (unnamed : context.consumer = .text "")
include unnamed

theorem keepsContext_recreate (e : Failure) : KeepsContext settings context (recreate settings e) :=
  keepsContext_session.bind fun _ => (crediting_log _ _ _).keepsContext.bind fun _ =>
    (keepsContext_of_leaving unnamed fun _ => crediting_delete).bind fun _ =>
      crediting_closeTransport.keepsContext.bind fun _ => crediting_openTransport.keepsContext.bind fun _ =>
        keepsContext_of_leaving unnamed fun _ => crediting_create

theorem keepsContext_deleteAfterFailure (e : Failure) :
    KeepsContext settings context (deleteAfterFailure settings e) := by
  refine keepsContext_session.bind fun _ => (crediting_log _ _ _).keepsContext.bind fun _ =>
    keepsContext_session.bind fun s => ?_
  split
  · refine (keepsContext_of_leaving unnamed fun _ => crediting_delete).rescue fun second => ?_
    split
    · exact (crediting_log _ _ _).keepsContext
    · exact (balances_throw _).keepsContext
  · exact (balances_pure _).keepsContext

theorem keepsContext_recover (goOn : Bool) (e : Failure) :
    KeepsContext settings context (recover settings goOn e) := by
  unfold recover
  split
  · exact (keepsContext_recreate unnamed e).bind fun _ => (balances_pure _).keepsContext
  · exact (keepsContext_deleteAfterFailure unnamed e).bind fun _ => (balances_throw _).keepsContext
  · exact (keepsContext_deleteAfterFailure unnamed e).bind fun _ => (balances_throw _).keepsContext
  · exact (balances_throw _).keepsContext

/-- A batch is handed to the callback after it was pulled, between operations. -/
theorem keepsContext_fetch (callback : CallbackId) (topics : List Value) (subscribed : Bool) :
    KeepsContext settings context (fetch settings callback topics subscribed) := by
  have handsOver (batch : Batch) (consumer : Option String) :
      Maintains (crediting settings) (fun k => k.context = context ∧ k.sight = .unsure)
        (callBack callback batch consumer) := fun k holds =>
    ⟨⟨holds.1 ▸ unnamed, holds.2⟩, fun _ _ => holds⟩
  have rest (stopped : Bool) : KeepsContext settings context (do
      if stopped then return none
      let batch ← consume settings settings.consumeTimeout
      let s ← session
      let wish ← callBack callback batch s.consumer
      if (← session).active then return some wish.truthy else return none) := by
    cases stopped with
    | true => exact (balances_pure _).keepsContext
    | false =>
      rintro k rfl
      refine (crediting_consume _ unnamed).bind ?_ ?_
      · intro batch later left
        obtain rfl | ⟨-, e, failed⟩ := left
        · have outside : k.outside.context = k.context ∧ k.outside.sight = .unsure := ⟨rfl, rfl⟩
          refine .step_bind trivial fun (s : Session String Value) _ => ?_
          refine (handsOver batch s.consumer _ outside).bind ?_ fun _ _ kept => kept.1
          intro wish j kept
          refine .step_bind trivial fun (t : Session String Value) _ => ?_
          split
          · exact kept.1
          · exact kept.1
        · cases failed
      · rintro e later (rfl | ⟨rfl, -⟩)
        · rfl
        · rfl
  unfold fetch
  cases subscribed with
  | true => exact (balances_pure _).keepsContext.bind rest
  | false =>
    exact (keepsContext_of_leaving unnamed fun _ => crediting_subscribe _).bind fun _ =>
      crediting_flags.keepsContext.bind fun _ => (balances_pure _).keepsContext.bind rest

theorem keepsContext_cycle (callback : CallbackId) (topics : List Value) (subscribed : Bool) :
    KeepsContext settings context (cycle settings callback topics subscribed) := by
  rintro k same
  refine (keepsContext_fetch unnamed callback topics subscribed k same).outcome_bind fun result later kept => ?_
  split
  · exact keepsContext_recover unnamed _ _ later kept
  · exact kept
  · exact ((keepsContext_of_leaving unnamed fun _ => crediting_commit).bind fun _ =>
      (balances_pure _).keepsContext).rescue (fun e => keepsContext_recover unnamed _ e) later kept

theorem keepsContext_loop (callback : CallbackId) (topics : List Value) (rounds : Nat) (state : LoopState) :
    KeepsContext settings context (loop settings callback topics rounds state) := by
  induction rounds generalizing state with
  | zero =>
    refine (keepsContext_goesOn state).bind fun going => ?_
    split
    · exact (balances_throw _).keepsContext
    · exact (balances_pure _).keepsContext
  | succ rounds ih =>
    refine (keepsContext_goesOn state).bind fun going => ?_
    split
    · exact (keepsContext_cycle unnamed callback topics state.subscribed).bind fun next => ih next
    · exact (balances_pure _).keepsContext

end

/-- Whoever has looked, or has no claim, can look and know no more than before. -/
theorem crediting_look : Balances (crediting settings) (fun k => k.sight ≠ .claimed) session := by
  intro k settled
  refine ⟨trivial, fun (s : Session String Value) allowed => ?_⟩
  obtain ⟨context, sight⟩ := k
  cases sight with
  | unsure => rfl
  | claimed => exact absurd rfl settled
  | seen consumer =>
    obtain rfl := allowed.1 consumer rfl
    rfl

theorem crediting_enterLoop (rounds : Nat) (callback : Option CallbackId) (topics : Topics) :
    Balances (crediting settings) (fun k => k.sight ≠ .claimed) (enterLoop settings rounds callback topics) := by
  have starts (patient : Bool) : Balances (crediting settings) (fun k => k.sight ≠ .claimed)
      (tryStart rounds patient) := by
    have marks : Balances (crediting settings) (fun k => k.sight ≠ .claimed) (step .tryStart) :=
      fun _ _ => ⟨trivial, fun _ _ => rfl⟩
    unfold tryStart
    cases patient with
    | false => exact marks
    | true => exact (crediting_flags.awaitIdle crediting_wait rounds).bind fun _ => marks
  unfold enterLoop
  cases settings.group.truthy with
  | false => exact balances_throw_bind _ _
  | true =>
    simp only [Bool.not_true, Bool.false_eq_true, ↓reduceIte]
    split
    · exact balances_throw _
    · refine (crediting_look.loopTopics topics).bind fun wanted =>
        Balances.bind (fun _ _ => ⟨trivial, fun _ _ => rfl⟩) fun claims => (starts _).bind fun started => ?_
      split
      · exact balances_pure _
      · exact (crediting_log _ _ _).bind fun _ => balances_pure _

theorem crediting_run (rounds : Nat) (callback : Option CallbackId) (topics : Topics) :
    Balances (crediting settings) Credence.Calm (run settings rounds callback topics) := by
  intro k calm
  unfold run
  refine (crediting_acquireActive runName k).bind ?_ ?_
  · rintro ⟨⟩ later ⟨claimed, -⟩
    obtain ⟨consumer, -, rfl⟩ := claimed () rfl
    refine (crediting_enterLoop rounds callback topics { k with sight := .seen consumer } nofun).outcome_bind ?_
    rintro entered later rfl
    have released : Credence.outside { k with sight := .seen consumer } = k := calm.outside
    split
    · exact ⟨trivial, fun | .ok _, _ => released | .error _, _ => released⟩
    · exact ⟨trivial, fun | .ok _, _ => released | .error _, _ => released⟩
    · next id wanted =>
      have looped (change : LogContext.Change) (unnamed : (k.context.apply change).consumer = .text "") :
          Obeys (crediting settings) (inContext change do
            log Level.info "Starting consume loop" [("topics", .list wanted)]
            loop settings id wanted rounds ⟨false, true⟩).run { k with sight := .seen consumer }
            fun _ later => later.context = k.context := by
        refine crediting_inContext ?_
        refine (crediting_log _ _ _).anywhere_bind (fun _ => ?_) fun _ => trivial
        exact (keepsContext_loop unnamed id wanted rounds _ _ rfl).weaken fun _ _ _ => trivial
      refine (looped _ ?_).outcome_bind ?_
      · exact calm.unnamed
      intro r later same
      have left : later.outside = k := (congrArg (Credence.mk · .unsure) same).trans calm.outside
      have ended : Obeys (crediting settings) (do
          step .finish
          log Level.info "Consume loop exited" [("consumer_group", settings.group)]
          settle r).run later.outside fun _ last => last = k := by
        rw [left]
        refine .step_bind trivial fun _ _ => ?_
        exact (crediting_log _ _ _).anywhere_bind (fun _ => (balances_settle r).anywhere k) fun _ => rfl
      exact ⟨trivial, fun | .ok _, _ => ended | .error _, _ => left⟩
  · rintro e later ⟨-, refused⟩
    obtain same | ⟨same, -⟩ := refused e rfl
    · exact same.trans calm.outside
    · exact same

theorem crediting_stop (rounds : Nat) : Balances (crediting settings) Credence.Calm (stop settings rounds) := by
  have steps (s : Step) (plain : ∀ k answer, Credence.after k (.step s) answer = k)
      (permitted : ∀ k, Credence.permits settings k (.step s)) :
      Balances (crediting settings) Credence.Calm (step s) :=
    fun k _ => ⟨permitted k, fun answer _ => plain k answer⟩
  refine crediting_flags.bind fun f => ?_
  split
  · exact balances_pure _
  · refine (steps .tryRequestStop (fun _ _ => rfl) fun _ => trivial).bind fun asked => ?_
    split
    · exact balances_pure _
    · refine (steps .held (fun _ _ => rfl) fun _ => trivial).bind fun own => ?_
      split
      · exact crediting_log _ _ _
      · exact ((Balances.awaitEnd crediting_flags crediting_log (crediting_sleep _) rounds).rescue fun e =>
          balances_throw _).ensuring (steps .clearStopRequest (fun _ _ => rfl) fun _ => trivial)

theorem crediting_destroy (rounds : Nat) : Balances (crediting settings) Credence.Calm (destroy settings rounds) := by
  have looks : Balances (crediting settings) Credence.Calm session :=
    fun k calm => crediting_look k fun claimed => nomatch calm.unsure.symm.trans claimed
  have frozen : Balances (crediting settings) Credence.Calm (step .deactivate) :=
    fun _ _ => ⟨trivial, fun _ _ => rfl⟩
  have body : Balances (crediting settings) Credence.Calm (do
      if (← session).active then
        stop settings rounds
        delete settings
        closeTransport
        step .deactivate
        log Level.info "Channel destroyed" [("consumer_group", settings.group)]) := by
    refine looks.bind fun s => ?_
    split
    · exact (crediting_stop rounds).bind fun _ => (balances_of_leaving fun _ => crediting_delete).bind fun _ =>
        crediting_closeTransport.bind fun _ => frozen.bind fun _ => crediting_log _ _ _
    · exact balances_pure _
  refine Balances.bind (fun _ _ => ⟨trivial, fun _ _ => rfl⟩) fun free => ?_
  cases free with
  | false => exact balances_throw_bind _ _
  | true => exact body.ensuring fun _ _ => ⟨trivial, fun _ _ => rfl⟩

theorem Move.crediting (move : Move) : Balances (crediting settings) Credence.Calm (move.operation settings) := by
  cases move with
  | create => exact balances_of_leaving fun _ => crediting_create
  | subscribe topics => exact balances_of_leaving fun _ => crediting_subscribe topics
  | subscriptions => exact (balances_of_leaving fun _ => crediting_subscriptions).bind fun _ => balances_pure _
  | delete => exact balances_of_leaving fun _ => crediting_delete
  | consume timeout => exact (balances_of_leaving fun _ => crediting_consume timeout).bind fun _ => balances_pure _
  | commit => exact balances_of_leaving fun _ => crediting_commit
  | run rounds callback topics => exact crediting_run rounds callback topics
  | stop rounds => exact crediting_stop rounds
  | destroy rounds => exact crediting_destroy rounds

/-- A thread that makes moves is between operations in the end. -/
theorem crediting_client (moves : List Move) {k : Credence} (calm : k.Calm) :
    Obeys (crediting settings) (client settings moves) k fun _ later => later = k := by
  induction moves with
  | nil => rfl
  | cons move rest ih =>
    refine (move.crediting k calm).andThen ?_
    rintro r later rfl
    exact ih

end

end ConsumerChannel.Channel
