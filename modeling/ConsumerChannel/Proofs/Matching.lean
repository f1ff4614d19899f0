import ConsumerChannel.Proofs.Deployment
import ConsumerChannel.Proofs.Operations

/-! Operations of channels that differ only in where the service is. They ask the same questions one after another, but
for requests, which are sent for the same purposes on the paths of either channel. Each way of composing operations
keeps them matching, so that the operations match one by one. -/
namespace ConsumerChannel

/-- Settings that differ in the address and in the path of the service only. -/
def Settings.Elsewhere (s t : Settings) : Prop :=
  ∃ base pathPrefix consumerPathPrefix,
    t = { s with base := base, pathPrefix := pathPrefix, consumerPathPrefix := consumerPathPrefix }

theorem Settings.Elsewhere.refl (s : Settings) : s.Elsewhere s := ⟨_, _, _, rfl⟩

namespace Channel
open Operation

/-! ## Requests -/

/-- What a request is sent for. -/
inductive Purpose where
  | creation (body : String)
  | subscription (consumer : String) (topics : List String)
  | inquiry (consumer : String)
  | pull (consumer : String) (timeout : Value)
  | offsets (consumer : String)
  | deletion (consumer : String)

/-- The request for a purpose. -/
def Purpose.request (settings : Settings) : Purpose → Request
  | creation body => .creation settings body
  | subscription consumer topics => .subscription settings consumer topics
  | inquiry consumer => .inquiry settings consumer
  | pull consumer timeout => .pull settings consumer timeout
  | offsets consumer => .offsets settings consumer
  | deletion consumer => .deletion settings consumer

/-! ## Programs -/

/-- Whether a question is a request. -/
def Query.isRequest : Query → Bool
  | .outside (.send _ _) => true
  | _ => false

/-- Two programs that ask the same questions, but for requests, which are for the same purposes under the settings of
either. -/
inductive Matches (s t : Settings) {α : Type} :
    Program Query Query.Answer α → Program Query Query.Answer α → Prop where
  | done (a : α) : Matches s t (.done a) (.done a)
  | same (q : Query) (other : q.isRequest = false)
      {f g : q.Answer → Program Query Query.Answer α} (next : ∀ answer, Matches s t (f answer) (g answer)) :
      Matches s t (.ask q f) (.ask q g)
  | sent (n : Nat) (purpose : Purpose) {f g : Except Failure (Option String) → Program Query Query.Answer α}
      (next : ∀ answer, Matches s t (f answer) (g answer)) :
      Matches s t (.ask (.outside (.send n (purpose.request s))) f) (.ask (.outside (.send n (purpose.request t))) g)

theorem Matches.andThen {s t : Settings} {first second : Program Query Query.Answer α}
    {f g : α → Program Query Query.Answer β} (head : Matches s t first second)
    (tail : ∀ a, Matches s t (f a) (g a)) : Matches s t (first.andThen f) (second.andThen g) := by
  induction head with
  | done a => exact tail a
  | same q other next ih => exact .same q other ih
  | sent n purpose next ih => exact .sent n purpose ih

/-! ## Composed operations -/

private theorem andThen_assoc {γ : Type} (program : Program Query Query.Answer α) (f : α → Program Query Query.Answer β)
    (g : β → Program Query Query.Answer γ) :
    (program.andThen f).andThen g = program.andThen fun a => (f a).andThen g := by
  induction program with
  | done a => rfl
  | ask q next ih => exact congrArg (Program.ask q) (funext ih)

namespace Operation

theorem assoc {γ : Type} (first : Operation α) (second : α → Operation β) (third : β → Operation γ) :
    first >>= second >>= third = first >>= fun a => second a >>= third := by
  refine (andThen_assoc first.run _ _).trans (congrArg first.run.andThen (funext fun result => ?_))
  cases result <;> rfl

/-- Two operations match. -/
def Matching (s t : Settings) (first second : Operation α) : Prop := Matches s t first.run second.run

section
variable {s t : Settings} {first second : Operation α}

theorem matching_pure (a : α) : Matching s t (pure a) (pure a) := .done _

theorem matching_throw (e : Failure) : Matching s t (throw e : Operation α) (throw e) := .done _

theorem matching_settle (result : Except Failure α) : Matching s t (settle result) (settle result) := by
  cases result with
  | ok a => exact matching_pure a
  | error e => exact matching_throw e

theorem matching_ofFault (result : Except Fault α) : Matching s t (ofFault result) (ofFault result) := by
  cases result with
  | ok a => exact matching_pure a
  | error f => exact matching_throw _

theorem matching_step (taken : Step) : Matching s t (step taken) (step taken) := .same _ rfl fun _ => .done _

theorem Matching.bind {f g : α → Operation β} (head : Matching s t first second)
    (tail : ∀ a, Matching s t (f a) (g a)) : Matching s t (first >>= f) (second >>= g) := by
  refine Matches.andThen head ?_
  intro result
  cases result with
  | ok a => exact tail a
  | error e => exact .done _

theorem Matching.outcome (body : Matching s t first second) : Matching s t (outcome first) (outcome second) :=
  Matches.andThen body fun _ => .done _

theorem Matching.rescue {f g : Failure → Operation α} (body : Matching s t first second)
    (repair : ∀ e, Matching s t (f e) (g e)) : Matching s t (rescue first f) (rescue second g) := by
  refine body.outcome.bind ?_
  intro result
  cases result with
  | ok a => exact matching_pure a
  | error e => exact repair e

theorem Matching.ensuring {last closing : Operation Unit} (body : Matching s t first second)
    (closes : Matching s t last closing) : Matching s t (ensuring first last) (ensuring second closing) :=
  body.outcome.bind fun result => closes.bind fun _ => matching_settle result

/-- A part that is gone through on a condition only. -/
theorem Matching.firstly {c : Prop} [Decidable c] {head before : Operation Unit} {f g : Unit → Operation α}
    (first : Matching s t head before) (rest : ∀ u, Matching s t (f u) (g u)) :
    Matching s t (if c then head >>= f else f ()) (if c then before >>= g else g ()) := by
  split
  · exact first.bind rest
  · exact rest ()

theorem Matching.tagged (api : Api) (body : Matching s t first second) :
    Matching s t (tagged api first) (tagged api second) := body.rescue fun _ => matching_throw _

theorem matching_acquire (api : String) : Matching s t (acquire api) (acquire api) := .same _ rfl fun _ => .done _

theorem matching_release : Matching s t release release := .same _ rfl fun _ => .done _

theorem matching_unlockDestroy : Matching s t unlockDestroy unlockDestroy := .same _ rfl fun _ => .done _

theorem matching_wait : Matching s t wait wait := .same _ rfl fun _ => .done _

theorem matching_sleep (seconds : Value) : Matching s t (sleep seconds) (sleep seconds) :=
  .same _ rfl fun _ => .done _

theorem matching_callBack (id : CallbackId) (batch : Batch) (consumer : Option String) :
    Matching s t (callBack id batch consumer) (callBack id batch consumer) := .same _ rfl fun _ => .done _

theorem matching_setConsumer (id : String) (api : Api) : Matching s t (setConsumer id api) (setConsumer id api) :=
  .same _ rfl fun _ => .done _

theorem matching_replaceTopics (topics : List Value) (api : Api) :
    Matching s t (replaceTopics topics api) (replaceTopics topics api) := .same _ rfl fun _ => .done _

theorem matching_log (level : Level) (message : String) (extras : List (String × Value)) :
    Matching s t (log level message extras) (log level message extras) := .same _ rfl fun _ => .done _

theorem matching_closeTransport : Matching s t closeTransport closeTransport :=
  (matching_step _).bind fun _ => .same _ rfl fun _ => .done _

theorem matching_openTransport : Matching s t openTransport openTransport :=
  .same _ rfl fun
    | .ok n => matching_step (.useTransport n)
    | .error e => matching_throw e

theorem matching_reset (api : Api) : Matching s t (reset api) (reset api) := by
  have forgets : Matching s t (ExceptT.mk (ask (.step (.resetSession (some api.name)))) : Operation Unit)
      (ExceptT.mk (ask (.step (.resetSession (some api.name))))) := .same _ rfl fun _ => .done _
  have cookies (n : Nat) : Matching s t (ExceptT.mk (ask (.outside (.resetCookies n))) : Operation Unit)
      (ExceptT.mk (ask (.outside (.resetCookies n)))) := .same _ rfl fun _ => .done _
  have authorization (n : Nat) : Matching s t (ExceptT.mk (ask (.outside (.resetAuthorization n))) : Operation Unit)
      (ExceptT.mk (ask (.outside (.resetAuthorization n)))) := .same _ rfl fun _ => .done _
  exact forgets.bind fun _ => (matching_step .transport).bind fun n => (cookies n).bind fun _ => authorization n

theorem matching_send (purpose : Purpose) : Matching s t (send (purpose.request s)) (send (purpose.request t)) :=
  (matching_step _).bind fun n => .sent n purpose fun _ => .done _

theorem matching_acquireActive (api : String) : Matching s t (acquireActive api) (acquireActive api) := by
  refine (matching_acquire api).bind fun _ => (matching_step .session).bind fun found => ?_
  split
  · exact matching_release.bind fun _ => matching_throw _
  · exact matching_pure _

theorem Matching.holding (api : String) (body : Matching s t first second) :
    Matching s t (holding api first) (holding api second) :=
  (matching_acquireActive api).bind fun _ => body.ensuring matching_release

theorem Matching.inContext (change : LogContext.Change) (body : Matching s t first second) :
    Matching s t (inContext change first) (inContext change second) :=
  (matching_step .context).bind fun _ => (matching_step _).bind fun _ => body.ensuring (matching_step _)

end

end Operation

/-! ## The operations of a channel -/

section
variable {s t : Settings}

theorem matching_written {γ : Type} (checked : Checked γ) (write : γ → Except Fault String) :
    Matching s t (written checked write) (written checked write) := by
  unfold written
  split
  · exact matching_ofFault _
  · exact matching_throw _

theorem matching_understand (api : Api) (reader : String → Checked α) (answer : Option String) :
    Matching s t (understand api reader answer) (understand api reader answer) := by
  unfold understand
  split
  · exact matching_throw _
  · exact matching_throw _
  · split
    · exact matching_pure _
    · exact matching_throw _

theorem consumerPath_bind (settings : Settings) (api : Api) (suffix : String) (next : String → Operation α) :
    consumerPath settings api suffix >>= next = session >>= fun held =>
      match heldConsumer? held with
      | some id => next (consumerAddress settings id ++ suffix)
      | none => throw (unheldFailure api) := by
  unfold consumerPath
  rw [Operation.assoc]
  refine congrArg (session >>= ·) (funext fun held => ?_)
  cases heldConsumer? held <;> rfl

/-- Operations on the consumer that is held match if they do for every consumer. -/
theorem matching_consumerPath_bind {api : Api} {suffix : String} {f g : String → Operation α}
    (found : ∀ consumer, Matching s t (f (consumerAddress s consumer ++ suffix))
      (g (consumerAddress t consumer ++ suffix))) :
    Matching s t (consumerPath s api suffix >>= f) (consumerPath t api suffix >>= g) := by
  rw [consumerPath_bind, consumerPath_bind]
  refine (matching_step .session).bind fun held => ?_
  split
  · exact found _
  · exact matching_throw _

end

section
variable {s t : Settings} (elsewhere : s.Elsewhere t)
include elsewhere

theorem Matching.named (api : Api) {first second : Operation α} (body : Matching s t first second) :
    Matching s t (named s api first) (named t api second) := by
  obtain ⟨_, _, _, rfl⟩ := elsewhere
  exact Matching.holding _ ((matching_step .session).bind fun _ => body.inContext _)

theorem matching_create : Matching s t (create s) (create t) := by
  refine Matching.named elsewhere .create ?_
  obtain ⟨_, _, _, rfl⟩ := elsewhere
  show Matching _ _ (if !s.group.truthy then _ else _) (if !s.group.truthy then _ else _)
  split
  · exact .done _
  · refine (matching_reset _).bind fun _ => (matching_written _ _).bind fun body => ?_
    refine ((matching_send (.creation body)).tagged .create).bind fun answer => ?_
    refine (matching_understand _ _ answer).bind fun created => (matching_setConsumer _ _).bind fun _ => ?_
    exact (matching_step _).bind fun _ => matching_log _ _ _

omit elsewhere in
theorem matching_subscribeHeld (wanted : List Value) :
    Matching s t (subscribeHeld s wanted) (subscribeHeld t wanted) := by
  unfold subscribeHeld
  refine matching_consumerPath_bind fun consumer => ?_
  cases checked : TopicsBody.ofArguments [("topics", .list wanted)] with
  | error issues => exact .done _
  | ok body =>
    show Matching s t
      (sendFor .subscribe .post (consumerAddress s consumer ++ "/subscription") (some body.toText) >>= _)
      (sendFor .subscribe .post (consumerAddress t consumer ++ "/subscription") (some body.toText) >>= _)
    refine ((matching_send (.subscription consumer body.topics)).tagged .subscribe).bind fun _ => ?_
    exact (matching_replaceTopics _ _).bind fun _ => (matching_step .session).bind fun _ => matching_log _ _ _

theorem matching_subscribe (topics : Topics) : Matching s t (subscribe s topics) (subscribe t topics) := by
  refine Matching.named elsewhere .subscribe ?_
  refine (matching_settle _).bind fun wanted => (matching_step .session).bind fun held => ?_
  exact Matching.firstly (matching_create elsewhere) fun _ => matching_subscribeHeld wanted

theorem matching_subscriptions : Matching s t (subscriptions s) (subscriptions t) := by
  refine Matching.named elsewhere .subscriptions (matching_consumerPath_bind fun consumer => ?_)
  refine ((matching_send (.inquiry consumer)).tagged .subscriptions).bind fun answer => ?_
  split
  · exact matching_pure _
  · exact matching_pure _
  · exact matching_understand _ _ _

omit elsewhere in
theorem matching_deletion (id : String) : Matching s t (deletion s id) (deletion t id) := by
  refine Matching.rescue (matching_consumerPath_bind fun consumer => ?_) fun e => ?_
  · rw [String.append_empty, String.append_empty]
    exact (matching_send (.deletion consumer)).bind fun _ => matching_log _ _ _
  · split
    · exact matching_log _ _ _
    · exact matching_throw _

theorem matching_delete : Matching s t (delete s) (delete t) := by
  refine Matching.named elsewhere .delete ((matching_step .session).bind fun held => ?_)
  split
  · exact matching_pure _
  · exact (matching_deletion _).ensuring (matching_reset _)

theorem matching_consume (timeout : Value) : Matching s t (consume s timeout) (consume t timeout) := by
  refine Matching.named elsewhere .consume ((matching_step .session).bind fun held => ?_)
  refine Matching.firstly (matching_throw _) fun _ => matching_consumerPath_bind fun consumer => ?_
  cases compared : timeout.isPositive with
  | error f => exact .done _
  | ok positive =>
    have sends : Matching s t (tagged .consume (send (.pull s consumer timeout)))
        (tagged .consume (send (.pull t consumer timeout))) := (matching_send (.pull consumer timeout)).tagged .consume
    rw [Request.pull_eq s consumer compared, Request.pull_eq t consumer compared] at sends
    show Matching s t
      (sendFor .consume .get
        (if positive then consumerAddress s consumer ++ "/records" ++ "?timeout=" ++ timeout.plain
          else consumerAddress s consumer ++ "/records") none >>= _)
      (sendFor .consume .get
        (if positive then consumerAddress t consumer ++ "/records" ++ "?timeout=" ++ timeout.plain
          else consumerAddress t consumer ++ "/records") none >>= _)
    refine Matching.bind sends fun answer => (matching_understand _ _ answer).bind fun batch => ?_
    exact (matching_step .session).bind fun _ => (matching_log _ _ _).bind fun _ => matching_pure batch

theorem matching_commit : Matching s t (commit s) (commit t) := by
  refine Matching.named elsewhere .commit ?_
  obtain ⟨_, _, _, rfl⟩ := elsewhere
  show Matching _ _ (if s.autoCommits then _ else _) (if s.autoCommits then _ else _)
  split
  · exact matching_pure _
  · exact matching_consumerPath_bind fun consumer =>
      ((matching_send (.offsets consumer)).tagged .commit).bind fun _ => matching_pure _

theorem matching_recreate (e : Failure) : Matching s t (recreate s e) (recreate t e) := by
  refine (matching_step .session).bind fun _ => (matching_log _ _ _).bind fun _ => ?_
  refine (matching_delete elsewhere).bind fun _ => matching_closeTransport.bind fun _ => ?_
  exact matching_openTransport.bind fun _ => matching_create elsewhere

theorem matching_deleteAfterFailure (e : Failure) :
    Matching s t (deleteAfterFailure s e) (deleteAfterFailure t e) := by
  refine (matching_step .session).bind fun _ => (matching_log _ _ _).bind fun _ => ?_
  refine (matching_step .session).bind fun held => ?_
  split
  · refine (matching_delete elsewhere).rescue fun second => ?_
    split
    · exact matching_log _ _ _
    · exact matching_throw _
  · exact matching_pure _

theorem matching_recover (goOn : Bool) (e : Failure) : Matching s t (recover s goOn e) (recover t goOn e) := by
  have wish : s.retryOnFail = t.retryOnFail := by
    obtain ⟨_, _, _, rfl⟩ := elsewhere
    rfl
  unfold recover
  rw [wish]
  split
  · exact (matching_recreate elsewhere e).bind fun _ => matching_pure _
  · exact (matching_deleteAfterFailure elsewhere e).bind fun _ => matching_throw e
  · exact (matching_deleteAfterFailure elsewhere e).bind fun _ => matching_throw e
  · exact matching_throw e

theorem matching_fetch (callback : CallbackId) (topics : List Value) (subscribed : Bool) :
    Matching s t (fetch s callback topics subscribed) (fetch t callback topics subscribed) := by
  have wait : s.consumeTimeout = t.consumeTimeout := by
    obtain ⟨_, _, _, rfl⟩ := elsewhere
    rfl
  have rest (stopped : Bool) : Matching s t
      (if stopped then return none
        else do
          let batch ← consume s t.consumeTimeout
          let held ← session
          let wish ← callBack callback batch held.consumer
          if (← session).active then return some wish.truthy else return none)
      (if stopped then return none
        else do
          let batch ← consume t t.consumeTimeout
          let held ← session
          let wish ← callBack callback batch held.consumer
          if (← session).active then return some wish.truthy else return none) := by
    split
    · exact matching_pure _
    · refine (matching_consume elsewhere _).bind fun batch => (matching_step .session).bind fun held => ?_
      refine (matching_callBack _ _ _).bind fun wish => (matching_step .session).bind fun left => ?_
      split <;> exact matching_pure _
  unfold fetch
  rw [wait]
  cases subscribed with
  | true => exact (matching_pure false).bind rest
  | false =>
    refine (matching_subscribe elsewhere _).bind fun _ => (matching_step .flags).bind fun found => ?_
    exact (matching_pure found.stopRequested).bind rest

omit elsewhere in
theorem matching_goesOn (state : LoopState) : Matching s t (goesOn state) (goesOn state) := by
  unfold goesOn
  split
  · exact (matching_step .flags).bind fun _ => matching_pure _
  · exact matching_pure _

theorem matching_cycle (callback : CallbackId) (topics : List Value) (subscribed : Bool) :
    Matching s t (cycle s callback topics subscribed) (cycle t callback topics subscribed) := by
  refine (matching_fetch elsewhere callback topics subscribed).outcome.bind fun fetched => ?_
  split
  · exact matching_recover elsewhere _ _
  · exact matching_pure _
  · exact ((matching_commit elsewhere).bind fun _ => matching_pure _).rescue fun e => matching_recover elsewhere _ e

theorem matching_loop (callback : CallbackId) (topics : List Value) (rounds : Nat) (state : LoopState) :
    Matching s t (loop s callback topics rounds state) (loop t callback topics rounds state) := by
  induction rounds generalizing state with
  | zero =>
    refine (matching_goesOn state).bind fun going => ?_
    split
    · exact matching_throw _
    · exact matching_pure _
  | succ rounds ih =>
    refine (matching_goesOn state).bind fun going => ?_
    split
    · exact (matching_cycle elsewhere callback topics state.subscribed).bind ih
    · exact matching_pure _

omit elsewhere in
theorem matching_loopTopics (topics : Topics) : Matching s t (loopTopics topics) (loopTopics topics) := by
  have recorded : Matching s t (do return (← session).topics) _ :=
    (matching_step .session).bind fun _ => matching_pure _
  unfold loopTopics
  split
  · exact recorded
  · exact recorded
  · exact matching_pure _
  · exact matching_throw _
  · exact recorded
  · exact matching_pure _

omit elsewhere in
theorem matching_awaitIdle (rounds : Nat) : Matching s t (awaitIdle rounds) (awaitIdle rounds) := by
  induction rounds with
  | zero =>
    refine (matching_step .flags).bind fun found => ?_
    split
    · exact matching_throw _
    · exact matching_pure _
  | succ rounds ih =>
    refine (matching_step .flags).bind fun found => ?_
    split
    · exact matching_wait.bind fun _ => ih
    · exact matching_pure _

omit elsewhere in
theorem matching_tryStart (rounds : Nat) (patient : Bool) :
    Matching s t (tryStart rounds patient) (tryStart rounds patient) :=
  Matching.firstly (matching_awaitIdle rounds) fun _ => matching_step .tryStart

theorem matching_enterLoop (rounds : Nat) (callback : Option CallbackId) (topics : Topics) :
    Matching s t (enterLoop s rounds callback topics) (enterLoop t rounds callback topics) := by
  obtain ⟨_, _, _, rfl⟩ := elsewhere
  unfold enterLoop
  refine Matching.firstly (matching_throw _) fun _ => ?_
  split
  · exact matching_throw _
  · refine (matching_loopTopics topics).bind fun wanted => (matching_step .depth).bind fun claims => ?_
    refine (matching_tryStart rounds _).bind fun started => ?_
    split
    · exact matching_pure _
    · exact (matching_log _ _ _).bind fun _ => matching_pure _

theorem matching_run (rounds : Nat) (callback : Option CallbackId) (topics : Topics) :
    Matching s t (run s rounds callback topics) (run t rounds callback topics) := by
  refine (matching_acquireActive _).bind fun _ => ?_
  refine (matching_enterLoop elsewhere rounds callback topics).outcome.bind fun entered => ?_
  split
  · exact matching_release.bind fun _ => matching_throw _
  · exact matching_release
  · have loops := fun (wanted : List Value) (id : CallbackId) =>
      (matching_log Level.info "Starting consume loop" [("topics", .list wanted)]).bind fun _ =>
        matching_loop elsewhere id wanted rounds ⟨false, true⟩
    obtain ⟨_, _, _, rfl⟩ := elsewhere
    refine ((loops _ _).inContext _).outcome.bind fun result => matching_release.bind fun _ => ?_
    exact (matching_step .finish).bind fun _ => (matching_log _ _ _).bind fun _ => matching_settle result

theorem matching_awaitEnd (rounds : Nat) : Matching s t (awaitEnd s rounds) (awaitEnd t rounds) := by
  obtain ⟨_, _, _, rfl⟩ := elsewhere
  induction rounds with
  | zero =>
    refine (matching_step .flags).bind fun found => ?_
    exact Matching.firstly (matching_throw _) fun _ => matching_log _ _ _
  | succ rounds ih =>
    refine (matching_step .flags).bind fun found => ?_
    split
    · exact (matching_log _ _ _).bind fun _ => (matching_sleep _).bind fun _ => ih
    · exact matching_log _ _ _

theorem matching_stop (rounds : Nat) : Matching s t (stop s rounds) (stop t rounds) := by
  refine (matching_step .flags).bind fun found => ?_
  split
  · exact matching_pure _
  · refine (matching_step .tryRequestStop).bind fun granted => ?_
    split
    · exact matching_pure _
    · refine (matching_step .held).bind fun own => ?_
      split
      · exact matching_log _ _ _
      · exact ((matching_awaitEnd elsewhere rounds).rescue fun _ => matching_throw _).ensuring (matching_step _)

theorem matching_destroy (rounds : Nat) : Matching s t (destroy s rounds) (destroy t rounds) := by
  refine (matching_step .lockDestroy).bind fun locked => ?_
  refine Matching.firstly (matching_throw _) fun _ => Matching.ensuring ?_ matching_unlockDestroy
  refine (matching_step .session).bind fun held => ?_
  split
  · refine (matching_stop elsewhere rounds).bind fun _ => (matching_delete elsewhere).bind fun _ => ?_
    refine matching_closeTransport.bind fun _ => (matching_step .deactivate).bind fun _ => ?_
    obtain ⟨_, _, _, rfl⟩ := elsewhere
    exact matching_log _ _ _
  · exact matching_pure _

theorem matching_establish : Matching s t (establish s) (establish t) := by
  obtain ⟨_, _, _, rfl⟩ := elsewhere
  exact matching_openTransport.bind fun _ => matching_log _ _ _

theorem matching_operation (move : Move) : Matching s t (move.operation s) (move.operation t) := by
  cases move with
  | create => exact matching_create elsewhere
  | subscribe topics => exact matching_subscribe elsewhere topics
  | subscriptions => exact (matching_subscriptions elsewhere).bind fun _ => matching_pure _
  | delete => exact matching_delete elsewhere
  | consume timeout => exact (matching_consume elsewhere timeout).bind fun _ => matching_pure _
  | commit => exact matching_commit elsewhere
  | run rounds callback topics => exact matching_run elsewhere rounds callback topics
  | stop rounds => exact matching_stop elsewhere rounds
  | destroy rounds => exact matching_destroy elsewhere rounds

theorem matching_yielding (move : Move) : Matching s t (move.yielding s) (move.yielding t) := by
  cases move with
  | subscriptions => exact (matching_subscriptions elsewhere).bind fun _ => matching_pure _
  | consume timeout => exact (matching_consume elsewhere timeout).bind fun _ => matching_pure _
  | _ => exact (matching_operation elsewhere _).bind fun _ => matching_pure _

end

end Channel

end ConsumerChannel
