import ConsumerChannel.Proofs.Calls

/-! The names of failures. A channel failure that leaves an operation on a consumer goes by the name of the operation,
whoever raised it and under whichever name, and whatever other threads do to the channel in the meantime. -/
namespace ConsumerChannel

/-- The operation that a channel failure names. -/
def Failure.api? : Failure → Option String
  | channel _ _ api _ _ => api
  | _ => none

theorem Failure.api?_tag {e : Failure} (channel : e.class? ≠ none) (api : String) : (e.tag api).api? = some api := by
  cases e with
  | channel kind message name status cause => rfl
  | _ => exact absurd rfl channel

namespace Channel
open Operation

/-! ## Turns as they may be -/

/-- What was answered is no channel failure. -/
def Foreign (answer : Except Failure α) : Prop := ∀ e, answer = .error e → e.class? = none

/-- A call to the outside that neither sends a request nor calls back fails with no channel failure. -/
def Turn.Housekept : Turn → Prop
  | ⟨_, .outside .openTransport, answer⟩ => Foreign answer
  | ⟨_, .outside (.closeTransport _), answer⟩ => Foreign answer
  | ⟨_, .outside (.resetCookies _), answer⟩ => Foreign answer
  | ⟨_, .outside (.resetAuthorization _), answer⟩ => Foreign answer
  | ⟨_, .outside .wait, answer⟩ => Foreign answer
  | ⟨_, .outside (.log _), answer⟩ => Foreign answer
  | _ => True

/-- A step is answered as it is from some memory. -/
def Turn.Faithful : Turn → Prop
  | ⟨t, .step s, answer⟩ => ∃ m, (s.apply t m).1 = answer
  | _ => True

/-- What turns may be answered. -/
structure Sensible (turns : List Turn) : Prop where
  housekept : ∀ turn ∈ turns, turn.Housekept
  faithful : ∀ turn ∈ turns, turn.Faithful

theorem Sensible.of_prefix {turns more : List Turn} (sensible : Sensible (turns ++ more)) : Sensible turns where
  housekept turn taken := sensible.housekept turn (List.mem_append_left _ taken)
  faithful turn taken := sensible.faithful turn (List.mem_append_left _ taken)

theorem Sensible.of_suffix {turns more : List Turn} (sensible : Sensible (more ++ turns)) : Sensible turns where
  housekept turn taken := sensible.housekept turn (List.mem_append_right _ taken)
  faithful turn taken := sensible.faithful turn (List.mem_append_right _ taken)

theorem Sensible.of_cons {turns : List Turn} {turn : Turn} (sensible : Sensible (turn :: turns)) : Sensible turns :=
  @Sensible.of_suffix turns [turn] sensible

/-- Threads are answered from the memory that they share. -/
theorem faithful_of_runs {settings : Settings} {start crowd : Crowd Shared} {turns : List Turn}
    (runs : Crowd.Runs (aroundChannel settings) start turns crowd) : ∀ turn ∈ turns, turn.Faithful := by
  induction runs with
  | start => exact List.forall_mem_nil _
  | aside runs digresses ih => exact ih
  | @turn turns crowd turn later runs takes ih =>
    refine List.forall_mem_append.mpr ⟨ih, List.forall_mem_singleton.mpr ?_⟩
    have answers := takes.answers
    obtain ⟨t, q, answer⟩ := turn
    cases q with
    | step s => exact ⟨_, answers.1⟩
    | outside call => trivial

/-! ## Failures and their turns -/

/-- Whenever an operation fails with a channel failure, its turns and the failure are related as stated. -/
def Blames (settings : Settings) (t : Thread) (operation : Operation α) (blame : List Turn → Failure → Prop) : Prop :=
  ∀ turns e, e.class? ≠ none → Sensible turns →
    Advances (aroundChannel settings) t turns operation.run (.done (.error e)) → blame turns e

/-- An operation never fails with a channel failure. -/
def Spotless (settings : Settings) (t : Thread) (operation : Operation α) : Prop :=
  Blames settings t operation fun _ _ => False

/-- Every channel failure of an operation goes by one name. -/
def Signs (settings : Settings) (t : Thread) (api : String) (operation : Operation α) : Prop :=
  Blames settings t operation fun _ e => e.api? = some api

section
variable {settings : Settings} {t : Thread} {api : String} {blame : List Turn → Failure → Prop} {turns : List Turn}

theorem Spotless.blames {operation : Operation α} (spotless : Spotless settings t operation) :
    Blames settings t operation blame :=
  fun turns e channel sensible advances => (spotless turns e channel sensible advances).elim

theorem Spotless.signs {operation : Operation α} (spotless : Spotless settings t operation) :
    Signs settings t api operation := spotless.blames

theorem blames_pure (a : α) : Blames settings t (pure a) blame := fun _ _ _ _ advances => nomatch advances.done_inv.2

theorem blames_throw {e : Failure} (blamed : e.class? ≠ none → blame [] e) :
    Blames settings t (throw e : Operation α) blame := by
  intro turns e channel _ advances
  obtain ⟨rfl, ⟨⟩⟩ := advances.done_inv
  exact blamed channel

/-- A sequence is blamed for what its parts are blamed for. -/
theorem Blames.bind {first : Operation α} {next : α → Operation β} (head : Blames settings t first blame)
    (tail : ∀ a, Blames settings t (next a) blame)
    (lasts : ∀ past turns e, blame turns e → blame (past ++ turns) e) : Blames settings t (first >>= next) blame := by
  intro turns e channel sensible advances
  obtain ⟨result, past, rest, rfl, leads, onward⟩ := Advances.bind_inv advances
  cases result with
  | ok a => exact lasts _ _ _ (tail a rest e channel sensible.of_suffix onward)
  | error f =>
    obtain ⟨rfl, ⟨⟩⟩ := onward
    rw [List.append_nil] at sensible ⊢
    exact head past _ channel sensible leads

theorem Spotless.bind {first : Operation α} {next : α → Operation β} (head : Spotless settings t first)
    (tail : ∀ a, Spotless settings t (next a)) : Spotless settings t (first >>= next) :=
  Blames.bind head tail fun _ _ _ never => never

theorem Signs.bind {first : Operation α} {next : α → Operation β} (head : Signs settings t api first)
    (tail : ∀ a, Signs settings t api (next a)) : Signs settings t api (first >>= next) :=
  Blames.bind head tail fun _ _ _ same => same

theorem signs_throw_bind {e : Failure} (named : e.api? = some api) (next : α → Operation β) :
    Signs settings t api ((throw e : Operation α) >>= next) := by
  intro turns f _ _ advances
  obtain ⟨-, ⟨⟩⟩ := Advances.done_inv advances
  exact named

/-! ## Questions -/

/-- An operation that takes one step. -/
theorem blames_of_step (s : Step) (read : s.Reply → Except Failure α) {operation : Operation α}
    (asks : operation.run = .ask (.step s) fun answer => .done (read answer))
    (refuses : ∀ m e, read (s.apply t m).1 = .error e → e.class? ≠ none → ∀ turns, blame turns e) :
    Blames settings t operation blame := by
  intro turns e channel sensible advances
  rw [asks] at advances
  obtain ⟨answer, rest, rfl, ends⟩ := Advances.ask_inv (q := .step s) nofun advances
  obtain ⟨-, refused⟩ := ends.done_inv
  obtain ⟨m, answered⟩ := sensible.faithful _ List.mem_cons_self
  exact refuses m e (answered ▸ refused) channel _

theorem signs_of_step (s : Step) (read : s.Reply → Except Failure α) {operation : Operation α}
    (asks : operation.run = .ask (.step s) fun answer => .done (read answer))
    (refuses : ∀ m e, read (s.apply t m).1 = .error e → e.api? = some api) : Signs settings t api operation :=
  blames_of_step s read asks fun m e refused _ _ => refuses m e refused

/-- A step that never fails. -/
theorem spotless_step (s : Step) : Spotless settings t (step s) :=
  blames_of_step s .ok rfl nofun

/-- An operation that makes one call to the outside, which fails with no channel failure. -/
theorem spotless_of_outside (call : Outside) (read : call.Reply → Except Failure α) {operation : Operation α}
    (asks : operation.run = .ask (.outside call) fun answer => .done (read answer))
    (quick : ∀ id batch consumer, call ≠ .callback id batch consumer)
    (foreign : ∀ answer, Turn.Housekept ⟨t, .outside call, answer⟩ → Foreign (read answer)) :
    Spotless settings t operation := by
  intro turns e channel sensible advances
  rw [asks] at advances
  obtain ⟨answer, rest, rfl, ends⟩ := Advances.ask_inv (q := .outside call)
    (fun id batch consumer same => quick id batch consumer (Query.outside.inj same)) advances
  obtain ⟨-, failed⟩ := ends.done_inv
  exact channel (foreign answer (sensible.housekept _ List.mem_cons_self) e failed)

theorem attempt_error {m : State} {changed : Except Failure α} {put : α → State} {e : Failure}
    (refused : (Step.attempt m changed put).1 = .error e) : changed = .error e := by
  cases changed with
  | ok a => cases refused
  | error f => exact congrArg _ (Except.error.inj refused)

theorem signs_acquire (api : String) : Signs settings t api (acquire api) :=
  signs_of_step (.acquire (some api)) id rfl fun m e refused => by
    have refusal := attempt_error refused
    unfold Guard.acquire at refusal
    split at refusal
    · cases refusal
    · split at refusal
      · cases refusal
      · cases refusal
        rfl

theorem spotless_release : Spotless settings t release :=
  blames_of_step .release id rfl fun m e refused channel _ => by
    have refusal := attempt_error refused
    unfold Guard.release at refusal
    split at refusal
    · cases refusal
      exact absurd rfl channel
    · cases refusal
    · cases refusal

theorem spotless_unlockDestroy : Spotless settings t unlockDestroy :=
  blames_of_step .unlockDestroy id rfl fun m e refused channel _ => by
    cases busy : m.destroying with
    | true =>
      simp only [Step.apply, busy, ↓reduceIte] at refused
      cases refused
    | false =>
      simp only [Step.apply, busy, Bool.false_eq_true, ↓reduceIte] at refused
      cases refused
      exact absurd rfl channel

/-- A frozen session refuses a change under the name of the operation. -/
theorem api?_of_change {session : Session String Value} {changed : Except Failure (Session String Value)}
    {e : Failure} (refused : session.change (some api) changed = .error e)
    (named : changed = .error e → e.api? = some api) : e.api? = some api := by
  unfold Session.change at refused
  split at refused
  · exact named refused
  · cases refused
    rfl

theorem signs_setConsumer (id : String) (api : Api) : Signs settings t api.name (setConsumer id api) :=
  signs_of_step (.setConsumer id (some api.name)) (fun answer => answer) rfl fun _ _ refused =>
    api?_of_change (attempt_error refused) nofun

theorem signs_replaceTopics (topics : List Value) (api : Api) :
    Signs settings t api.name (replaceTopics topics api) :=
  signs_of_step (.replaceTopics topics (some api.name)) id rfl fun _ _ refused =>
    api?_of_change (attempt_error refused) fun refusal => by
      split at refusal
      · cases refusal
        rfl
      · cases refusal

theorem spotless_log (level : Level) (message : String) (extras : List (String × Value)) :
    Spotless settings t (log level message extras) :=
  spotless_of_outside (.log (.event "streaming_client.channel" level message extras)) id rfl nofun
    fun _ kept => kept

theorem spotless_wait : Spotless settings t wait :=
  spotless_of_outside .wait id rfl nofun fun _ kept => kept

theorem spotless_closeTransport : Spotless settings t closeTransport :=
  (spotless_step .transport).bind fun (n : Nat) =>
    spotless_of_outside (.closeTransport n) id rfl nofun fun _ kept => kept

theorem spotless_openTransport : Spotless settings t openTransport := by
  have opens : Spotless settings t (ExceptT.mk (ask (.outside .openTransport)) : Operation Nat) :=
    spotless_of_outside .openTransport id rfl nofun fun _ kept => kept
  exact opens.bind fun n => spotless_step (.useTransport n)

theorem signs_reset (api : Api) : Signs settings t api.name (reset api) := by
  have forgets : Signs settings t api.name
      (ExceptT.mk (ask (.step (.resetSession (some api.name)))) : Operation Unit) :=
    signs_of_step (.resetSession (some api.name)) id rfl fun _ _ refused =>
      api?_of_change (attempt_error refused) nofun
  have cookies (n : Nat) : Spotless settings t (ExceptT.mk (ask (.outside (.resetCookies n))) : Operation Unit) :=
    spotless_of_outside (.resetCookies n) id rfl nofun fun _ kept => kept
  have authorization (n : Nat) : Spotless settings t
      (ExceptT.mk (ask (.outside (.resetAuthorization n))) : Operation Unit) :=
    spotless_of_outside (.resetAuthorization n) id rfl nofun fun _ kept => kept
  exact forgets.bind fun _ => ((spotless_step .transport).bind fun n =>
    (cookies n).bind fun _ => authorization n).signs

/-! ## Blocks -/

/-- A block is blamed for what its body and its last part are blamed for. -/
theorem Blames.ensuring {body : Operation α} {closing : Operation Unit} (blames : Blames settings t body blame)
    (closed : Blames settings t closing blame)
    (lasts : ∀ past turns rest e, blame turns e → blame (past ++ turns ++ rest) e) :
    Blames settings t (ensuring body closing) blame := by
  intro turns e channel sensible advances
  obtain ⟨result, ended, past, rest, rfl, blocks, closes, failed⟩ := Advances.ensuring_inv advances
  cases ended with
  | error f =>
    cases failed
    have blamed := lasts past rest [] e (closed rest e channel sensible.of_suffix closes)
    rwa [List.append_nil] at blamed
  | ok _ =>
    cases failed
    exact lasts [] past rest e (blames past e channel sensible.of_prefix blocks)

theorem Signs.ensuring {body : Operation α} {closing : Operation Unit} (signs : Signs settings t api body)
    (closed : Signs settings t api closing) : Signs settings t api (ensuring body closing) :=
  Blames.ensuring signs closed fun _ _ _ _ named => named

theorem Spotless.ensuring {body : Operation α} {closing : Operation Unit} (spotless : Spotless settings t body)
    (closed : Spotless settings t closing) : Spotless settings t (ensuring body closing) :=
  Blames.ensuring spotless closed fun _ _ _ _ never => never

/-- What a block fails with does not matter if it is always repaired. -/
theorem blames_rescue {body : Operation α} {repair : Failure → Operation α}
    (repaired : ∀ e, Blames settings t (repair e) blame)
    (lasts : ∀ past turns e, blame turns e → blame (past ++ turns) e) :
    Blames settings t (rescue body repair) blame := by
  intro turns e channel sensible advances
  obtain ⟨result, past, rest, rfl, -, onward⟩ := Advances.rescue_inv advances
  cases result with
  | ok a => cases onward.2
  | error f => exact lasts _ _ _ (repaired f rest e channel sensible.of_suffix onward)

theorem signs_rescue {body : Operation α} {repair : Failure → Operation α}
    (repaired : ∀ e, Signs settings t api (repair e)) : Signs settings t api (rescue body repair) :=
  blames_rescue repaired fun _ _ _ named => named

theorem spotless_rescue {body : Operation α} {repair : Failure → Operation α}
    (repaired : ∀ e, Spotless settings t (repair e)) : Spotless settings t (rescue body repair) :=
  blames_rescue repaired fun _ _ _ never => never

/-- A failure that is raised again under the name of the operation. -/
theorem signs_throw_tag (e : Failure) (api : String) : Signs settings t api (throw (e.tag api) : Operation α) :=
  blames_throw fun channel => Failure.api?_tag (class?_tag api ▸ channel) api

theorem signs_acquireActive (api : String) : Signs settings t api (acquireActive api) := by
  refine (signs_acquire api).bind fun _ => (spotless_step .session).signs.bind fun (s : Session String Value) => ?_
  show Signs settings t api (if !s.active then release >>= fun _ => throw _ else pure ())
  split
  · exact spotless_release.signs.bind fun _ => blames_throw fun _ => rfl
  · exact blames_pure _

theorem Signs.inContext {change : LogContext.Change} {body : Operation α} (signs : Signs settings t api body) :
    Signs settings t api (inContext change body) :=
  (spotless_step .context).signs.bind fun _ => (spotless_step _).signs.bind fun _ =>
    signs.ensuring (spotless_step _).signs

/-- An operation goes by its name if its body does. -/
theorem Signs.named {api : Api} {body : Operation α} (signs : Signs settings t api.name body) :
    Signs settings t api.name (named settings api body) := by
  refine (signs_acquireActive api.name).bind fun _ => Signs.ensuring ?_ spotless_release.signs
  exact (spotless_step .session).signs.bind fun _ => signs.inContext

/-! ## Operations on a consumer -/

theorem signs_consumerPath (api : Api) (suffix : String) :
    Signs settings t api.name (consumerPath settings api suffix) := by
  refine (spotless_step .session).signs.bind fun (s : Session String Value) => ?_
  split
  · exact blames_pure _
  · exact blames_throw fun _ => rfl

theorem signs_sendFor (api : Api) (method : Method) (path : String) (body : Option String) :
    Signs settings t api.name (sendFor api method path body) := signs_rescue fun e => signs_throw_tag e api.name

theorem signs_ofFault (result : Except Fault α) : Signs settings t api (ofFault result) := by
  cases result with
  | ok a => exact blames_pure a
  | error f => exact blames_throw fun channel => absurd rfl channel

theorem signs_written (checked : Checked β) (write : β → Except Fault String) :
    Signs settings t api (written checked write) := by
  cases checked with
  | ok b => exact signs_ofFault _
  | error issues => exact blames_throw fun channel => absurd rfl channel

theorem signs_understand (api : Api) (reader : String → Checked β) (answer : Option String) :
    Signs settings t api.name (understand api reader answer) := by
  unfold understand
  split
  · exact blames_throw fun _ => rfl
  · exact blames_throw fun _ => rfl
  · split
    · exact blames_pure _
    · exact blames_throw fun _ => rfl

theorem signs_create : Signs settings t Api.create.name (create settings) := by
  refine Signs.named ?_
  cases settings.group.truthy with
  | false => exact signs_throw_bind rfl _
  | true =>
    refine (signs_reset .create).bind fun _ => (signs_written _ _).bind fun body => ?_
    refine (signs_sendFor _ _ _ _).bind fun answer => (signs_understand .create _ _).bind fun created => ?_
    exact (signs_setConsumer _ .create).bind fun _ => (spotless_step _).signs.bind fun _ => (spotless_log _ _ _).signs

theorem signs_subscriptions : Signs settings t Api.subscriptions.name (subscriptions settings) := by
  refine Signs.named ((signs_consumerPath _ _).bind fun path => (signs_sendFor _ _ _ _).bind fun answer => ?_)
  split
  · exact blames_pure _
  · exact blames_pure _
  · exact signs_understand _ _ _

theorem signs_deletion (id : String) : Signs settings t Api.delete.name (deletion settings id) := by
  refine signs_rescue fun e => ?_
  split
  · exact (spotless_log _ _ _).signs
  · exact signs_throw_tag e _

theorem signs_delete : Signs settings t Api.delete.name (delete settings) := by
  refine Signs.named ((spotless_step .session).signs.bind fun (s : Session String Value) => ?_)
  split
  · exact blames_pure _
  · exact (signs_deletion _).ensuring (signs_reset .delete)

theorem signs_consume (timeout : Value) : Signs settings t Api.consume.name (consume settings timeout) := by
  refine Signs.named ((spotless_step .session).signs.bind fun (s : Session String Value) => ?_)
  show Signs settings t _ (if !s.isSubscribed then throw _ >>= fun _ => _ else _)
  split
  · exact signs_throw_bind rfl _
  · refine (signs_consumerPath _ _).bind fun path => (signs_ofFault _).bind fun positive => ?_
    refine (signs_sendFor _ _ _ _).bind fun answer => (signs_understand .consume _ _).bind fun batch => ?_
    exact (spotless_step .session).signs.bind fun _ => (spotless_log _ _ _).signs.bind fun _ => blames_pure _

theorem signs_commit : Signs settings t Api.commit.name (commit settings) := by
  refine Signs.named ?_
  cases settings.autoCommits with
  | true => exact blames_pure _
  | false => exact (signs_consumerPath _ _).bind fun path => (signs_sendFor _ _ _ _).bind fun _ => blames_pure _

end

end Channel

end ConsumerChannel
