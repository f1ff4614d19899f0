import ConsumerChannel.Proofs.Moves
import ConsumerChannel.Proofs.Parts

/-! What an operation on a consumer leaves alone. Whatever comes of it, it sends its requests through the one transport
that is in use and only while the channel is active, it builds and closes no transport, and it neither freezes the
session nor begins to build it anew. It hands nothing to a callback either, so that it comes to the same whatever
callbacks would do. -/
namespace ConsumerChannel.Channel
open Operation

/-- An event of an operation that uses the transport of a memory: nothing happens that would matter to transports but
requests through it, and those only while the channel is active. -/
structure Event.Minds (m : State) (e : Event) : Prop where
  transport : e.memory.transport = m.transport
  active : e.memory.session.active = m.session.active
  happening : e.happening.Mild ∨
    m.session.active = true ∧ ∃ request answer, e.happening = .sent m.transport request answer

/-- A chronicle goes on with one transport, and with the channel as active as it was. -/
structure Chronicle.Tends (c later : Chronicle) : Prop where
  transport : later.memory.transport = c.memory.transport
  active : later.memory.session.active = c.memory.session.active
  events : ∃ more, later.events = c.events ++ more ∧ ∀ e ∈ more, e.Minds c.memory

namespace Chronicle.Tends
variable {c d last : Chronicle} {caller : Thread}

theorem refl : c.Tends c := ⟨rfl, rfl, [], by simp, List.forall_mem_nil _⟩

theorem add (tends : c.Tends d) {h : Happening}
    (minds : h.Mild ∨ c.memory.session.active = true ∧ ∃ request answer, h = .sent c.memory.transport request answer) :
    c.Tends (d.add h) := by
  obtain ⟨transport, active, more, goes, all⟩ := tends
  refine ⟨transport, active, more ++ [⟨d.memory, h⟩], ?_, ?_⟩
  · show d.events ++ [⟨d.memory, h⟩] = _
    rw [goes, List.append_assoc]
  · exact List.forall_mem_append.mpr ⟨all, List.forall_mem_singleton.mpr ⟨transport, active, minds⟩⟩

theorem flagged (tends : c.Tends d) (flags : RunFlags) : c.Tends (d.flagged flags) :=
  ⟨tends.transport, tends.active, tends.events⟩

/-- Only taking another transport into use changes which one is. -/
private theorem transport_apply (s : Step) (kept : ∀ n, s ≠ .useTransport n) (m : State) :
    (s.apply caller m).2.transport = m.transport := by
  have other : s.part ≠ some .transport := by
    cases s with
    | useTransport n => exact absurd rfl (kept n)
    | _ => exact nofun
  exact s.apply_leaves other caller m

theorem step (tends : c.Tends d) (caller : Thread) (s : Step) (stays : s ≠ .deactivate)
    (kept : ∀ n, s ≠ .useTransport n) : c.Tends (d.remember (s.apply caller d.memory).2) :=
  ⟨(transport_apply s kept d.memory).trans tends.transport, (s.active_apply stays caller d.memory).trans tends.active,
    tends.events⟩

end Chronicle.Tends

/-- A chronicle goes on so, and the channel is active. -/
structure Chronicle.Attends (c later : Chronicle) : Prop where
  tends : c.Tends later
  active : later.memory.session.active = true

namespace Chronicle.Attends
variable {c d : Chronicle} {caller : Thread}

theorem add (attends : c.Attends d) {h : Happening} (mild : h.Mild) : c.Attends (d.add h) :=
  ⟨attends.tends.add (.inl mild), attends.active⟩

theorem flagged (attends : c.Attends d) (flags : RunFlags) : c.Attends (d.flagged flags) :=
  ⟨attends.tends.flagged flags, attends.active⟩

theorem step (attends : c.Attends d) (caller : Thread) (s : Step) (stays : s ≠ .deactivate)
    (kept : ∀ n, s ≠ .useTransport n) : c.Attends (d.remember (s.apply caller d.memory).2) :=
  ⟨attends.tends.step caller s stays kept, (s.active_apply stays caller d.memory).trans attends.active⟩

/-- A request through the transport in use. -/
theorem send (attends : c.Attends d) (request : Request) (answer : Except Failure (Option String)) :
    c.Attends (d.add (.sent d.memory.transport request answer)) := by
  have active : c.memory.session.active = true := attends.tends.active.symm.trans attends.active
  refine ⟨attends.tends.add (.inr ⟨active, request, answer, ?_⟩), attends.active⟩
  rw [attends.tends.transport]

end Chronicle.Attends

section
variable {surroundings : Surroundings} {nested : List Move → Chronicle → Chronicle} {caller : Thread}
  {settings : Settings} {c : Chronicle} {api : Api}

theorem tends_orderly : Orderly caller c.Tends where
  steps s _ mild tends := tends.step caller s (by rintro rfl; exact mild) (by rintro n rfl; exact mild)
  notes _ _ mild tends := tends.add (.inl mild)
  flags _ flags tends := tends.flagged flags

theorem attends_orderly : Orderly caller c.Attends where
  steps s _ mild attends := attends.step caller s (by rintro rfl; exact mild) (by rintro n rfl; exact mild)
  notes _ _ mild attends := attends.add mild
  flags _ flags attends := attends.flagged flags

/-! ## Parts of operations -/

theorem attends_setConsumer (id : String) : Keeps (surroundings.host nested caller) c.Attends (setConsumer id api) :=
  fun _ held => held.step caller (.setConsumer id (some api.name)) nofun nofun

theorem attends_replaceTopics (topics : List Value) :
    Keeps (surroundings.host nested caller) c.Attends (replaceTopics topics api) :=
  fun _ held => held.step caller (.replaceTopics topics (some api.name)) nofun nofun

theorem attends_reset : Keeps (surroundings.host nested caller) c.Attends (reset api) := by
  have forgets : Keeps (surroundings.host nested caller) c.Attends
      (ExceptT.mk (ask (.step (.resetSession (some api.name)))) : Operation Unit) :=
    fun _ held => held.step caller (.resetSession (some api.name)) nofun nofun
  have orderly : Orderly caller c.Attends := attends_orderly
  refine forgets.bind fun _ => (orderly.step .transport trivial).bind fun n => ?_
  exact Keeps.bind (orderly.call (.resetCookies n) nofun fun _ => trivial) fun _ =>
    orderly.call (.resetAuthorization n) nofun fun _ => trivial

theorem attends_send (request : Request) : Keeps (surroundings.host nested caller) c.Attends (send request) :=
  fun d held => outside_keeps (fun _ flags held => held.flagged flags) (.send d.memory.transport request) nofun
    fun answer => held.send request answer

theorem attends_sendFor (method : Method) (path : String) (body : Option String) :
    Keeps (surroundings.host nested caller) c.Attends (sendFor api method path body) :=
  (attends_send _).rescue fun _ => keeps_throw _

theorem attends_consumerPath (suffix : String) :
    Keeps (surroundings.host nested caller) c.Attends (consumerPath settings api suffix) := by
  refine (attends_orderly.step .session trivial).bind fun s => ?_
  split
  · exact keeps_pure _
  · exact keeps_throw _

theorem keeps_ofFault {invariant : Chronicle → Prop} (result : Except Fault α) :
    Keeps (surroundings.host nested caller) invariant (ofFault result) := by
  cases result with
  | ok a => exact keeps_pure _
  | error f => exact keeps_throw _

theorem keeps_written {invariant : Chronicle → Prop} (checked : Checked α) (write : α → Except Fault String) :
    Keeps (surroundings.host nested caller) invariant (written checked write) := by
  cases checked with
  | ok a => exact keeps_ofFault _
  | error issues => exact keeps_throw _

theorem keeps_understand {invariant : Chronicle → Prop} (reader : String → Checked α) (answer : Option String) :
    Keeps (surroundings.host nested caller) invariant (understand api reader answer) := by
  unfold understand
  split
  · exact keeps_throw _
  · exact keeps_throw _
  · split
    · exact keeps_pure _
    · exact keeps_throw _

/-! ## Operations -/

/-- Only an active channel lets a block under the guard come to a good end. -/
theorem tends_holding {name : String} {body : Operation α}
    (kept : Keeps (surroundings.host nested caller) c.Attends body) {d : Chronicle} (tends : c.Tends d) :
    Leads (surroundings.host nested caller) (holding name body) d fun r later =>
      c.Tends later ∧ (r.isOk = true → later.memory.session.active = true) := by
  have admitted : Leads (surroundings.host nested caller) (acquireActive name) d fun r later =>
      c.Tends later ∧ (r.isOk = true → later.memory.session.active = true) := by
    refine Leads.bind (tends_orderly.acquire name d tends) ?_ fun e t held => ⟨held, fun good => by cases good⟩
    intro _ t held
    apply leads_step_bind
    cases active : t.memory.session.active with
    | true =>
      simp only [Step.apply, active, Bool.not_true, Bool.false_eq_true, ↓reduceIte]
      exact ⟨held, fun _ => active⟩
    | false =>
      simp only [Step.apply, active, Bool.not_false, ↓reduceIte]
      exact Leads.bind (tends_orderly.release t held) (fun _ u held => ⟨held, fun good => by cases good⟩)
        fun e u held => ⟨held, fun good => by cases good⟩
  refine admitted.bind ?_ fun e t held => ⟨held.1, fun good => by cases good⟩
  intro _ t held
  exact (kept.ensuring attends_orderly.release t ⟨held.1, held.2 rfl⟩).weaken fun r u held =>
    ⟨held.tends, fun _ => held.active⟩

theorem tends_named {body : Operation α} (kept : Keeps (surroundings.host nested caller) c.Attends body)
    {d : Chronicle} (tends : c.Tends d) :
    Leads (surroundings.host nested caller) (named settings api body) d fun r later =>
      c.Tends later ∧ (r.isOk = true → later.memory.session.active = true) :=
  tends_holding ((attends_orderly.step .session trivial).bind fun _ => attends_orderly.inContext kept) tends

/-- An operation within an operation. -/
theorem attends_of_tends {operation : Operation α} (kept : Keeps (surroundings.host nested caller) c.Tends operation) :
    Keeps (surroundings.host nested caller) c.Attends operation := fun d held =>
  (kept d held.tends).weaken fun _ _ tends =>
    ⟨tends, tends.active.trans (held.tends.active.symm.trans held.active)⟩

theorem keeps_named {body : Operation α} (kept : Keeps (surroundings.host nested caller) c.Attends body) :
    Keeps (surroundings.host nested caller) c.Tends (named settings api body) :=
  fun _ tends => (tends_named kept tends).weaken fun _ _ held => held.1

theorem tends_create : Keeps (surroundings.host nested caller) c.Tends (create settings) := by
  refine keeps_named ?_
  cases settings.group.truthy with
  | false => exact keeps_throw_bind _ _
  | true =>
    simp only [Bool.not_true, Bool.false_eq_true, ↓reduceIte]
    refine attends_reset.bind fun _ => (keeps_written _ _).bind fun body => (attends_sendFor _ _ _).bind fun answer =>
      (keeps_understand _ _).bind fun created => (attends_setConsumer _).bind fun _ => ?_
    exact (attends_orderly.step (.changeContext _) trivial).bind fun _ => attends_orderly.log _ _ (by decide)

theorem attends_deletion (id : String) :
    Keeps (surroundings.host nested caller) c.Attends (deletion settings id) := by
  refine Keeps.rescue ?_ fun e => ?_
  · exact (attends_consumerPath _).bind fun _ => (attends_send _).bind fun _ => attends_orderly.log _ _ (by decide)
  · split
    · exact attends_orderly.log _ _ (by decide)
    · exact keeps_throw _

/-- A deletion that comes to a good end was one of an active channel. -/
theorem tends_delete {d : Chronicle} (tends : c.Tends d) :
    Leads (surroundings.host nested caller) (delete settings) d fun r later =>
      c.Tends later ∧ (r.isOk = true → later.memory.session.active = true) := by
  refine tends_named ((attends_orderly.step .session trivial).bind fun s => ?_) tends
  split
  · exact keeps_pure _
  · exact (attends_deletion _).ensuring attends_reset

theorem attends_subscribeHeld (wanted : List Value) :
    Keeps (surroundings.host nested caller) c.Attends (subscribeHeld settings wanted) := by
  unfold subscribeHeld
  refine (attends_consumerPath _).bind fun path => (keeps_written _ _).bind fun body => ?_
  refine (attends_sendFor _ _ _).bind fun _ => (attends_replaceTopics _).bind fun _ => ?_
  exact (attends_orderly.step .session trivial).bind fun _ => attends_orderly.log _ _ (by decide)

theorem tends_subscribe (topics : Topics) :
    Keeps (surroundings.host nested caller) c.Tends (subscribe settings topics) := by
  refine keeps_named ((keeps_settle _).bind fun wanted => (attends_orderly.step .session trivial).bind fun s => ?_)
  cases s.hasConsumer with
  | false => exact (attends_of_tends tends_create).bind fun _ => attends_subscribeHeld wanted
  | true => exact attends_subscribeHeld wanted

theorem tends_subscriptions : Keeps (surroundings.host nested caller) c.Tends (subscriptions settings) := by
  refine keeps_named ((attends_consumerPath _).bind fun path => (attends_sendFor _ _ _).bind fun answer => ?_)
  split
  · exact keeps_pure _
  · exact keeps_pure _
  · exact keeps_understand _ _

theorem tends_consume (timeout : Value) :
    Keeps (surroundings.host nested caller) c.Tends (consume settings timeout) := by
  refine keeps_named ((attends_orderly.step .session trivial).bind fun s => ?_)
  cases s.isSubscribed with
  | false => exact keeps_throw_bind _ _
  | true =>
    simp only [Bool.not_true, Bool.false_eq_true, ↓reduceIte]
    refine (attends_consumerPath _).bind fun path => (keeps_ofFault _).bind fun positive =>
      (attends_sendFor _ _ _).bind fun answer => (keeps_understand _ _).bind fun batch => ?_
    exact (attends_orderly.step .session trivial).bind fun _ =>
      (attends_orderly.log _ _ (by decide)).bind fun _ => keeps_pure _

theorem tends_commit : Keeps (surroundings.host nested caller) c.Tends (commit settings) := by
  refine keeps_named ?_
  split
  · exact keeps_pure _
  · exact (attends_consumerPath _).bind fun path => (attends_sendFor _ _ _).bind fun answer => keeps_pure _

end

/-! ## Callbacks -/

/-- What an operation comes to does not depend on what callbacks would do. -/
def Aloof (surroundings : Surroundings) (caller : Thread) (operation : Operation α) : Prop :=
  ∀ nested other c, exec (surroundings.host nested caller) operation c =
    exec (surroundings.host other caller) operation c

section
variable {surroundings : Surroundings} {caller : Thread} {settings : Settings} {api : Api}

theorem aloof_pure (a : α) : Aloof surroundings caller (pure a) := fun _ _ _ => rfl

theorem aloof_throw (e : Failure) : Aloof surroundings caller (throw e : Operation α) := fun _ _ _ => rfl

theorem aloof_step (s : Step) : Aloof surroundings caller (step s) := fun _ _ _ => rfl

theorem aloof_call (call : Outside) (quick : ∀ id batch consumer, call ≠ .callback id batch consumer)
    (nested other : List Move → Chronicle → Chronicle) (c : Chronicle) :
    surroundings.outside nested call c = surroundings.outside other call c := by
  have still (nested : List Move → Chronicle → Chronicle) : surroundings.during nested call c = c := by
    cases call <;> first | rfl | exact absurd rfl (quick _ _ _)
  unfold Surroundings.outside
  rw [still nested, still other]

theorem aloof_log (level : Level) (message : String) (extras : List (String × Value)) :
    Aloof surroundings caller (log level message extras) :=
  aloof_call (.log (.event "streaming_client.channel" level message extras)) nofun

theorem Aloof.bind {first : Operation α} {next : α → Operation β} (head : Aloof surroundings caller first)
    (tail : ∀ a, Aloof surroundings caller (next a)) : Aloof surroundings caller (first >>= next) := by
  intro nested other c
  rw [exec_bind, exec_bind, head nested other c]
  split
  · exact tail _ nested other _
  · rfl

theorem Aloof.outcome {body : Operation α} (aloof : Aloof surroundings caller body) :
    Aloof surroundings caller (outcome body) := by
  intro nested other c
  rw [exec_outcome, exec_outcome, aloof nested other c]

theorem aloof_settle (result : Except Failure α) : Aloof surroundings caller (settle result) := fun _ _ _ => by
  rw [exec_settle, exec_settle]

theorem Aloof.ensuring {body : Operation α} {closing : Operation Unit} (aloof : Aloof surroundings caller body)
    (closed : Aloof surroundings caller closing) : Aloof surroundings caller (ensuring body closing) :=
  aloof.outcome.bind fun _ => closed.bind fun _ => aloof_settle _

theorem Aloof.rescue {body : Operation α} {repair : Failure → Operation α} (aloof : Aloof surroundings caller body)
    (repaired : ∀ e, Aloof surroundings caller (repair e)) : Aloof surroundings caller (rescue body repair) := by
  refine aloof.outcome.bind fun r => ?_
  cases r with
  | ok a => exact aloof_pure a
  | error e => exact repaired e

theorem Aloof.named {body : Operation α} (aloof : Aloof surroundings caller body) :
    Aloof surroundings caller (named settings api body) := by
  have release : Aloof surroundings caller release := fun _ _ _ => rfl
  have acquire : Aloof surroundings caller (acquire api.name) := fun _ _ _ => rfl
  have admitted : Aloof surroundings caller (acquireActive api.name) := by
    refine acquire.bind fun _ => (aloof_step .session).bind fun s => ?_
    split
    · exact release.bind fun _ => aloof_throw _
    · exact aloof_pure _
  refine admitted.bind fun _ => Aloof.ensuring ((aloof_step .session).bind fun s => ?_) release
  exact (aloof_step .context).bind fun _ => (aloof_step (.changeContext _)).bind fun _ =>
    aloof.ensuring (aloof_step (.changeContext _))

theorem aloof_reset : Aloof surroundings caller (reset api) := by
  have forgets : Aloof surroundings caller
      (ExceptT.mk (ask (.step (.resetSession (some api.name)))) : Operation Unit) := fun _ _ _ => rfl
  refine forgets.bind fun _ => (aloof_step .transport).bind fun n => ?_
  exact Aloof.bind (aloof_call (.resetCookies n) nofun) fun _ => aloof_call (.resetAuthorization n) nofun

theorem aloof_send (request : Request) : Aloof surroundings caller (send request) :=
  (aloof_step .transport).bind fun n => aloof_call (.send n request) nofun

theorem aloof_delete : Aloof surroundings caller (delete settings) := by
  refine Aloof.named ((aloof_step .session).bind fun s => ?_)
  split
  · exact aloof_pure _
  · refine Aloof.ensuring (Aloof.rescue ?_ fun e => ?_) aloof_reset
    · refine Aloof.bind ?_ fun _ => (aloof_send _).bind fun _ => aloof_log _ _ _
      refine (aloof_step .session).bind fun s => ?_
      split
      · exact aloof_pure _
      · exact aloof_throw _
    · split
      · exact aloof_log _ _ _
      · exact aloof_throw _

end

end ConsumerChannel.Channel
