import ConsumerChannel.Proofs.Attribution

/-! Which step a channel failure names. Subscribing may create a consumer, destroying deletes it, and a loop does all of
these in turn; a failure that one of them ends with names the innermost operation that failed, and their own name is
kept for what they check themselves. -/
namespace ConsumerChannel.Channel
open Operation

/-! ## What is nested -/

/-- A question that is no callback and does not begin to create a consumer. -/
def Query.Plain : Query → Prop
  | .outside (.callback _ _ _) => False
  | .step (.acquire (some api)) => api ≠ Api.create.name
  | _ => True

/-- Nothing is called back, and no consumer is begun to be created. -/
def Plain (turns : List Turn) : Prop := ∀ turn ∈ turns, turn.query.Plain

/-- Programs that ask only plain questions. -/
def plainly : Discipline Unit where
  permits _ q := q.Plain
  allows _ _ _ := True
  after _ _ _ := ()

/-- The creation of a consumer that is nested in turns, and its result, if there is one. -/
inductive NestsCreation (settings : Settings) (t : Thread) : List Turn → Option (Except Failure Unit) → Prop where
  | never (plain : Plain turns) : NestsCreation settings t turns none
  | once (before : Plain past) (creates : Advances (aroundChannel settings) t called (create settings).run (.done r))
      (after : Plain rest) : NestsCreation settings t (past ++ called ++ rest) (some r)

/-- An operation is carried out within turns and fails, and nothing is called back or created after that. -/
def Failed (settings : Settings) (t : Thread) (operation : Operation α) (turns : List Turn) (e : Failure) : Prop :=
  ∃ past called rest, turns = past ++ called ++ rest ∧
    Advances (aroundChannel settings) t called operation.run (.done (.error e)) ∧ Plain rest

/-- What a loop fails with is what its callback raised, or names the operation of the loop that failed. -/
inductive Blamed (settings : Settings) (t : Thread) (callback : CallbackId) (turns : List Turn) (e : Failure) : Prop
    where
  | callback (failed : Failed settings t (callBack callback batch consumer) turns e)
  | create (failed : Failed settings t (create settings) turns e) (named : e.api? = some Api.create.name)
  | subscribe (failed : Failed settings t (subscribe settings topics) turns e)
      (named : e.api? = some Api.subscribe.name)
  | consume (failed : Failed settings t (consume settings timeout) turns e) (named : e.api? = some Api.consume.name)
  | commit (failed : Failed settings t (commit settings) turns e) (named : e.api? = some Api.commit.name)
  | delete (failed : Failed settings t (delete settings) turns e) (named : e.api? = some Api.delete.name)

/-- The checks of a run are passed: nobody else has the guard, the channel is active, and the group and a callback are
given. -/
structure PassesEntry (settings : Settings) (t : Thread) (callback : Option CallbackId) (turns : List Turn) : Prop where
  grouped : settings.group.truthy = true
  called : callback ≠ none
  active : ∃ (s : Session String Value) (rest : List Turn), s.active = true ∧
    turns = ⟨t, .step (.acquire (some runName)), .ok ()⟩ :: ⟨t, .step .session, s⟩ :: rest

/-- The operation that a move is, if nothing is nested in it. -/
def Move.simple? : Move → Option Api
  | create => some .create
  | subscriptions => some .subscriptions
  | delete => some .delete
  | consume _ => some .consume
  | commit => some .commit
  | _ => none

/-- Why a move fails with a channel failure, and what the failure names. -/
inductive Culprit (settings : Settings) (t : Thread) (turns : List Turn) (e : Failure) : Move → Prop where
  /-- Nothing is nested. -/
  | simple (own : move.simple? = some api) (named : e.api? = some api.name) : Culprit settings t turns e move
  /-- No creation that is nested failed. -/
  | subscription (creates : NestsCreation settings t turns nested) (well : ∀ f, nested ≠ some (.error f))
      (named : e.api? = some Api.subscribe.name) : Culprit settings t turns e (.subscribe topics)
  /-- The creation that is nested failed. -/
  | creation (creates : NestsCreation settings t turns (some (.error e))) (named : e.api? = some Api.create.name) :
      Culprit settings t turns e (.subscribe topics)
  /-- Going through the topics that the caller gave raised the failure. -/
  | wantedTopics (members : List Value) : Culprit settings t turns e (.subscribe (.many members (some e)))
  /-- Going through the topics of the loop raised the failure. -/
  | loopTopics (members : List Value) (passes : PassesEntry settings t callback turns) :
      Culprit settings t turns e (.run rounds callback (.many members (some e)))
  /-- A check before the loop failed. -/
  | entry (refused : ¬ PassesEntry settings t callback turns) (named : e.api? = some runName) :
      Culprit settings t turns e (.run rounds callback topics)
  /-- The loop failed. -/
  | loop {id : CallbackId} (passes : PassesEntry settings t (some id) turns) (blamed : Blamed settings t id turns e) :
      Culprit settings t turns e (.run rounds (some id) topics)
  /-- Another thread is destroying the channel. -/
  | contention (refused : turns = [⟨t, .step .lockDestroy, false⟩]) (named : e.api? = some destroyName) :
      Culprit settings t turns e (.destroy rounds)
  /-- The deletion failed. -/
  | deletion (claimed : turns.head? = some ⟨t, .step .lockDestroy, true⟩)
      (failed : Failed settings t (delete settings) turns e) (named : e.api? = some Api.delete.name) :
      Culprit settings t turns e (.destroy rounds)

section
variable {settings : Settings} {t : Thread} {turns past called rest more : List Turn} {e : Failure} {api : Api}
  {callback : CallbackId} {topics : Topics} {calm : Unit → Prop} {operation : Operation α}

/-! ## Plain turns -/

theorem plain_nil : Plain [] := List.forall_mem_nil _

theorem Plain.append (first : Plain turns) (second : Plain more) : Plain (turns ++ more) :=
  List.forall_mem_append.mpr ⟨first, second⟩

/-- A program that asks only plain questions takes only plain turns. -/
theorem Balances.plain {a : Except Failure α} (balances : Balances plainly (fun _ => True) operation)
    (advances : Advances (aroundChannel settings) t turns operation.run (.done a)) : Plain turns := by
  have allowed (turns : List Turn) : plainly.Allowed () turns := by
    induction turns with
    | nil => trivial
    | cons turn rest ih => exact ⟨trivial, ih⟩
  have asides (account : Unit) (q : Query) (program : Program Query Query.Answer Unit) (permitted : q.Plain) :
      ¬ (aroundChannel settings).aside q program := by
    rintro ⟨⟨id, batch, consumer, rfl⟩, -⟩
    exact permitted
  intro turn taken
  obtain ⟨_, permitted⟩ := (balances () trivial).permits_turns asides advances (allowed turns) turn taken
  exact permitted

theorem plainly_session : Balances plainly calm session := fun _ _ => ⟨trivial, fun _ _ => rfl⟩

theorem plainly_log (level : Level) (message : String) (extras : List (String × Value)) :
    Balances plainly calm (log level message extras) := fun _ _ => ⟨trivial, fun _ _ => rfl⟩

theorem plainly_release : Balances plainly calm release := fun _ _ => ⟨trivial, fun _ _ => rfl⟩

theorem plainly_changeContext (change : LogContext.Change) : Balances plainly calm (changeContext change) :=
  fun _ _ => ⟨trivial, fun _ _ => rfl⟩

theorem plainly_send (request : Request) : Balances plainly calm (send request) :=
  fun _ _ => ⟨trivial, fun _ _ => ⟨trivial, fun _ _ => rfl⟩⟩

theorem plainly_reset (api : Api) : Balances plainly calm (reset api) :=
  Balances.bind (fun _ _ => ⟨trivial, fun _ _ => rfl⟩) fun _ _ _ => ⟨trivial, fun _ _ => ⟨trivial, fun
    | .ok _, _ => ⟨trivial, fun _ _ => rfl⟩
    | .error _, _ => rfl⟩⟩

theorem plainly_acquireActive {api : String} (other : api ≠ Api.create.name) :
    Balances plainly calm (acquireActive api) := by
  have acquires : Balances plainly calm (acquire api) := fun _ _ => ⟨other, fun _ _ => rfl⟩
  refine acquires.bind fun _ => plainly_session.bind fun s => ?_
  split
  · exact plainly_release.bind fun _ => balances_throw _
  · exact balances_pure _

theorem name_ne_create (other : api ≠ .create) : api.name ≠ Api.create.name := by
  cases api <;> first | exact absurd rfl other | decide

theorem plainly_named {body : Operation α} (other : api ≠ .create) (balances : Balances plainly calm body) :
    Balances plainly calm (named settings api body) := by
  refine (plainly_acquireActive (name_ne_create other)).bind fun _ => Balances.ensuring ?_ plainly_release
  refine plainly_session.bind fun s => Balances.bind (fun _ _ => ⟨trivial, fun _ _ => rfl⟩) fun found => ?_
  exact (plainly_changeContext _).bind fun _ => balances.ensuring (plainly_changeContext _)

theorem plainly_delete : Balances plainly calm (delete settings) := by
  refine plainly_named (by decide) (plainly_session.bind fun s => ?_)
  split
  · exact balances_pure _
  · refine Balances.ensuring (Balances.rescue ?_ fun e => ?_) (plainly_reset .delete)
    · exact (plainly_session.consumerPath _ _).bind fun path => (plainly_send _).bind fun _ => plainly_log _ _ _
    · split
      · exact plainly_log _ _ _
      · exact balances_throw _

/-! ## Blocks taken apart -/

/-- A claim of the guard is refused, or given up because the channel is destroyed, or kept. -/
theorem Advances.acquireActive_inv {name : String} {r : Except Failure Unit}
    (advances : Advances (aroundChannel settings) t turns (acquireActive name).run (.done r)) :
    (∃ e, r = .error e ∧ turns = [⟨t, .step (.acquire (some name)), .error e⟩]) ∨
      (∃ (s : Session String Value) (rest : List Turn) (e : Failure), s.active = false ∧ r = .error e ∧
        turns = ⟨t, .step (.acquire (some name)), .ok ()⟩ :: ⟨t, .step .session, s⟩ :: rest) ∨
      ∃ s : Session String Value, s.active = true ∧ r = .ok () ∧
        turns = [⟨t, .step (.acquire (some name)), .ok ()⟩, ⟨t, .step .session, s⟩] := by
  obtain ⟨answer, rest, rfl, onward⟩ := Advances.ask_inv (q := .step (.acquire (some name))) nofun advances
  cases answer with
  | error e =>
    obtain ⟨rfl, rfl⟩ := Advances.done_inv onward
    exact .inl ⟨e, rfl, rfl⟩
  | ok _ =>
    obtain ⟨(s : Session String Value), after, rfl, looks⟩ := Advances.step_inv onward
    cases active : s.active with
    | true =>
      simp only [active, Bool.not_true, Bool.false_eq_true, ↓reduceIte] at looks
      obtain ⟨rfl, rfl⟩ := Advances.done_inv looks
      exact .inr (.inr ⟨s, active, rfl, rfl⟩)
    | false =>
      simp only [active, Bool.not_false, ↓reduceIte] at looks
      obtain ⟨released, past, rest, rfl, -, throws⟩ := Advances.bind_inv looks
      cases released with
      | ok _ => exact .inr (.inl ⟨s, past ++ rest, _, active, (Advances.done_inv throws).2.symm, rfl⟩)
      | error e => exact .inr (.inl ⟨s, past ++ rest, e, active, throws.2, rfl⟩)

/-- A block in a changed log context comes to the result of its body. -/
theorem Advances.inContext_inv {change : LogContext.Change} {body : Operation α} {r : Except Failure α}
    (advances : Advances (aroundChannel settings) t turns (inContext change body).run (.done r)) :
    ∃ opening called closing, turns = opening ++ called ++ closing ∧ Plain opening ∧ Plain closing ∧
      Advances (aroundChannel settings) t called body.run (.done r) := by
  obtain ⟨(found : LogContext), _, rfl, changes⟩ := Advances.step_inv advances
  obtain ⟨⟨⟩, _, rfl, attributed⟩ := Advances.ask_inv (q := .step (.changeContext change)) nofun changes
  obtain ⟨result, restored, called, closing, rfl, bodies, restores, same⟩ := Advances.ensuring_inv attributed
  have closed : Plain closing := (plainly_changeContext _).plain restores
  have opened : Plain [⟨t, .step .context, found⟩, ⟨t, .step (.changeContext change), ()⟩] :=
    List.forall_mem_cons.mpr ⟨trivial, List.forall_mem_singleton.mpr trivial⟩
  obtain ⟨⟨⟩, _, rfl, ended⟩ := Advances.ask_inv (q := .step (.changeContext found.restoring)) nofun restores
  obtain ⟨rfl, rfl⟩ := Advances.done_inv ended
  subst same
  exact ⟨_, called, _, rfl, opened, closed, bodies⟩

/-- An operation that fails has refused to begin, or its body has failed. -/
theorem Advances.named_inv {body : Operation α} (other : api ≠ .create) (channel : e.class? ≠ none)
    (sensible : Sensible turns)
    (advances : Advances (aroundChannel settings) t turns (named settings api body).run (.done (.error e))) :
    (e.api? = some api.name ∧ Plain turns) ∨ ∃ opening called closing, turns = opening ++ called ++ closing ∧
      Plain opening ∧ Plain closing ∧ Advances (aroundChannel settings) t called body.run (.done (.error e)) := by
  obtain ⟨claimed, opening, rest, rfl, claims, onward⟩ := Advances.bind_inv advances
  have opened : Plain opening := (plainly_acquireActive (name_ne_create other)).plain claims
  cases claimed with
  | error f =>
    obtain ⟨rfl, ⟨⟩⟩ := onward
    rw [List.append_nil] at sensible ⊢
    exact .inl ⟨signs_acquireActive api.name _ _ channel sensible claims, opened⟩
  | ok _ =>
    obtain ⟨result, released, within, closing, rfl, blocks, releases, failed⟩ := Advances.ensuring_inv onward
    have closed : Plain closing := plainly_release.plain releases
    cases released with
    | error f =>
      cases failed
      exact (spotless_release _ _ channel sensible.of_suffix.of_suffix releases).elim
    | ok _ =>
      cases failed
      obtain ⟨s, _, rfl, contexts⟩ := Advances.step_inv blocks
      obtain ⟨before, called, after, rfl, calm, still, bodies⟩ := Advances.inContext_inv contexts
      have looks : Plain [⟨t, .step .session, s⟩] := List.forall_mem_singleton.mpr trivial
      exact .inr ⟨opening ++ ([⟨t, .step .session, s⟩] ++ before), called, after ++ closing, by simp,
        opened.append (looks.append calm), still.append closed, bodies⟩

/-! ## Subscribing -/

theorem NestsCreation.framed {nested : Option (Except Failure Unit)} (nests : NestsCreation settings t called nested)
    (before : Plain past) (after : Plain rest) : NestsCreation settings t (past ++ called ++ rest) nested := by
  cases nests with
  | never plain => exact .never ((before.append plain).append after)
  | @once first within r last early creates late =>
    have same : past ++ (first ++ within ++ last) ++ rest = past ++ first ++ within ++ (last ++ rest) := by simp
    rw [same]
    exact .once (before.append early) creates (late.append after)

/-- Topics are refused under the name of the subscription, or going through them raises a failure. -/
private theorem wantedTopics_error (refused : wantedTopics topics = .error e) :
    (∃ members, topics = .many members (some e)) ∨ e.api? = some Api.subscribe.name := by
  have refusal {members : List Value} (refused : (if members.isEmpty = true then
      .error (.permanent missingTopicsMessage (some Api.subscribe.name)) else .ok members :
        Except Failure (List Value)) = .error e) : e.api? = some Api.subscribe.name := by
    split at refused
    · cases refused
      rfl
    · cases refused
  cases topics with
  | absent =>
    cases refused
    exact .inr rfl
  | single name => exact .inr (refusal refused)
  | many members failure =>
    cases failure with
    | none => exact .inr (refusal refused)
    | some f =>
      cases refused
      exact .inl ⟨members, rfl⟩

theorem signs_subscribeHeld (wanted : List Value) :
    Signs settings t Api.subscribe.name (subscribeHeld settings wanted) :=
  (signs_consumerPath _ _).bind fun _ => (signs_written _ _).bind fun _ => (signs_sendFor _ _ _ _).bind fun _ =>
    (signs_replaceTopics _ _).bind fun _ => (spotless_step .session).signs.bind fun _ => (spotless_log _ _ _).signs

theorem plainly_subscribeHeld (wanted : List Value) : Balances plainly calm (subscribeHeld settings wanted) := by
  refine (plainly_session.consumerPath _ _).bind fun _ => (balances_written _ _).bind fun _ => ?_
  refine Balances.bind ((plainly_send _).rescue fun e => balances_throw _) fun _ => ?_
  exact Balances.bind (fun _ _ => ⟨trivial, fun _ _ => rfl⟩) fun _ => plainly_session.bind fun _ => plainly_log _ _ _

/-- A subscription fails as its caller's topics have it, or under its own name, or as the creation that is nested. -/
theorem blames_subscribe (topics : Topics) : Blames settings t (subscribe settings topics) fun turns e =>
    Culprit settings t turns e (.subscribe topics) := by
  intro turns e channel sensible advances
  rcases Advances.named_inv (by decide) channel sensible advances with ⟨named, plain⟩ |
    ⟨opening, called, closing, rfl, opened, closed, bodies⟩
  · exact .subscription (.never plain) nofun named
  · obtain ⟨wanted, settled, onward, rfl, settles, subscribes⟩ := Advances.bind_inv bodies
    have within := sensible.of_prefix.of_suffix
    cases chosen : wantedTopics topics with
    | error f =>
      rw [chosen] at settles
      obtain ⟨rfl, rfl⟩ := Advances.done_inv settles
      obtain ⟨rfl, ⟨⟩⟩ := subscribes
      rcases wantedTopics_error chosen with ⟨members, rfl⟩ | named
      · exact .wantedTopics members
      · refine .subscription (.never ?_) nofun named
        exact (opened.append plain_nil).append closed
    | ok names =>
      rw [chosen] at settles
      obtain ⟨rfl, rfl⟩ := Advances.done_inv settles
      obtain ⟨(s : Session String Value), afterLook, rfl, goes⟩ := Advances.step_inv subscribes
      have looks : Plain [⟨t, .step .session, s⟩] := List.forall_mem_singleton.mpr trivial
      cases held : s.hasConsumer with
      | true =>
        simp only [held, Bool.not_true, Bool.false_eq_true, ↓reduceIte] at goes
        have plain : Plain afterLook := (plainly_subscribeHeld names).plain goes
        refine .subscription ((NestsCreation.never ?_).framed opened closed) nofun
          (signs_subscribeHeld names afterLook e channel within.of_suffix.of_cons goes)
        exact looks.append plain
      | false =>
        simp only [held, Bool.not_false, ↓reduceIte] at goes
        obtain ⟨created, creating, further, rfl, creates, onward⟩ := Advances.bind_inv goes
        have amid := within.of_suffix.of_cons
        cases created with
        | error f =>
          obtain ⟨rfl, ⟨⟩⟩ := onward
          refine .creation ((NestsCreation.once looks creates plain_nil).framed opened closed) ?_
          exact signs_create creating e channel amid.of_prefix creates
        | ok _ =>
          have plain : Plain further := (plainly_subscribeHeld names).plain onward
          refine .subscription ((NestsCreation.once looks creates plain).framed opened closed) nofun ?_
          exact signs_subscribeHeld names further e channel amid.of_suffix onward

/-! ## Destroying -/

/-- An operation that fails has failed within its turns. -/
theorem failed_self (advances : Advances (aroundChannel settings) t turns operation.run (.done (.error e))) :
    Failed settings t operation turns e := ⟨[], turns, [], by simp, advances, plain_nil⟩

theorem Failed.prepend (failed : Failed settings t operation turns e) (past : List Turn) :
    Failed settings t operation (past ++ turns) e := by
  obtain ⟨before, called, rest, rfl, advances, plain⟩ := failed
  exact ⟨past ++ before, called, rest, by simp, advances, plain⟩

theorem Failed.append (failed : Failed settings t operation turns e) (plain : Plain rest) :
    Failed settings t operation (turns ++ rest) e := by
  obtain ⟨before, called, after, rfl, advances, still⟩ := failed
  exact ⟨before, called, after ++ rest, by simp, advances, still.append plain⟩

/-- Whatever a wait for the end of a loop fails with, it is no channel failure that is raised. -/
theorem spotless_stop (rounds : Nat) : Spotless settings t (stop settings rounds) := by
  have raises (e : Failure) : (stopFailure e).class? = none := by
    unfold stopFailure
    split <;> rfl
  have waits : Spotless settings t (ensuring
      (rescue (awaitEnd settings rounds) fun e => throw (stopFailure e)) (step .clearStopRequest)) :=
    Spotless.ensuring (spotless_rescue fun e => blames_throw fun channel => channel (raises e)) (spotless_step _)
  refine (spotless_step .flags).bind fun (seen : RunFlags) => ?_
  cases seen.running with
  | false => exact blames_pure _
  | true =>
    refine (spotless_step .tryRequestStop).bind fun (granted : Bool) => ?_
    cases granted with
    | false => exact blames_pure _
    | true =>
      refine (spotless_step .held).bind fun (mine : Bool) => ?_
      cases mine with
      | true => exact spotless_log _ _ _
      | false => exact waits

/-- What destroying does once it may, fails only with its deletion. -/
theorem blames_destruction (rounds : Nat) : Blames settings t (do
      if (← session).active then
        stop settings rounds
        delete settings
        closeTransport
        step .deactivate
        log Level.info "Channel destroyed" [("consumer_group", settings.group)])
    fun turns e => Failed settings t (delete settings) turns e ∧ e.api? = some Api.delete.name := by
  have lasts (past turns : List Turn) (e : Failure)
      (blamed : Failed settings t (delete settings) turns e ∧ e.api? = some Api.delete.name) :
      Failed settings t (delete settings) (past ++ turns) e ∧ e.api? = some Api.delete.name :=
    ⟨blamed.1.prepend past, blamed.2⟩
  refine Blames.bind (spotless_step .session).blames (fun (s : Session String Value) => ?_) lasts
  cases s.active with
  | false => exact blames_pure _
  | true =>
    have deletes : Blames settings t (delete settings) fun turns e =>
        Failed settings t (delete settings) turns e ∧ e.api? = some Api.delete.name :=
      fun turns e channel sensible advances =>
        ⟨failed_self advances, signs_delete turns e channel sensible advances⟩
    refine Blames.bind (spotless_stop rounds).blames (fun _ => Blames.bind deletes (fun _ => ?_) lasts) lasts
    exact (spotless_closeTransport.bind fun _ => (spotless_step .deactivate).bind fun _ =>
      spotless_log _ _ _).blames

/-- Destroying the channel fails because another thread is at it, or because the deletion fails. -/
theorem blames_destroy (rounds : Nat) : Blames settings t (destroy settings rounds) fun turns e =>
    Culprit settings t turns e (.destroy rounds) := by
  intro turns e channel sensible advances
  obtain ⟨(free : Bool), rest, rfl, onward⟩ := Advances.step_inv advances
  cases free with
  | false =>
    obtain ⟨rfl, ⟨⟩⟩ := Advances.done_inv onward
    exact .contention rfl rfl
  | true =>
    obtain ⟨result, released, past, last, rfl, destroys, releases, same⟩ := Advances.ensuring_inv onward
    have within := sensible.of_cons
    cases released with
    | error f =>
      cases same
      exact (spotless_unlockDestroy last _ channel within.of_suffix releases).elim
    | ok _ =>
      cases same
      obtain ⟨failed, named⟩ := blames_destruction rounds past e channel within.of_prefix destroys
      have unlocks : Balances plainly (fun _ => True) unlockDestroy := fun _ _ => ⟨trivial, fun _ _ => rfl⟩
      exact .deletion rfl ((failed.append (unlocks.plain releases)).prepend [_]) named

/-! ## Running -/

namespace Blamed

theorem prepend (blamed : Blamed settings t callback turns e) (past : List Turn) :
    Blamed settings t callback (past ++ turns) e := by
  cases blamed with
  | callback failed => exact .callback (failed.prepend past)
  | create failed named => exact .create (failed.prepend past) named
  | subscribe failed named => exact .subscribe (failed.prepend past) named
  | consume failed named => exact .consume (failed.prepend past) named
  | commit failed named => exact .commit (failed.prepend past) named
  | delete failed named => exact .delete (failed.prepend past) named

theorem append (blamed : Blamed settings t callback turns e) (plain : Plain rest) :
    Blamed settings t callback (turns ++ rest) e := by
  cases blamed with
  | callback failed => exact .callback (failed.append plain)
  | create failed named => exact .create (failed.append plain) named
  | subscribe failed named => exact .subscribe (failed.append plain) named
  | consume failed named => exact .consume (failed.append plain) named
  | commit failed named => exact .commit (failed.append plain) named
  | delete failed named => exact .delete (failed.append plain) named

end Blamed

/-- A sequence in a loop. -/
theorem Blames.onward {first : Operation α} {next : α → Operation β}
    (head : Blames settings t first (Blamed settings t callback))
    (tail : ∀ a, Blames settings t (next a) (Blamed settings t callback)) :
    Blames settings t (first >>= next) (Blamed settings t callback) :=
  head.bind tail fun past _ _ blamed => blamed.prepend past

theorem blamed_create : Blames settings t (create settings) (Blamed settings t callback) :=
  fun turns e channel sensible advances =>
    .create (failed_self advances) (signs_create turns e channel sensible advances)

theorem blamed_delete : Blames settings t (delete settings) (Blamed settings t callback) :=
  fun turns e channel sensible advances =>
    .delete (failed_self advances) (signs_delete turns e channel sensible advances)

theorem blamed_consume (timeout : Value) :
    Blames settings t (consume settings timeout) (Blamed settings t callback) :=
  fun turns e channel sensible advances =>
    .consume (failed_self advances) (signs_consume timeout turns e channel sensible advances)

theorem blamed_commit : Blames settings t (commit settings) (Blamed settings t callback) :=
  fun turns e channel sensible advances =>
    .commit (failed_self advances) (signs_commit turns e channel sensible advances)

/-- A subscription within a loop, whose topics have been gone through before. -/
theorem blamed_subscribe (members : List Value) :
    Blames settings t (subscribe settings (.many members none)) (Blamed settings t callback) := by
  intro turns e channel sensible advances
  have culprit := blames_subscribe (.many members none) turns e channel sensible advances
  cases culprit with
  | simple own named => cases own
  | subscription creates well named => exact .subscribe (failed_self advances) named
  | creation creates named =>
    cases creates with
    | once before creates after => exact .create (((failed_self creates).prepend _).append after) named

/-- What comes of a failure: it is raised again once the loop has cleaned up, or rebuilding the session fails. -/
theorem blamed_recover {past : List Turn} (goOn : Bool)
    (blamed : e.class? ≠ none → Blamed settings t callback past e) :
    Blames settings t (recover settings goOn e) fun rest => Blamed settings t callback (past ++ rest) := by
  have spotless : Spotless settings t (deleteAfterFailure settings e) := by
    refine (spotless_step .session).bind fun _ => (spotless_log _ _ _).bind fun _ =>
      (spotless_step .session).bind fun (s : Session String Value) => ?_
    cases s.active with
    | false => exact blames_pure _
    | true =>
      refine spotless_rescue fun second => ?_
      cases kind : second.class? with
      | none => exact blames_throw fun channel => channel kind
      | some known => exact spotless_log _ _ _
  have cleans : Blames settings t (do deleteAfterFailure settings e; throw e : Operation LoopState) fun rest =>
      Blamed settings t callback (past ++ rest) := by
    intro turns f channel sensible advances
    obtain ⟨result, cleaning, rest, rfl, deletes, throws⟩ := Advances.bind_inv advances
    cases result with
    | error g =>
      obtain ⟨rfl, ⟨⟩⟩ := throws
      exact (spotless cleaning _ channel sensible.of_prefix deletes).elim
    | ok _ =>
      obtain ⟨rfl, ⟨⟩⟩ := Advances.done_inv throws
      rw [List.append_nil]
      exact (blamed channel).append ((plainly_delete.deleteAfterFailure plainly_session plainly_log _).plain deletes)
  have rebuilds : Blames settings t (recreate settings e) (Blamed settings t callback) := by
    refine Blames.onward (spotless_step .session).blames fun _ => Blames.onward (spotless_log _ _ _).blames fun _ => ?_
    refine blamed_delete.onward fun _ => Blames.onward spotless_closeTransport.blames fun _ => ?_
    exact Blames.onward spotless_openTransport.blames fun _ => blamed_create
  unfold recover
  split
  · intro turns f channel sensible advances
    have goes := rebuilds.onward (fun _ => blames_pure _) turns f channel sensible advances
    exact goes.prepend past
  · exact cleans
  · exact cleans
  · exact blames_throw fun channel => by
      rw [List.append_nil]
      exact blamed channel

/-- The first half of a cycle. -/
theorem blamed_fetch (topics : List Value) (subscribed : Bool) :
    Blames settings t (fetch settings callback topics subscribed) (Blamed settings t callback) := by
  have rest (stopped : Bool) : Blames settings t (do
      if stopped then return none
      let batch ← consume settings settings.consumeTimeout
      let s ← session
      let wish ← callBack callback batch s.consumer
      if (← session).active then return some wish.truthy else return none) (Blamed settings t callback) := by
    cases stopped with
    | true => exact blames_pure _
    | false =>
      refine (blamed_consume _).onward fun batch => Blames.onward (spotless_step .session).blames
        fun (s : Session String Value) => ?_
      have calls : Blames settings t (callBack callback batch s.consumer) (Blamed settings t callback) :=
        fun turns e _ _ advances => .callback (failed_self advances)
      refine calls.onward fun wish => Blames.onward (spotless_step .session).blames
        fun (s : Session String Value) => ?_
      split
      · exact blames_pure _
      · exact blames_pure _
  unfold fetch
  cases subscribed with
  | true => exact Blames.onward (blames_pure _) rest
  | false => exact (blamed_subscribe topics).onward fun _ => Blames.onward (spotless_step .flags).blames fun _ =>
      Blames.onward (blames_pure _) rest

/-- One cycle. -/
theorem blamed_cycle (topics : List Value) (subscribed : Bool) :
    Blames settings t (cycle settings callback topics subscribed) (Blamed settings t callback) := by
  intro turns e channel sensible advances
  obtain ⟨result, past, rest, rfl, fetches, onward⟩ := Advances.outcome_inv advances
  match result with
  | .error f =>
    refine blamed_recover true (fun kind => ?_) rest e channel sensible.of_suffix onward
    exact blamed_fetch topics subscribed past f kind sensible.of_prefix fetches
  | .ok none => cases (Advances.done_inv onward).2
  | .ok (some goOn) =>
    refine Blamed.prepend ?_ past
    obtain ⟨committed, commits, later, rfl, committing, repaired⟩ := Advances.rescue_inv onward
    have within := sensible.of_suffix
    cases committed with
    | ok state => cases repaired.2
    | error f =>
      refine blamed_recover goOn (fun kind => ?_) later e channel within.of_suffix repaired
      exact blamed_commit.onward (fun _ => blames_pure _) commits f kind within.of_prefix committing

/-- A loop, round by round. -/
theorem blamed_loop (topics : List Value) (rounds : Nat) (state : LoopState) :
    Blames settings t (loop settings callback topics rounds state) (Blamed settings t callback) := by
  have going (state : LoopState) : Spotless settings t (goesOn state) := by
    unfold goesOn
    split
    · exact (spotless_step .flags).bind fun _ => blames_pure _
    · exact blames_pure _
  induction rounds generalizing state with
  | zero =>
    refine Blames.onward (going state).blames fun goes => ?_
    split
    · exact blames_throw fun channel => absurd rfl channel
    · exact blames_pure _
  | succ rounds ih =>
    refine Blames.onward (going state).blames fun goes => ?_
    split
    · exact (blamed_cycle topics state.subscribed).onward fun next => ih next
    · exact blames_pure _

/-- What is given to a run is enough for a loop. -/
def Equipped (settings : Settings) (callback : Option CallbackId) : Prop :=
  settings.group.truthy = true ∧ callback ≠ none

/-- Choosing the topics of a loop fails only with what going through them raises. -/
theorem blames_loopTopics (topics : Topics) : Blames settings t (loopTopics topics) fun _ e =>
    ∃ members, topics = .many members (some e) := by
  have recorded : Spotless settings t (do return (← session).topics : Operation (List Value)) :=
    (spotless_step .session).bind fun _ => blames_pure _
  unfold loopTopics
  split
  · exact recorded.blames
  · exact recorded.blames
  · exact blames_pure _
  · exact blames_throw fun _ => ⟨_, rfl⟩
  · exact recorded.blames
  · exact blames_pure _

theorem spotless_tryStart (rounds : Nat) (patient : Bool) : Spotless settings t (tryStart rounds patient) := by
  have idles : Spotless settings t (awaitIdle rounds) := by
    induction rounds with
    | zero =>
      refine (spotless_step .flags).bind fun (seen : RunFlags) => ?_
      split
      · exact blames_throw fun channel => channel rfl
      · exact blames_pure _
    | succ rounds ih =>
      refine (spotless_step .flags).bind fun (seen : RunFlags) => ?_
      split
      · exact spotless_wait.bind fun _ => ih
      · exact blames_pure _
  cases patient with
  | false => exact spotless_step .tryStart
  | true => exact idles.bind fun _ => spotless_step .tryStart

/-- What is checked before a loop fails under the name of the run. -/
theorem blames_enterLoop (rounds : Nat) (callback : Option CallbackId) (topics : Topics) :
    Blames settings t (enterLoop settings rounds callback topics) fun _ e =>
      ¬ Equipped settings callback ∧ e.api? = some runName ∨
        Equipped settings callback ∧ ∃ members, topics = .many members (some e) := by
  unfold enterLoop
  cases grouped : settings.group.truthy with
  | false =>
    intro turns e _ _ advances
    obtain ⟨-, ⟨⟩⟩ := Advances.done_inv advances
    exact .inl ⟨fun equipped => (nomatch grouped.symm.trans equipped.1), rfl⟩
  | true =>
    cases callback with
    | none => exact blames_throw fun _ => .inl ⟨fun equipped => equipped.2 rfl, rfl⟩
    | some id =>
      have equipped : Equipped settings (some id) := ⟨grouped, nofun⟩
      have chooses : Blames settings t (loopTopics topics) fun _ e =>
          ¬ Equipped settings (some id) ∧ e.api? = some runName ∨
            Equipped settings (some id) ∧ ∃ members, topics = .many members (some e) :=
        fun turns e channel sensible advances =>
          .inr ⟨equipped, blames_loopTopics topics turns e channel sensible advances⟩
      refine chooses.bind (fun wanted => Spotless.blames ?_) fun _ _ _ blamed => blamed
      refine (spotless_step .depth).bind fun (claims : Nat) => (spotless_tryStart _ _).bind fun (started : Bool) => ?_
      cases started with
      | true => exact blames_pure _
      | false => exact (spotless_log _ _ _).bind fun _ => blames_pure _

/-- A loop is entered only with a group and with the callback that is given. -/
theorem Advances.entered {rounds : Nat} {given : Option CallbackId} {wanted : List Value}
    (advances : Advances (aroundChannel settings) t turns (enterLoop settings rounds given topics).run
      (.done (.ok (some (callback, wanted))))) : settings.group.truthy = true ∧ given = some callback := by
  unfold enterLoop at advances
  cases grouped : settings.group.truthy with
  | false =>
    simp only [grouped, Bool.not_false, ↓reduceIte] at advances
    cases (Advances.done_inv advances).2
  | true =>
    simp only [grouped, Bool.not_true, Bool.false_eq_true, ↓reduceIte] at advances
    cases given with
    | none => cases (Advances.done_inv advances).2
    | some id =>
      obtain ⟨chosen, choosing, rest, rfl, -, onward⟩ := Advances.bind_inv advances
      cases chosen with
      | error f => cases onward.2
      | ok names =>
        obtain ⟨claims, afterDepth, rfl, starts⟩ := Advances.step_inv onward
        obtain ⟨started, starting, rest, rfl, -, entered⟩ := Advances.bind_inv starts
        match started with
        | .error f => cases entered.2
        | .ok true =>
          obtain ⟨-, ⟨⟩⟩ := Advances.done_inv entered
          exact ⟨rfl, rfl⟩
        | .ok false =>
          obtain ⟨logged, logging, rest, rfl, -, ended⟩ := Advances.bind_inv entered
          cases logged with
          | error f => cases ended.2
          | ok _ => cases (Advances.done_inv ended).2

/-- What comes after a loop leaves its failure as it is. -/
theorem Advances.closing_inv {result : Except Failure Unit} {message : String} {extras : List (String × Value)}
    (advances : Advances (aroundChannel settings) t turns (do
      release
      step .finish
      log Level.info message extras
      settle result : Operation Unit).run (.done (.error e)))
    (channel : e.class? ≠ none) (sensible : Sensible turns) : result = .error e ∧ Plain turns := by
  have finishes : Balances plainly (fun _ => True) (step .finish) := fun _ _ => ⟨trivial, fun _ _ => rfl⟩
  have plain := Balances.plain (plainly_release.bind fun _ => finishes.bind fun _ => (plainly_log _ _ _).bind fun _ =>
    balances_settle result) advances
  refine ⟨?_, plain⟩
  have blames : Blames settings t (do
      release
      step .finish
      log Level.info message extras
      settle result : Operation Unit) fun _ f => result = .error f := by
    have settles : Blames settings t (settle result) fun _ f => result = .error f := by
      cases result with
      | ok a => exact blames_pure a
      | error f => exact blames_throw fun _ => rfl
    refine spotless_release.blames.bind (fun _ => (spotless_step .finish).blames.bind (fun _ => ?_) ?_) ?_
    · exact (spotless_log _ _ _).blames.bind (fun _ => settles) fun _ _ _ same => same
    · exact fun _ _ _ same => same
    · exact fun _ _ _ same => same
  exact blames turns e channel sensible advances

/-- A run fails before its loop under its own name, or as its caller's topics have it, or as its loop. -/
theorem blames_run (rounds : Nat) (given : Option CallbackId) (topics : Topics) :
    Blames settings t (run settings rounds given topics) fun turns e =>
      Culprit settings t turns e (.run rounds given topics) := by
  intro turns e channel sensible advances
  obtain ⟨claimed, claiming, rest, rfl, claims, onward⟩ := Advances.bind_inv advances
  rcases claims.acquireActive_inv with ⟨f, rfl, rfl⟩ | ⟨s, more, f, inactive, rfl, rfl⟩ | ⟨s, active, rfl, rfl⟩
  · obtain ⟨rfl, ⟨⟩⟩ := onward
    refine .entry (fun passes => ?_) (signs_acquireActive runName _ e channel sensible.of_prefix claims)
    obtain ⟨_, _, -, same⟩ := passes.active
    cases same
  · obtain ⟨rfl, ⟨⟩⟩ := onward
    refine .entry (fun passes => ?_) (signs_acquireActive runName _ e channel sensible.of_prefix claims)
    obtain ⟨_, _, active, same⟩ := passes.active
    cases same
    exact nomatch inactive.symm.trans active
  · obtain ⟨entry, entering, after, rfl, enters, goes⟩ := Advances.outcome_inv onward
    have within := sensible.of_suffix
    match entry with
    | .error f =>
      obtain ⟨released, releasing, last, rfl, releases, throws⟩ := Advances.bind_inv goes
      cases released with
      | error g =>
        obtain ⟨rfl, ⟨⟩⟩ := throws
        exact (spotless_release releasing _ channel within.of_suffix.of_prefix releases).elim
      | ok _ =>
        obtain ⟨rfl, ⟨⟩⟩ := Advances.done_inv throws
        rcases blames_enterLoop rounds given topics entering e channel within.of_prefix enters with
          ⟨unequipped, named⟩ | ⟨equipped, members, rfl⟩
        · exact .entry (fun passes => unequipped ⟨passes.grouped, passes.called⟩) named
        · exact .loopTopics members ⟨equipped.1, equipped.2, s, _, active, rfl⟩
    | .ok none => exact (spotless_release after e channel within.of_suffix goes).elim
    | .ok (some (id, wanted)) =>
      obtain ⟨grouped, rfl⟩ := enters.entered
      obtain ⟨result, looping, last, rfl, loops, closes⟩ := Advances.outcome_inv goes
      refine .loop ⟨grouped, nofun, s, _, active, rfl⟩ ?_
      obtain ⟨rfl, plain⟩ := closes.closing_inv channel within.of_suffix.of_suffix
      obtain ⟨opening, called, closing, rfl, opened, closed, body⟩ := loops.inContext_inv
      have blames : Blames settings t _ (Blamed settings t id) := Blames.onward
        (spotless_log Level.info "Starting consume loop" [("topics", .list wanted)]).blames fun _ =>
          blamed_loop wanted rounds ⟨false, true⟩
      have blamed := blames called e channel within.of_suffix.of_prefix.of_prefix.of_suffix body
      exact ((((blamed.prepend opening).append closed).append plain).prepend entering).prepend _

/-! ## Every operation -/

end

/-- A service that refuses every request, under a name of its own. -/
def refusing : (call : Outside) → call.Reply :=
  (Surroundings.scripted [.error (.transient "trouble" (some "elsewhere"))] [] (.ok (.bool true))).reply []

/-- It raises channel failures for nothing else. -/
theorem housekept_refusing {t : Thread} (n : Nat) (program : Program Query Query.Answer α) (m : Shared) :
    ∀ turn ∈ (solo refusing t n program m).turns, turn.Housekept := by
  rintro ⟨u, q, answer⟩ taken
  cases q with
  | step s => exact True.intro
  | outside call =>
    cases answer_solo refusing n program m taken
    cases call with
    | send n request => exact True.intro
    | callback id batch consumer => exact True.intro
    | sleep seconds => exact True.intro
    | _ => exact fun e failed => nomatch failed

/-- Two threads are about to make moves on a new channel. -/
def attempting (first second : List Move) : Crowd Shared where
  memory := ⟨State.initial, fun _ => .empty⟩
  programs t := client committing (if t = 1 then first else if t = 2 then second else [])

/-- A thread is about to subscribe. -/
def hopeful : Crowd Shared := attempting [.subscribe (.single "t")] []

/-- The subscription, for which no consumer can be created. -/
def hopeless : Stretch (Except Failure Unit) :=
  solo refusing 1 30 ((Move.subscribe (.single "t")).operation committing).run hopeful.memory

/-- Whether something is called back. -/
def Turn.isCallback : Turn → Bool
  | ⟨_, .outside (.callback _ _ _), _⟩ => true
  | _ => false

/-- Threads come to where a move of one of them fails with a channel failure that names nothing, and that no callback
can have raised. -/
def FailsNameless (start : Crowd Shared) (t : Thread) (move : Move) : Prop :=
  ∃ turns later e, Crowd.Runs (aroundChannel committing) start turns later ∧
    Advances (aroundChannel committing) t (own t turns) (move.operation committing).run (.done (.error e)) ∧
    e.class? ≠ none ∧ e.api? = none ∧ ∀ turn ∈ own t turns, turn.isCallback = false

/-- Whether a stretch ends so. -/
def Stretch.failsNameless (stretch : Stretch (Except Failure Unit)) : Bool :=
  stretch.turns.all (!·.isCallback) &&
    match stretch.left with
    | .done (.error e) => e.class?.isSome && e.api? = none
    | _ => false

/-- What one thread does on its own after another one. -/
private theorem failsNameless_of_stretches {start : Crowd Shared} {move : Move} {reply : (call : Outside) → call.Reply}
    {further : List Move} {n k : Nat} {before : Stretch Unit} {stretch : Stretch (Except Failure Unit)}
    (mine : start.programs 1 = (move.operation committing).run >>= fun _ => client committing further)
    (begins : before = solo reply 2 n (start.programs 2) start.memory)
    (resumes : stretch = solo reply 1 k (move.operation committing).run before.memory)
    (fails : stretch.failsNameless = true) : FailsNameless start 1 move := by
  unfold Stretch.failsNameless at fails
  rw [Bool.and_eq_true, List.all_eq_true] at fails
  obtain ⟨quiet, ended⟩ := fails
  split at ended
  · next e left =>
    rw [Bool.and_eq_true, Option.isSome_iff_ne_none, decide_eq_true_eq] at ended
    have begun : Crowd.Runs (aroundChannel committing) start before.turns
        ⟨before.memory, assign start.programs 2 (before.left >>= .done)⟩ := by
      rw [begins]
      exact runs_solo reply n (bind_done (start.programs 2)).symm
    have goes : assign start.programs 2 (before.left >>= .done) 1 = _ := (assign_other _ _ (by decide)).trans mine
    have whole := begun.trans (runs_solo (t := 1) reply k goes)
    rw [← resumes] at whole
    have own : own 1 (before.turns ++ stretch.turns) = stretch.turns := by
      rw [own_append, begins, own_solo_other _ _ (by decide), List.nil_append, resumes, own_solo]
    refine ⟨_, _, e, whole, ?_, ended.1, ended.2, fun turn taken => ?_⟩
    · rw [own, ← left, resumes]
      exact advances_solo ..
    · rw [own] at taken
      simpa using quiet turn taken
  · cases ended

/-- Topics that cannot be gone through: that raises a channel failure without a name. -/
def unnamedTopics : Topics := .many [] (some (.transient "trouble" none))

/-- Everything is as with such a service, and waiting raises a channel failure without a name. -/
def impatient : (call : Outside) → call.Reply
  | .wait => .error (.transient "trouble" none)
  | call => refusing call

end ConsumerChannel.Channel
