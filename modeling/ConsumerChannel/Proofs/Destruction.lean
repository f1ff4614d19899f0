import ConsumerChannel.Proofs.Sharing

/-! What a destroyed channel still holds. Whoever destroys a channel clears its session under the guard, gives
the guard up, closes the transport, and freezes the session after that. A consumer that another thread records
in between is frozen with the session. -/
namespace ConsumerChannel.Channel
open Operation

/-- How far a thread has come with clearing the session. -/
inductive Sweep where
  | dirty
  /-- The thread has seen or made the session empty since it claimed the guard. -/
  | swept
  /-- The thread has given the guard up over an empty session. -/
  | freed

namespace Sweep

/-- A thread that holds the guard knows what it has seen of the session. -/
def seeing : Sweep → (held : Option String) → Sweep
  | dirty, none => swept
  | sweep, _ => sweep

/-- A thread that holds the guard knows that it has made the session empty. -/
def resetting : Sweep → Sweep
  | freed => freed
  | _ => swept

/-- The guard is given up over an empty session or over any. -/
def releasing : Sweep → Sweep
  | swept => freed
  | sweep => sweep

variable {sweep : Sweep}

theorem seeing_some (id : String) : sweep.seeing (some id) = sweep := by
  cases sweep <;> rfl

theorem seeing_none (held : sweep ≠ freed) : sweep.seeing none = swept := by
  cases sweep with
  | freed => exact absurd rfl held
  | _ => rfl

theorem seeing_eq_freed {held : Option String} (seen : sweep.seeing held = freed) : sweep = freed := by
  cases sweep <;> cases held <;> first | rfl | cases seen

theorem resetting_eq_freed (reset : sweep.resetting = freed) : sweep = freed := by
  cases sweep <;> first | rfl | cases reset

end Sweep

/-- A thread that clears the session records no consumer, and freezes the session only once it is cleared. -/
def sweeping : Discipline Sweep where
  permits sweep
    | .step (.setConsumer _ _) => False
    | .step .deactivate => sweep = .freed
    | _ => True
  allows _ _ _ := True
  after sweep
    | .step (.acquire _), _ => .dirty
    | .step .session, s => sweep.seeing (heldConsumer? s)
    | .step (.resetSession _), .ok _ => sweep.resetting
    | .step .release, _ => sweep.releasing
    | _, _ => sweep

section
variable {settings : Settings} {calm : Sweep → Prop}

/-! ## Destroying -/

theorem sweeping_flags : Balances sweeping calm flags := fun _ _ => ⟨trivial, fun _ _ => rfl⟩

theorem sweeping_log (level : Level) (message : String) (extras : List (String × Value)) :
    Balances sweeping calm (log level message extras) := fun _ _ => ⟨trivial, fun _ _ => rfl⟩

theorem sweeping_send (request : Request) : Balances sweeping calm (send request) :=
  fun _ _ => ⟨trivial, fun _ _ => ⟨trivial, fun _ _ => rfl⟩⟩

theorem sweeping_closeTransport : Balances sweeping calm closeTransport :=
  fun _ _ => ⟨trivial, fun _ _ => ⟨trivial, fun _ _ => rfl⟩⟩

/-- Stopping has nothing to do with the session. -/
theorem sweeping_stop (rounds : Nat) : Balances sweeping calm (stop settings rounds) := by
  have waits : Balances sweeping calm (awaitEnd settings rounds) :=
    .awaitEnd sweeping_flags sweeping_log (fun _ _ => ⟨trivial, fun _ _ => rfl⟩) rounds
  refine sweeping_flags.bind fun f => ?_
  split
  · exact balances_pure _
  · have asks : Balances sweeping calm tryRequestStop := fun _ _ => ⟨trivial, fun _ _ => rfl⟩
    refine asks.bind fun granted => ?_
    split
    · exact balances_pure _
    · have looks : Balances sweeping calm held := fun _ _ => ⟨trivial, fun _ _ => rfl⟩
      refine looks.bind fun own => ?_
      split
      · exact sweeping_log _ _ _
      · exact (waits.rescue fun e => balances_throw _).ensuring fun _ _ => ⟨trivial, fun _ _ => rfl⟩

/-- Whatever comes of a request to delete, the guard is not given up meanwhile. -/
theorem sweeping_deletion (id : String) {sweep : Sweep} (held : sweep ≠ .freed) :
    Obeys sweeping (deletion settings id).run sweep fun _ later => later ≠ .freed := by
  have stays {sweep : Sweep} {operation : Operation Unit} (held : sweep ≠ .freed)
      (balances : Balances sweeping (fun _ => True) operation) :
      Obeys sweeping operation.run sweep fun _ later => later ≠ .freed :=
    (balances.anywhere sweep).weaken fun _ _ same => same ▸ held
  have asked : Obeys sweeping (do
      let path ← consumerPath settings .delete ""
      let _ ← send ⟨.delete, path, none, .ofApi .delete⟩
      log Level.info "Deleted consumer" [("consumer_id", .text id)]).run sweep
      fun _ later => later ≠ .freed := by
    have looked : Obeys sweeping (consumerPath settings .delete "").run sweep
        fun _ later => later ≠ .freed := by
      refine .step_bind trivial fun (s : Session String Value) _ => ?_
      have seen : sweep.seeing (heldConsumer? s) ≠ .freed := fun freed => held (Sweep.seeing_eq_freed freed)
      show Obeys sweeping _ (sweep.seeing (heldConsumer? s)) _
      split
      · exact seen
      · exact seen
    refine looked.bind (fun path later held => ?_) fun e later held => held
    exact stays held ((sweeping_send _).bind fun _ => sweeping_log _ _ _)
  refine asked.rescue (fun _ _ held => held) fun e later held => ?_
  split
  · exact stays held (sweeping_log _ _ _)
  · exact held

/-- A reset that succeeds leaves nothing. -/
theorem sweeping_reset (api : Api) {sweep : Sweep} (held : sweep ≠ .freed) :
    Obeys sweeping (reset api).run sweep fun r later => r = .ok () → later = .swept := by
  refine ⟨trivial, fun answer _ => ?_⟩
  cases answer with
  | error e => exact nofun
  | ok _ =>
    have swept : sweep.resetting = .swept := by
      cases sweep with
      | freed => exact absurd rfl held
      | _ => rfl
    show Obeys sweeping _ sweep.resetting _
    rw [swept]
    refine ⟨trivial, fun n _ => ⟨trivial, fun cookies _ => ?_⟩⟩
    cases cookies with
    | error e => exact nofun
    | ok _ => exact ⟨trivial, fun _ _ _ => rfl⟩

/-- The guard that was claimed for an active channel is yet to be given up. -/
theorem sweeping_acquireActive (api : String) (sweep : Sweep) :
    Obeys sweeping (acquireActive api).run sweep fun r later => r = .ok () → later ≠ .freed := by
  refine ⟨trivial, fun answer _ => ?_⟩
  cases answer with
  | error e => exact nofun
  | ok _ =>
    refine .step_bind trivial fun (s : Session String Value) _ => ?_
    show Obeys sweeping (if !s.active then release >>= fun _ => throw _ else pure ()).run
      (Sweep.dirty.seeing (heldConsumer? s)) _
    split
    · refine ⟨trivial, fun answer _ => ?_⟩
      cases answer <;> exact nofun
    · exact fun _ freed => nomatch Sweep.seeing_eq_freed freed

/-- An operation whose block leaves an empty session unless it fails gives the guard up over it. -/
theorem sweeping_named {api : Api} {body : Operation Unit}
    (obeys : ∀ sweep, sweep ≠ .freed → Obeys sweeping body.run sweep fun r later => r = .ok () → later = .swept)
    (sweep : Sweep) :
    Obeys sweeping (named settings api body).run sweep fun r later => r = .ok () → later = .freed := by
  have inside (change : LogContext.Change) {sweep : Sweep} (held : sweep ≠ .freed) :
      Obeys sweeping (inContext change body).run sweep fun r later => r = .ok () → later = .swept := by
    refine .step_bind trivial fun found _ => .step_bind trivial fun _ _ => ?_
    refine (obeys sweep held).ensuring fun r later swept => ?_
    exact ⟨trivial, fun _ _ => ⟨fun _ => swept, nofun⟩⟩
  refine (sweeping_acquireActive _ sweep).bind ?_ fun _ _ _ => nofun
  rintro ⟨⟩ later claimed
  have seen (s : Session String Value) : later.seeing (heldConsumer? s) ≠ .freed :=
    fun freed => claimed rfl (Sweep.seeing_eq_freed freed)
  refine Obeys.ensuring (.step_bind trivial fun s _ => inside _ (seen s)) ?_
  refine fun r after swept => ⟨trivial, fun answer _ => ?_⟩
  cases answer with
  | error e => exact ⟨nofun, fun _ _ => nofun⟩
  | ok _ =>
    refine ⟨fun _ good => ?_, nofun⟩
    rw [swept good]
    rfl

/-- A deletion that succeeds clears the session and then gives the guard up. -/
theorem sweeping_delete (sweep : Sweep) :
    Obeys sweeping (delete settings).run sweep fun r later => r = .ok () → later = .freed := by
  refine sweeping_named (fun sweep held => ?_) sweep
  refine .step_bind trivial fun (s : Session String Value) _ => ?_
  show Obeys sweeping _ (sweep.seeing (heldConsumer? s)) _
  cases heldConsumer? s with
  | none => exact fun _ => Sweep.seeing_none held
  | some id =>
    rw [Sweep.seeing_some]
    refine (sweeping_deletion id held).ensuring fun r later held => ?_
    exact (sweeping_reset .delete held).weaken fun c after swept => ⟨fun good _ => swept good, fun _ _ => nofun⟩

/-- Whoever destroys the channel records no consumer, and freezes the session only once it has cleared it and
given the guard up. -/
theorem sweeping_destroy (rounds : Nat) (sweep : Sweep) :
    Obeys sweeping (destroy settings rounds).run sweep fun _ _ => True := by
  have body (sweep : Sweep) : Obeys sweeping (do
      if (← session).active then
        stop settings rounds
        delete settings
        closeTransport
        step .deactivate
        log Level.info "Channel destroyed" [("consumer_group", settings.group)]).run sweep
      fun _ _ => True := by
    refine .step_bind trivial fun (s : Session String Value) _ => ?_
    split
    · refine (sweeping_stop rounds).anywhere_bind (fun _ => ?_) fun _ => trivial
      refine (sweeping_delete _).bind ?_ fun _ _ _ => trivial
      rintro ⟨⟩ later cleared
      cases cleared rfl
      refine sweeping_closeTransport.anywhere_bind (fun _ => ?_) fun _ => trivial
      refine .step_bind rfl fun _ _ => ?_
      exact ((sweeping_log _ _ _).anywhere _).weaken fun _ _ _ => trivial
    · trivial
  refine .step_bind trivial fun (free : Bool) _ => ?_
  cases free with
  | false => trivial
  | true =>
    refine (body sweep).ensuring fun r later _ => ⟨trivial, fun answer _ => ?_⟩
    exact ⟨fun _ => trivial, fun _ _ => trivial⟩

end

/-! ## What other threads leave behind -/

/-- A thread records a consumer. -/
def Turn.Records (turn : Turn) : Prop :=
  ∃ id api, turn = ⟨turn.thread, .step (.setConsumer id api), .ok ()⟩

/-- A thread has given the guard up, and the session holds no consumer unless another thread has recorded one
since. -/
structure Cleared (t : Thread) (turns : List Turn) (m : Shared) : Prop where
  gaveUp : (⟨t, .step .release, .ok ()⟩ : Turn) ∈ turns
  empty : m.state.session.consumer = none ∨ ∃ past turn rest, turns = past ++ turn :: rest ∧
    turn.thread ≠ t ∧ turn.Records ∧ (⟨t, .step .release, .ok ()⟩ : Turn) ∈ past

theorem consumer_of_unheld {s : Session String Value} (proper : s.Proper)
    (unheld : heldConsumer? s = none) : s.consumer = none := by
  unfold heldConsumer? at unheld
  split at unheld
  · rename_i id held
    split at unheld
    · rename_i blank
      exact absurd blank (proper.named id held)
    · cases unheld
  · assumption

section
variable {settings : Settings} {start crowd later : Crowd Shared} {turns : List Turn} {turn : Turn} {t : Thread}

/-- After any turn the session has the consumer that it had, or none, or the one that the turn records. -/
private theorem consumer_of_turn (takes : crowd.Takes (aroundChannel settings) turn later) :
    later.memory.state.session.consumer = crowd.memory.state.session.consumer ∨
      later.memory.state.session.consumer = none ∨ turn.Records := by
  obtain ⟨-, answers⟩ := takes
  obtain ⟨u, q, answer⟩ := turn
  cases q with
  | outside call =>
    have same : later.memory = crowd.memory := answers
    exact .inl (by rw [same])
  | step s =>
    obtain ⟨(answered : (s.apply u (crowd.memory.seenBy u)).1 = answer),
      (left : crowd.memory.leftBy u (s.apply u (crowd.memory.seenBy u)).2 = later.memory)⟩ := answers
    rw [← left]
    show (s.apply u (crowd.memory.seenBy u)).2.session.consumer = (crowd.memory.seenBy u).session.consumer ∨
      (s.apply u (crowd.memory.seenBy u)).2.session.consumer = none ∨ _
    by_cases writes : s.part = some .session
    · cases s with
      | setConsumer id api =>
        cases recorded : (crowd.memory.seenBy u).session.setConsumer (some id) api with
        | error e =>
          simp only [Step.apply, recorded, Step.attempt]
          exact .inl trivial
        | ok session =>
          refine .inr (.inr ⟨id, api, ?_⟩)
          rw [← answered]
          simp only [Step.apply, recorded, Step.attempt]
      | replaceTopics topics api =>
        exact .inl (Step.attempt_keeps (·.session.consumer = (crowd.memory.seenBy u).session.consumer) rfl
          fun session recorded => Session.consumer_replaceTopics recorded)
      | resetSession api =>
        cases forgotten : (crowd.memory.seenBy u).session.reset api with
        | error e =>
          simp only [Step.apply, forgotten, Step.attempt]
          exact .inl trivial
        | ok session =>
          simp only [Step.apply, forgotten, Step.attempt]
          exact .inr (.inl (Session.consumer_reset forgotten))
      | deactivate => exact .inl rfl
      | _ => cases writes
    · have same := s.apply_leaves writes u (crowd.memory.seenBy u)
      exact .inl (congrArg Session.consumer same)

/-- A session without a consumer gets one only from a turn that records it. -/
theorem consumer_stays_none (takes : crowd.Takes (aroundChannel settings) turn later)
    (empty : crowd.memory.state.session.consumer = none) :
    later.memory.state.session.consumer = none ∨ turn.Records := by
  rcases consumer_of_turn takes with kept | none | records
  · exact .inl (kept.trans empty)
  · exact .inl none
  · exact .inr records

/-- A session that was reset has no consumer. -/
theorem consumer_of_reset {m : State} {api : Option String}
    (granted : (Step.apply t (.resetSession api) m).1 = .ok ()) :
    (Step.apply t (.resetSession api) m).2.session.consumer = none := by
  cases forgotten : m.session.reset api with
  | error e =>
    simp only [Step.apply, forgotten, Step.attempt] at granted
    cases granted
  | ok session =>
    simp only [Step.apply, forgotten, Step.attempt]
    exact Session.consumer_reset forgotten

/-- No turn changes a frozen session. -/
theorem session_of_turn_frozen (takes : crowd.Takes (aroundChannel settings) turn later)
    (frozen : crowd.memory.state.session.active = false) :
    later.memory.state.session = crowd.memory.state.session := by
  obtain ⟨-, answers⟩ := takes
  obtain ⟨u, q, answer⟩ := turn
  cases q with
  | outside call =>
    have same : later.memory = crowd.memory := answers
    rw [same]
  | step s =>
    obtain ⟨-, (left : crowd.memory.leftBy u (s.apply u (crowd.memory.seenBy u)).2 = later.memory)⟩ := answers
    rw [← left]
    show (s.apply u (crowd.memory.seenBy u)).2.session = (crowd.memory.seenBy u).session
    have frozen : (crowd.memory.seenBy u).session.active = false := frozen
    by_cases writes : s.part = some .session
    · cases s with
      | setConsumer id api => simp [Step.apply, Session.setConsumer, Session.change_frozen frozen, Step.attempt]
      | replaceTopics topics api =>
        simp [Step.apply, Session.replaceTopics, Session.change_frozen frozen, Step.attempt]
      | resetSession api => simp [Step.apply, Session.reset, Session.change_frozen frozen, Step.attempt]
      | deactivate => simp [Step.apply, Session.deactivate, ← frozen]
      | _ => cases writes
    · exact s.apply_leaves writes u (crowd.memory.seenBy u)

theorem Cleared.onward (cleared : Cleared t turns crowd.memory)
    (takes : crowd.Takes (aroundChannel settings) turn later) (refrains : turn.thread = t → ¬ turn.Records) :
    Cleared t (turns ++ [turn]) later.memory where
  gaveUp := List.mem_append_left _ cleared.gaveUp
  empty := by
    have recorded (records : turn.Records) : ∃ past other rest, turns ++ [turn] = past ++ other :: rest ∧
        other.thread ≠ t ∧ other.Records ∧ (⟨t, .step .release, .ok ()⟩ : Turn) ∈ past :=
      ⟨turns, turn, [], rfl, fun same => refrains same records, records, cleared.gaveUp⟩
    rcases cleared.empty with empty | ⟨past, other, rest, rfl, different, records, gaveUp⟩
    · exact (consumer_stays_none takes empty).imp_right recorded
    · exact .inr ⟨past, other, rest ++ [turn], by simp, different, records, gaveUp⟩

/-! ## Clearing, turn by turn -/

/-- How far a thread has come with clearing the session after some turns. -/
def progress (t : Thread) (turns : List Turn) : Sweep := sweeping.account .dirty (own t turns)

theorem progress_mine (q : Query) (answer : q.Answer) :
    progress t (turns ++ [⟨t, q, answer⟩]) = sweeping.after (progress t turns) q answer := by
  simp [progress, own_mine, Discipline.account]

theorem progress_other (other : turn.thread ≠ t) : progress t (turns ++ [turn]) = progress t turns := by
  simp [progress, own_other other]

/-- How the session stands while a thread clears it. -/
structure Clearing (t : Thread) (claims : Nat) (turns : List Turn) (m : Shared) : Prop where
  swept : progress t turns = .swept → 0 < claims → m.state.session.consumer = none
  freed : progress t turns = .freed → Cleared t turns m
  frozen : (⟨t, .step .deactivate, ()⟩ : Turn) ∈ turns → m.state.session.active = false ∧ Cleared t turns m

variable {claims : Nat}

/-- A session that the thread has frozen stays as it is. -/
theorem Clearing.still_frozen (clears : Clearing t claims turns crowd.memory)
    (takes : crowd.Takes (aroundChannel settings) turn later) (refrains : turn.thread = t → ¬ turn.Records)
    (frozen : (⟨t, .step .deactivate, ()⟩ : Turn) ∈ turns) :
    later.memory.state.session.active = false ∧ Cleared t (turns ++ [turn]) later.memory := by
  obtain ⟨inactive, cleared⟩ := clears.frozen frozen
  refine ⟨?_, cleared.onward takes refrains⟩
  rw [session_of_turn_frozen takes inactive]
  exact inactive

theorem Clearing.frozen_before (clears : Clearing t claims turns crowd.memory)
    (takes : crowd.Takes (aroundChannel settings) turn later) (refrains : turn.thread = t → ¬ turn.Records)
    (other : turn ≠ ⟨t, .step .deactivate, ()⟩)
    (frozen : (⟨t, .step .deactivate, ()⟩ : Turn) ∈ turns ++ [turn]) :
    later.memory.state.session.active = false ∧ Cleared t (turns ++ [turn]) later.memory := by
  rcases List.mem_append.mp frozen with before | now
  · exact clears.still_frozen takes refrains before
  · exact absurd (List.mem_singleton.mp now).symm other

/-- A turn that has to do neither with the guard nor with consumers. -/
theorem Clearing.quiet (clears : Clearing t claims turns crowd.memory)
    (takes : crowd.Takes (aroundChannel settings) turn later) (refrains : ¬ turn.Records)
    (same : progress t (turns ++ [turn]) = progress t turns)
    (other : turn ≠ ⟨t, .step .deactivate, ()⟩) : Clearing t claims (turns ++ [turn]) later.memory where
  swept swept claimed := by
    exact (consumer_stays_none takes (clears.swept (same.symm.trans swept) claimed)).resolve_right refrains
  freed freed := (clears.freed (same.symm.trans freed)).onward takes fun _ => refrains
  frozen := clears.frozen_before takes (fun _ => refrains) other

/-- A turn after which the guard is not held over an empty session, as far as the thread knows. -/
theorem Clearing.unswept {left : Nat} (clears : Clearing t claims turns crowd.memory)
    (takes : crowd.Takes (aroundChannel settings) turn later) (refrains : ¬ turn.Records)
    (unswept : progress t (turns ++ [turn]) ≠ .swept)
    (freed : progress t (turns ++ [turn]) = .freed → Cleared t (turns ++ [turn]) later.memory)
    (other : turn ≠ ⟨t, .step .deactivate, ()⟩) : Clearing t left (turns ++ [turn]) later.memory where
  swept swept := absurd swept unswept
  freed := freed
  frozen := clears.frozen_before takes (fun _ => refrains) other

/-- A turn that leaves no consumer. -/
theorem Clearing.emptied (clears : Clearing t claims turns crowd.memory)
    (takes : crowd.Takes (aroundChannel settings) turn later) (refrains : ¬ turn.Records)
    (empty : later.memory.state.session.consumer = none)
    (same : progress t (turns ++ [turn]) = .freed → progress t turns = .freed)
    (other : turn ≠ ⟨t, .step .deactivate, ()⟩) : Clearing t claims (turns ++ [turn]) later.memory where
  swept _ _ := empty
  freed freed := (clears.freed (same freed)).onward takes fun _ => refrains
  frozen := clears.frozen_before takes (fun _ => refrains) other

/-- A turn of another thread records a consumer only if the thread that clears has no claim. -/
theorem Clearing.others_turn (clears : Clearing t claims turns crowd.memory)
    (takes : crowd.Takes (aroundChannel settings) turn later) (other : turn.thread ≠ t)
    (excluded : turn.Records → claims = 0) : Clearing t claims (turns ++ [turn]) later.memory where
  swept swept claimed := by
    have empty := clears.swept ((progress_other other).symm.trans swept) claimed
    exact (consumer_stays_none takes empty).resolve_right fun records =>
      absurd (excluded records) (Nat.ne_of_gt claimed)
  freed freed :=
    (clears.freed ((progress_other other).symm.trans freed)).onward takes fun same => absurd same other
  frozen frozen := by
    rcases List.mem_append.mp frozen with before | now
    · exact clears.still_frozen takes (fun same => absurd same other) before
    · exact absurd (congrArg Turn.thread (List.mem_singleton.mp now)).symm other

/-- The thread gives up a claim; it has then given up the guard over an empty session, if it had emptied it. -/
theorem Clearing.released {left : Nat} (clears : Clearing t claims turns crowd.memory) (claimed : 0 < claims)
    (takes : crowd.Takes (aroundChannel settings) ⟨t, .step .release, .ok ()⟩ later) :
    Clearing t left (turns ++ [⟨t, .step .release, .ok ()⟩]) later.memory := by
  have moved : progress t (turns ++ [⟨t, .step .release, .ok ()⟩]) = (progress t turns).releasing :=
    progress_mine ..
  have refrains : ¬ Turn.Records ⟨t, .step .release, .ok ()⟩ := nofun
  have unswept : (progress t turns).releasing ≠ .swept := by
    cases progress t turns <;> nofun
  refine clears.unswept takes refrains (moved ▸ unswept) (fun _ => ?_) nofun
  cases reached : progress t turns with
  | swept =>
    have empty := (consumer_stays_none takes (clears.swept reached claimed)).resolve_right refrains
    exact ⟨by simp, .inl empty⟩
  | freed => exact (clears.freed reached).onward takes fun _ => refrains
  | dirty =>
    rw [reached] at moved
    rename_i freed
    exact nomatch moved.symm.trans freed

/-- A turn of the thread that clears. -/
theorem Clearing.own_turn {h : Holdings} {s : Step} {answer : s.Reply}
    (clears : Clearing t h.claims turns crowd.memory) (proper : crowd.memory.state.session.Proper)
    (takes : crowd.Takes (aroundChannel settings) ⟨t, .step s, answer⟩ later)
    (sweeps : sweeping.permits (progress t turns) (.step s)) (permitted : h.permits (.step s))
    (allowed : h.allows (.step s) answer) :
    Clearing t (h.after (.step s) answer).claims (turns ++ [⟨t, .step s, answer⟩]) later.memory := by
  have moved : progress t (turns ++ [⟨t, .step s, answer⟩]) =
      sweeping.after (progress t turns) (.step s) answer := progress_mine ..
  have refrains : ¬ Turn.Records ⟨t, .step s, answer⟩ := by
    rintro ⟨id, api, ⟨⟩⟩
    exact sweeps.elim
  obtain ⟨(answered : (s.apply t (crowd.memory.seenBy t)).1 = answer),
    (left : crowd.memory.leftBy t (s.apply t (crowd.memory.seenBy t)).2 = later.memory)⟩ := takes.answers
  cases s with
  | acquire api =>
    have dirty : progress t (turns ++ [⟨t, .step (.acquire api), answer⟩]) = .dirty := moved
    refine clears.unswept takes refrains ?_ ?_ nofun
    · rw [dirty]
      nofun
    · rw [dirty]
      nofun
  | release =>
    have given : answer = .ok () := allowed
    subst given
    exact clears.released permitted takes
  | session =>
    have seen : crowd.memory.state.session = answer := answered
    subst seen
    have kept : later.memory.state.session = crowd.memory.state.session := by
      rw [← left]
      rfl
    cases held : heldConsumer? crowd.memory.state.session with
    | some id =>
      refine clears.quiet takes refrains (moved.trans ?_) nofun
      show (progress t turns).seeing (heldConsumer? crowd.memory.state.session) = progress t turns
      rw [held, Sweep.seeing_some]
    | none =>
      have empty := consumer_of_unheld proper held
      refine clears.emptied takes refrains (by rw [kept, empty]) (fun freed => ?_) nofun
      exact Sweep.seeing_eq_freed (moved.symm.trans freed)
  | resetSession api =>
    cases answer with
    | error e => exact clears.quiet takes refrains moved nofun
    | ok _ =>
      have empty : later.memory.state.session.consumer = none := by
        rw [← left]
        exact consumer_of_reset answered
      refine clears.emptied takes refrains empty (fun freed => ?_) nofun
      exact Sweep.resetting_eq_freed (moved.symm.trans freed)
  | deactivate =>
    have reached : progress t turns = .freed := sweeps
    have cleared := (clears.freed reached).onward takes fun _ => refrains
    have still : progress t (turns ++ [⟨t, .step .deactivate, answer⟩]) = .freed := moved.trans reached
    refine ⟨fun swept => ?_, fun _ => cleared, fun _ => ⟨?_, cleared⟩⟩
    · rw [still] at swept
      cases swept
    · rw [← left]
      rfl
  | _ =>
    have same := h.after_claims (by nofun) answer
    rw [same]
    exact clears.quiet takes refrains moved nofun

/-- A thread that takes only turns with which it clears the session, clears it, whoever takes turns in
between. -/
private theorem clearing_of_runs {middle : Crowd Shared} {before : List Turn} (gathers : Gathers settings start)
    (runs : Crowd.Runs (aroundChannel settings) start before middle)
    (goes : Crowd.Runs (aroundChannel settings) middle turns crowd)
    (sweeps : ∀ past q answer rest, turns = past ++ ⟨t, q, answer⟩ :: rest →
      sweeping.permits (progress t past) q) :
    Clearing t (holdings start (before ++ turns) t).claims turns crowd.memory := by
  induction goes with
  | start => exact ⟨nofun, nofun, nofun⟩
  | aside goes digresses ih =>
    rw [digresses.memory]
    exact ih sweeps
  | @turn turns crowd turn later goes takes ih =>
    have clears := ih fun past q answer rest same => sweeps past q answer (rest ++ [turn]) (by simp [same])
    have tallies := gathers.tallies (runs.trans goes)
    have permitted := gathers.permitted (runs.trans goes) takes
    have counted : holdings start (before ++ (turns ++ [turn])) =
        assign (holdings start (before ++ turns)) turn.thread
          ((holdings start (before ++ turns) turn.thread).after turn.query turn.answer) := by
      rw [← List.append_assoc]
      exact accounts_snoc turn.query turn.answer
    rw [counted]
    by_cases mine : turn.thread = t
    · obtain ⟨u, q, answer⟩ := turn
      cases mine
      rw [assign_self]
      cases q with
      | outside call =>
        exact clears.quiet takes (fun ⟨_, _, same⟩ => nomatch same) (progress_mine ..) nofun
      | step s =>
        have allowed := tallies.allowed permitted
        rw [takes.answers.1] at allowed
        exact clears.own_turn tallies.session takes (sweeps turns _ answer [] rfl) permitted allowed
    · rw [assign_other _ _ (Ne.symm mine)]
      refine clears.others_turn takes mine fun ⟨id, api, same⟩ => ?_
      rw [same] at permitted
      exact tallies.guard.others permitted.1 (Ne.symm mine)

/-- A destroyed session holds nothing, unless another thread recorded a consumer after the destroying thread had
given the guard up. -/
theorem destroyed_session_is_empty_unless_recorded {middle : Crowd Shared} {before : List Turn} {rounds : Nat}
    {r : Except Failure Unit} (gathers : Gathers settings start)
    (runs : Crowd.Runs (aroundChannel settings) start before middle)
    (goes : Crowd.Runs (aroundChannel settings) middle turns crowd)
    (carries : CarriesOut t (destroy settings rounds).run r turns)
    (freezes : (⟨t, .step .deactivate, ()⟩ : Turn) ∈ turns) :
    crowd.memory.state.session.active = false ∧
      (crowd.memory.state.session.consumer = none ∧ crowd.memory.state.session.topics = [] ∨
        ∃ past turn rest, turns = past ++ turn :: rest ∧ turn.thread ≠ t ∧ turn.Records ∧
          (⟨t, .step .release, .ok ()⟩ : Turn) ∈ past) := by
  have clears := clearing_of_runs gathers runs goes fun past q answer rest same => by
    have leaves := carries.leaves
    rw [same, own_append, own_first] at leaves
    exact Obeys.permitted (fun _ _ _ => trivial) (sweeping_destroy rounds .dirty) leaves
  obtain ⟨inactive, cleared⟩ := clears.frozen freezes
  refine ⟨inactive, cleared.empty.imp_left fun none => ⟨none, ?_⟩⟩
  exact (gathers.tallies (runs.trans goes)).session.founded none

end

/-! ## A consumer that nobody deletes -/

/-- The moves of two threads: one destroys the channel, and one creates a consumer. -/
def intrusionMoves (t : Thread) : List Move :=
  if t = 1 then [.destroy 0] else if t = 2 then [.create] else []

/-- Threads that destroy a new channel and create a consumer. -/
def intrusion : Crowd Shared where
  memory := ⟨State.initial, fun _ => .empty⟩
  programs t := client committing (intrusionMoves t)

/-- A thread freezes the session. -/
def Turn.freezes (t : Thread) : Turn → Bool
  | ⟨u, .step .deactivate, ()⟩ => u == t
  | _ => false

theorem Turn.eq_of_freezes {t : Thread} {turn : Turn} (freezes : turn.freezes t = true) :
    turn = ⟨t, .step .deactivate, ()⟩ := by
  unfold Turn.freezes at freezes
  split at freezes
  · cases beq_iff_eq.mp freezes
    rfl
  · cases freezes

namespace Intrusion

/-- The first thread destroys the channel up to the moment at which it is about to freeze the session. -/
def clearing : Stretch (Except Failure Unit) := solo obliging 1 13 (destroy committing 0).run intrusion.memory

/-- The second thread creates a consumer. -/
def creation : Stretch (Except Failure Unit) := solo obliging 2 16 (create committing).run clearing.memory

/-- The first thread comes to its end. -/
def freezing : Stretch (Except Failure Unit) := solo obliging 1 3 clearing.left creation.memory

/-- All turns in their order. -/
def turns : List Turn := clearing.turns ++ creation.turns ++ freezing.turns

theorem gathers : Gathers committing intrusion where
  fresh := ⟨.empty, 0, rfl⟩
  clients t := ⟨intrusionMoves t, rfl⟩

/-- The whole run. -/
theorem runs : ∃ aftermath, Crowd.Runs (aroundChannel committing) intrusion turns aftermath ∧
    aftermath.memory = freezing.memory := by
  have destroys : intrusion.programs 1 = (destroy committing 0).run >>= fun _ => client committing [] := rfl
  have creates : intrusion.programs 2 = (create committing).run >>= fun _ => client committing [] := rfl
  exact runs_interrupted (by decide) rfl rfl rfl destroys creates

theorem carries : CarriesOut 1 (destroy committing 0).run (.ok ()) turns := by
  have ended : freezing.succeeds = true := by decide +kernel
  have begun : clearing.turns.isEmpty = false := by decide +kernel
  have resumed : freezing.turns.isEmpty = false := by decide +kernel
  exact carriesOut_interrupted (by decide) rfl rfl rfl (Stretch.left_of_succeeds ended) (by simpa using begun)
    (by simpa using resumed)

theorem creates : CarriesOut 2 (create committing).run (.ok ()) creation.turns := by
  have ended : creation.succeeds = true := by decide +kernel
  have begun : creation.turns.isEmpty = false := by decide +kernel
  exact carriesOut_solo rfl (Stretch.left_of_succeeds ended) (by simpa using begun)

theorem freezes : (⟨1, .step .deactivate, ()⟩ : Turn) ∈ turns := by
  have asked : turns.any (Turn.freezes 1) = true := by decide +kernel
  obtain ⟨turn, taken, found⟩ := List.any_eq_true.mp asked
  exact Turn.eq_of_freezes found ▸ taken

theorem session_left : freezing.memory.state.session = ⟨some "c", [], false⟩ :=
  Session.eq_of_topicless (by decide +kernel) (by decide +kernel) (by decide +kernel)

end Intrusion

/-- The session of the destroyed channel holds the consumer that was recorded in between. -/
theorem intruded_session_was_recorded :
    ∃ aftermath, Gathers committing intrusion ∧ Crowd.Runs (aroundChannel committing) intrusion [] intrusion ∧
      Crowd.Runs (aroundChannel committing) intrusion Intrusion.turns aftermath ∧
      CarriesOut 1 (destroy committing 0).run (.ok ()) Intrusion.turns ∧
      (⟨1, .step .deactivate, ()⟩ : Turn) ∈ Intrusion.turns ∧
      aftermath.memory.state.session.active = false ∧
      (aftermath.memory.state.session.consumer = none ∧ aftermath.memory.state.session.topics = [] ∨
        ∃ past turn rest, Intrusion.turns = past ++ turn :: rest ∧ turn.thread ≠ 1 ∧ turn.Records ∧
          (⟨1, .step .release, .ok ()⟩ : Turn) ∈ past) := by
  obtain ⟨aftermath, runs, -⟩ := Intrusion.runs
  exact ⟨aftermath, Intrusion.gathers, .start, runs, Intrusion.carries, Intrusion.freezes,
    destroyed_session_is_empty_unless_recorded Intrusion.gathers .start runs Intrusion.carries
      Intrusion.freezes⟩

/-- A consumer that another thread creates between two steps of whoever destroys the channel may be left in the
destroyed session. -/
theorem destroyed_session_may_hold_consumer :
    ¬ ∀ (settings : Settings) (start crowd : Crowd Shared) (before between after : List Turn) (t u : Thread)
      (rounds : Nat), Gathers settings start → start.memory.state.session.active = true → u ≠ t →
      Crowd.Runs (aroundChannel settings) start (before ++ between ++ after) crowd →
      CarriesOut t (destroy settings rounds).run (.ok ()) (before ++ between ++ after) →
      CarriesOut u (create settings).run (.ok ()) between →
      (before.getLast?.any fun turn => turn.query matches .outside (.closeTransport _)) = true →
      (after.head?.any fun turn => turn.query matches .step .deactivate) = true →
      crowd.memory.state.session.consumer = none ∧ crowd.memory.state.session.topics = [] := by
  intro always
  obtain ⟨aftermath, runs, same⟩ := Intrusion.runs
  have empty := (always committing intrusion aftermath _ _ _ 1 2 0 Intrusion.gathers rfl (by decide) runs
    Intrusion.carries Intrusion.creates (by decide +kernel) (by decide +kernel)).1
  rw [same, Intrusion.session_left] at empty
  cases empty

end ConsumerChannel.Channel
