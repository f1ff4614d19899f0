import ConsumerChannel.Proofs.Recovery

/-! How a run ends that fails. A permanent or transient failure of one of its operations, and any failure
to build a lost session anew, is the failure of the run; whatever cleaning up comes to, the channel is left
without consumer and topics, and the next run starts afresh. -/
namespace ConsumerChannel.Channel
open Operation

/-! ## The law -/

section
variable (surroundings : Surroundings) (caller : Thread) (settings : Settings)
  (nested : List Move → Chronicle → Chronicle) (callback : CallbackId) (topics : List Value)

/-- A loop comes to a round, with some rounds left. -/
inductive ComesTo (first : Chronicle) (rounds : Nat) : Nat → LoopState → Chronicle → Prop where
  | start : ComesTo first rounds rounds ⟨false, true⟩ first
  | next (before : ComesTo first rounds (left + 1) state d) (going : state.goOn = true)
      (free : d.memory.flags.stopRequested = false)
      (round : exec (surroundings.host nested caller) (cycle settings callback topics state.subscribed) d =
        (.ok after, k)) : ComesTo first rounds left after k

/-- A loop starts another round. -/
structure Rounds (first : Chronicle) (rounds : Nat) (left : Nat) (subscribed : Bool) (d : Chronicle) :
    Prop where
  comes : ComesTo surroundings caller settings nested callback topics first rounds (left + 1)
    ⟨subscribed, true⟩ d
  free : d.memory.flags.stopRequested = false

/-- One of the operations of a loop fails: subscribing, which may create a consumer, pulling or
committing. -/
inductive Fails (first : Chronicle) (rounds : Nat) (e : Failure) (k : Chronicle) : Prop where
  | subscribing (round : Rounds surroundings caller settings nested callback topics first rounds left false d)
      (failed : exec (surroundings.host nested caller) (subscribe settings (.many topics none)) d =
        (.error e, k))
  | pullingFirst (round : Rounds surroundings caller settings nested callback topics first rounds left false d)
      (subscribed : exec (surroundings.host nested caller) (subscribe settings (.many topics none)) d =
        (.ok (), l))
      (free : l.memory.flags.stopRequested = false)
      (failed : exec (surroundings.host nested caller) (consume settings settings.consumeTimeout) l =
        (.error e, k))
  | pulling (round : Rounds surroundings caller settings nested callback topics first rounds left true d)
      (failed : exec (surroundings.host nested caller) (consume settings settings.consumeTimeout) d =
        (.error e, k))
  | committing
      (round : Rounds surroundings caller settings nested callback topics first rounds left subscribed d)
      (fetched : exec (surroundings.host nested caller) (fetch settings callback topics subscribed) d =
        (.ok (some goOn), l))
      (failed : exec (surroundings.host nested caller) (commit settings) l = (.error e, k))

end

section
variable {surroundings : Surroundings} {caller : Thread} {settings : Settings}
  {nested : List Move → Chronicle → Chronicle} {callback : CallbackId} {topics : List Value}
  {first d k l : Chronicle} {rounds left : Nat} {state : LoopState} {subscribed : Bool} {e f : Failure}

/-! ## Failures of the loop -/

theorem exec_cycle_of_fetch_error
    (failed : exec (surroundings.host nested caller) (fetch settings callback topics subscribed) d =
      (.error e, k)) :
    exec (surroundings.host nested caller) (cycle settings callback topics subscribed) d =
      exec (surroundings.host nested caller) (recover settings true e) k := by
  unfold cycle
  rw [exec_bind, exec_outcome, failed]

theorem exec_cycle_of_commit_error {goOn : Bool}
    (fetched : exec (surroundings.host nested caller) (fetch settings callback topics subscribed) d =
      (.ok (some goOn), l))
    (failed : exec (surroundings.host nested caller) (commit settings) l = (.error e, k)) :
    exec (surroundings.host nested caller) (cycle settings callback topics subscribed) d =
      exec (surroundings.host nested caller) (recover settings goOn e) k := by
  unfold cycle
  rw [exec_bind, exec_outcome, fetched]
  show exec _ (rescue _ _) l = _
  rw [exec_rescue, exec_bind_error failed]

theorem exec_loop_succ (going : state.goOn = true) (free : d.memory.flags.stopRequested = false) :
    exec (surroundings.host nested caller) (loop settings callback topics (rounds + 1) state) d =
      exec (surroundings.host nested caller) (cycle settings callback topics state.subscribed >>=
        loop settings callback topics rounds) d := by
  have more : exec (surroundings.host nested caller) (goesOn state) d = (.ok true, d) := by
    rw [exec_goesOn, going, free]
    rfl
  unfold loop
  exact exec_bind_ok more

/-- The rest of a loop from a round that it comes to is the rest of the whole loop. -/
theorem ComesTo.loop
    (comes : ComesTo surroundings caller settings nested callback topics first rounds left state d) :
    exec (surroundings.host nested caller) (loop settings callback topics rounds ⟨false, true⟩) first =
      exec (surroundings.host nested caller) (loop settings callback topics left state) d := by
  induction comes with
  | start => rfl
  | next before going free round ih => rw [ih, exec_loop_succ going free, exec_bind_ok round]

/-- After a failure of an operation, the round is what the loop makes of the failure. -/
theorem Fails.recovers
    (fails : Fails surroundings caller settings nested callback topics first rounds e k) :
    ∃ left subscribed d goOn, Rounds surroundings caller settings nested callback topics first rounds left
        subscribed d ∧
      exec (surroundings.host nested caller) (cycle settings callback topics subscribed) d =
        exec (surroundings.host nested caller) (recover settings goOn e) k := by
  cases fails with
  | subscribing round failed =>
    refine ⟨_, _, _, _, round, exec_cycle_of_fetch_error ?_⟩
    unfold fetch
    simp only [Bool.false_eq_true, ↓reduceIte]
    exact exec_bind_error failed
  | @pullingFirst left d l round subscribed free failed =>
    refine ⟨_, _, _, _, round, exec_cycle_of_fetch_error ?_⟩
    have asked : exec (surroundings.host nested caller) flags l = (.ok l.memory.flags, l) := rfl
    unfold fetch
    simp only [Bool.false_eq_true, ↓reduceIte]
    rw [exec_bind_ok subscribed, exec_bind_ok asked, exec_bind_ok (exec_pure _), free]
    exact exec_bind_error failed
  | pulling round failed =>
    refine ⟨_, _, _, _, round, exec_cycle_of_fetch_error ?_⟩
    unfold fetch
    simp only [↓reduceIte]
    rw [exec_bind_ok (exec_pure _)]
    exact exec_bind_error failed
  | committing round fetched failed => exact ⟨_, _, _, _, round, exec_cycle_of_commit_error fetched failed⟩

/-- What the loop cannot make good is its own failure. -/
theorem Fails.loop (fails : Fails surroundings caller settings nested callback topics first rounds e k)
    (recovered : ∀ goOn, exec (surroundings.host nested caller) (recover settings goOn e) k = (.error f, l)) :
    exec (surroundings.host nested caller) (loop settings callback topics rounds ⟨false, true⟩) first =
      (.error f, l) := by
  obtain ⟨left, subscribed, d, goOn, round, cycled⟩ := fails.recovers
  rw [round.comes.loop, exec_loop_succ rfl round.free]
  exact exec_bind_error (cycled.trans (recovered goOn))

end

/-! ## What holds at a failure -/

section
variable {surroundings : Surroundings} {caller : Thread} {settings : Settings} {callback : CallbackId}
  {topics : List Value} {first d k l : Chronicle} {rounds left depth : Nat} {state : LoopState}
  {subscribed : Bool} {e f : Failure}

/-- A thread that is let in, a session that says what the service has been told, and an active channel. -/
structure Standby (settings : Settings) (caller : Thread) (c : Chronicle) : Prop where
  entrusted : Entrusted settings caller c
  active : c.memory.session.active = true

theorem entrusted_within (surroundings : Surroundings) (settings : Settings) (caller : Thread) (depth : Nat)
    (moves : List Move) (c : Chronicle) (entrusted : Entrusted settings caller c) :
    Entrusted settings caller (perform surroundings settings caller depth moves c) :=
  perform_keeps (entrusted_upheld surroundings settings caller) depth moves c entrusted

theorem ComesTo.standby
    (comes : ComesTo surroundings caller settings (perform surroundings settings caller depth) callback topics
      first rounds left state d)
    (quiet : surroundings.LogsQuietly) (ends : surroundings.OnlyEnds)
    (standby : Standby settings caller first) :
    Entrusted settings caller d ∧ (state.goOn = true → d.memory.session.active = true) := by
  induction comes with
  | start => exact ⟨standby.entrusted, fun _ => standby.active⟩
  | @next left state d k after before going free round ih =>
    obtain ⟨entrusted, active⟩ := ih
    have kept := (entrusted_upheld surroundings settings caller _).cycle
      (entrusted_within surroundings settings caller depth) callback topics state.subscribed d entrusted
    have cycles : Cycles surroundings caller settings (perform surroundings settings caller depth) callback
        topics d state.subscribed (.ok after) k :=
      (leads_iff _).mp (leads_cycle quiet (leavesGuard_of_onlyEnds ends depth) entrusted.opened (active going))
        _ _ round
    exact ⟨(leads_iff _).mp kept _ _ round, cycles.active⟩

theorem Rounds.standby
    (round : Rounds surroundings caller settings (perform surroundings settings caller depth) callback topics
      first rounds left subscribed d)
    (quiet : surroundings.LogsQuietly) (ends : surroundings.OnlyEnds)
    (standby : Standby settings caller first) :
    Standby settings caller d := by
  obtain ⟨entrusted, active⟩ := round.comes.standby quiet ends standby
  exact ⟨entrusted, active rfl⟩

theorem Standby.subscribe {r : Except Failure Unit} {wanted : Topics}
    {nested : List Move → Chronicle → Chronicle}
    (standby : Standby settings caller d)
    (ran : exec (surroundings.host nested caller) (subscribe settings wanted) d = (r, l)) :
    Standby settings caller l := by
  have kept := (entrusted_upheld surroundings settings caller nested).subscribe wanted d standby.entrusted
  obtain ⟨left, signals, subscribes, became⟩ := (leads_iff _).mp
    (leads_subscribe standby.entrusted.opened standby.active wanted) _ _ ran
  refine ⟨(leads_iff _).mp kept _ _ ran, ?_⟩
  rw [became.state.session]
  exact subscribes.active standby.active

theorem Standby.consume {r : Except Failure Batch} {timeout : Value}
    {nested : List Move → Chronicle → Chronicle}
    (standby : Standby settings caller d)
    (ran : exec (surroundings.host nested caller) (consume settings timeout) d = (r, l)) :
    Standby settings caller l := by
  have kept := (entrusted_upheld surroundings settings caller nested).consume timeout d standby.entrusted
  obtain ⟨left, signals, consumes, became⟩ := (leads_iff _).mp
    (leads_consume standby.entrusted.opened standby.active timeout) _ _ ran
  refine ⟨(leads_iff _).mp kept _ _ ran, ?_⟩
  rw [became.state.session, consumes.session_eq, standby.active]

theorem Standby.commit {r : Except Failure Unit} {nested : List Move → Chronicle → Chronicle}
    (standby : Standby settings caller d)
    (ran : exec (surroundings.host nested caller) (commit settings) d = (r, l)) :
    Standby settings caller l := by
  have kept := (entrusted_upheld surroundings settings caller nested).commit d standby.entrusted
  obtain ⟨left, signals, commits, became⟩ := (leads_iff _).mp
    (leads_commit standby.entrusted.opened standby.active) _ _ ran
  refine ⟨(leads_iff _).mp kept _ _ ran, ?_⟩
  rw [became.state.session, commits.session_eq, standby.active]

/-- The channel is still active when an operation of the loop has failed. -/
theorem Fails.standby
    (fails : Fails surroundings caller settings (perform surroundings settings caller depth) callback topics
      first rounds e k)
    (quiet : surroundings.LogsQuietly) (ends : surroundings.OnlyEnds)
    (standby : Standby settings caller first) :
    Standby settings caller k := by
  cases fails with
  | subscribing round failed => exact (round.standby quiet ends standby).subscribe failed
  | pullingFirst round subscribed free failed =>
    exact ((round.standby quiet ends standby).subscribe subscribed).consume failed
  | pulling round failed => exact (round.standby quiet ends standby).consume failed
  | @committing left subscribed d l goOn round fetched failed =>
    have before := round.standby quiet ends standby
    have kept := (entrusted_upheld surroundings settings caller _).fetch
      (entrusted_within surroundings settings caller depth) callback topics subscribed d before.entrusted
    have fetches : Fetches surroundings caller settings (perform surroundings settings caller depth) callback
        topics d subscribed (.ok (some goOn)) l :=
      (leads_iff _).mp (leads_fetch before.entrusted.opened before.active) _ _ fetched
    exact Standby.commit ⟨(leads_iff _).mp kept _ _ fetched, fetches.active⟩ failed

/-- Without a consumer there are no topics either. -/
theorem Standby.session_eq (standby : Standby settings caller d)
    (absent : heldConsumer? d.memory.session = none) : d.memory.session = ⟨none, [], true⟩ := by
  have consumer : d.memory.session.consumer = none := by
    cases same : d.memory.session.consumer with
    | none => rfl
    | some id =>
      have filled := (standby.entrusted.faithful.consumer id same).1
      exact nomatch absent.symm.trans (heldConsumer?_eq_some.mpr ⟨same, filled⟩)
  have topics : d.memory.session.topics = [] := by
    by_cases none : d.memory.session.topics = []
    · exact none
    · obtain ⟨id, held, -⟩ := standby.entrusted.faithful.topics none
      exact nomatch consumer.symm.trans held
  have active := standby.active
  cases same : d.memory.session with
  | mk id names on =>
    rw [same] at consumer topics active
    cases consumer
    cases topics
    cases active
    rfl

/-! ## Cleaning up -/

/-- A deletion after a failure: one request if a consumer is held, none otherwise. -/
theorem Cleans.cleanup {r : Except Failure Unit} (cleans : Cleans surroundings caller settings k r l)
    (dependable : surroundings.Dependable) (standby : Standby settings caller k) :
    l.memory.session = ⟨none, [], true⟩ ∧
      ((heldConsumer? k.memory.session = none ∧ l.signals = k.signals ∧ r = .ok ()) ∨
        ∃ consumer within answer, heldConsumer? k.memory.session = some consumer ∧
          l.signals = k.signals ++ [⟨within, .sent k.memory.transport (.deletion settings consumer) answer⟩] ∧
          ((∀ f, answer = .error f → f.class? ≠ none) → r = .ok ())) := by
  cases cleans with
  | destroyed passed inactive => exact nomatch standby.active.symm.trans inactive
  | deleted passed active deletes deleted last =>
    rw [last.state.session, deleted.state.session, last.signals, deleted.signals, passed.signals]
    cases held : heldConsumer? k.memory.session with
    | none =>
      cases deletes with
      | unheld absent =>
        refine ⟨?_, .inl ⟨rfl, by simp, rfl⟩⟩
        rw [passed.state.session]
        exact standby.session_eq held
      | sent holds amid settled =>
        rw [passed.state.session, held] at holds
        cases holds
    | some consumer =>
      obtain ⟨rfl, within, answer, rfl, rfl⟩ := deletes.sends dependable (by rw [passed.state.session, held])
      refine ⟨rfl, .inr ⟨consumer, within, answer, rfl, by simp [passed.state.transport], ?_⟩⟩
      intro kind
      cases answer with
      | ok text => rfl
      | error f =>
        by_cases lost : f.class? = some .sessionLost
        · simp [deletionResult, lost, cleanupResult]
        · cases known : f.class? with
          | none => exact absurd known (kind f rfl)
          | some other =>
            rw [known] at lost
            simp [deletionResult, cleanupResult, class?_tag, known, lost]

/-- A session that cannot be built anew leaves no consumer. -/
theorem Recreates.abandons (recreates : Recreates surroundings caller settings k (.error f) l)
    (dependable : surroundings.Dependable) (grouped : settings.group.truthy = true)
    (active : k.memory.session.active = true) : l.memory.session = ⟨none, [], true⟩ := by
  generalize same : (Except.error f : Except Failure Unit) = r at recreates
  cases recreates with
  | destroyed passed inactive => exact nomatch active.symm.trans inactive
  | undeleted passed _ deletes deleted =>
    rw [deleted.state.session]
    cases deletes with
    | sent held amid settled => rfl
  | unclosed passed _ deletes deleted closed careless => exact absurd dependable careless
  | unopened passed _ deletes deleted closed opened careless => exact absurd dependable careless
  | rebuilt passed _ deletes deleted closed opened creates created =>
    rw [created.state.session]
    cases creates with
    | groupless missing => exact nomatch grouped.symm.trans missing
    | made written amid named granted =>
      rw [granted dependable.logs] at same
      cases same
    | _ => rfl

end

/-! ## Starting afresh -/

section
variable {surroundings : Surroundings} {caller : Thread} {settings : Settings} {callback : CallbackId}
  {c d later : Chronicle} {m : State} {left : Session String Value} {signals : List Event} {body : String}
  {names wanted : List Value} {depth rounds : Nat}

/-- Without a consumer, subscribing begins by asking for one. -/
theorem Subscribes.creates {topics : Topics} {r : Except Failure Unit}
    (subscribes : Subscribes surroundings caller settings topics m r left signals)
    (dependable : surroundings.Dependable) (grouped : settings.group.truthy = true)
    (written : creationBody settings = .ok body) (absent : m.session.hasConsumer = false)
    (usable : wantedTopics topics = .ok names) :
    ∃ within answer more, signals = ⟨within, .sent m.transport (.creation settings body) answer⟩ :: more := by
  have created {session : Session String Value} {signals : List Event}
      (equips : Equips surroundings caller settings m session signals) :
      ∃ within answer, signals = [⟨within, .sent m.transport (.creation settings body) answer⟩] := by
    cases equips with
    | held holding => exact nomatch holding.symm.trans absent
    | created lacking creates =>
      obtain ⟨within, answer, rfl, -⟩ := creates.asks dependable grouped written
      exact ⟨within, answer, rfl⟩
  cases subscribes with
  | topicless refused => exact nomatch usable.symm.trans refused
  | uncreated wanted lacking creates =>
    obtain ⟨within, answer, rfl, -⟩ := creates.asks dependable grouped written
    exact ⟨within, answer, [], rfl⟩
  | unwritten wanted equips refused =>
    obtain ⟨within, answer, rfl⟩ := created equips
    exact ⟨within, answer, [], rfl⟩
  | failed wanted texts equips held amid e =>
    obtain ⟨within, answer, rfl⟩ := created equips
    exact ⟨within, answer, _, rfl⟩
  | done wanted texts equips held amid granted =>
    obtain ⟨within, answer, rfl⟩ := created equips
    exact ⟨within, answer, _, rfl⟩

/-- A run with topics on an idle channel without a consumer begins by asking for one. -/
theorem leads_run_afresh (dependable : surroundings.Dependable) (calm : surroundings.Undisturbed)
    (stops : surroundings.OnlyStops) (opened : c.memory.guard.OpenTo caller)
    (session : c.memory.session = ⟨none, [], true⟩) (idle : c.memory.flags = ⟨false, false⟩)
    (grouped : settings.group.truthy = true) (written : creationBody settings = .ok body) {topics : Topics}
    (chosen : chosenTopics ⟨none, [], true⟩ topics = .ok wanted)
    (usable : wantedTopics (.many wanted none) = .ok names) :
    Leads (surroundings.hosting settings caller depth)
      (run settings (rounds + 1) (some callback) topics) c fun _ later => ∃ within answer more,
        later.signals = c.signals ++
          ⟨within, .sent c.memory.transport (.creation settings body) answer⟩ :: more := by
  refine (leads_run dependable.logs (leavesGuard_of_onlyEnds stops.onlyEnds depth) opened _).weaken ?_
  intro r later runs
  cases runs with
  | inactive inactive => simp [session] at inactive
  | refused passed unready =>
    refine absurd ⟨grouped, nofun, ?_, by rw [idle]⟩ unready
    intro e refused
    rw [session, chosen] at refused
    cases refused
  | @looped first entry r last later id others active _ same others_chosen begins stages loops finishes =>
    cases same
    rw [session, chosen] at others_chosen
    cases others_chosen
    have free : first.memory.flags.stopRequested = false := by rw [begins.flags calm, idle]
    have round {d : Chronicle} {r : Except Failure LoopState}
        (cycles : Cycles surroundings caller settings (perform surroundings settings caller depth) callback
          wanted first false r d) : ∃ within answer more, d.signals = c.signals ++
            ⟨within, .sent c.memory.transport (.creation settings body) answer⟩ :: more := by
      obtain ⟨result, k, readies, others, added, -⟩ := cycles.readied stops
      cases readies with
      | subscribing subscribes became =>
        obtain ⟨within, answer, more, rfl⟩ := subscribes.creates dependable grouped written
          (by rw [begins.session, session]; rfl) usable
        refine ⟨within, answer, more ++ others, ?_⟩
        rw [added, became.signals, begins.signals, begins.transport, List.append_assoc]
        rfl
    rw [finishes.signals]
    cases loops with
    | done ended =>
      rcases ended with ended | asked
      · cases ended
      · exact nomatch asked.symm.trans free
    | broken going free cycles => exact round cycles
    | next going free cycles loops =>
      obtain ⟨within, answer, more, begun⟩ := round cycles
      obtain ⟨others, added, -⟩ := loops.carries stops
      exact ⟨within, answer, more ++ others, by rw [added, begun, List.append_assoc]; rfl⟩

end

/-! ## Runs -/

section
variable (surroundings : Surroundings) (settings : Settings) (caller : Thread) (depth : Nat)

/-- A run leaves an active channel without consumer and topics, with the guard as it was and, unless other
threads see to that, nothing running; then the next run with topics begins by asking for a consumer. -/
structure Clears (c later : Chronicle) : Prop where
  session : later.memory.session = ⟨none, [], true⟩
  guard : later.memory.guard = c.memory.guard
  flags : surroundings.Undisturbed → later.memory.flags = ⟨false, false⟩
  afresh : surroundings.Undisturbed → ∀ rounds callback topics wanted names body,
    chosenTopics ⟨none, [], true⟩ topics = .ok wanted → wantedTopics (.many wanted none) = .ok names →
      creationBody settings = .ok body →
        ∃ within answer more, (exec (surroundings.hosting settings caller depth)
          (run settings (rounds + 1) (some callback) topics) later).2.signals = later.signals ++
            ⟨within, .sent later.memory.transport (.creation settings body) answer⟩ :: more

/-- What comes of failures in a run that has ended with a result and a chronicle. -/
structure Collapses (callback : CallbackId) (topics : List Value) (rounds : Nat) (c first : Chronicle)
    (ended : Except Failure Unit × Chronicle) : Prop where
  /-- A permanent or transient failure of an operation is the failure of the run, whatever the service says
  to the deletion of the consumer; it is asked for that once if there is a consumer, and not otherwise. -/
  fatal : ∀ e k, Fails surroundings caller settings (perform surroundings settings caller depth) callback
      topics first rounds e k → e.class? = some .permanent ∨ e.class? = some .transient →
    Clears surroundings settings caller depth c ended.2 ∧
      ((heldConsumer? k.memory.session = none ∧ ended.2.signals = k.signals ∧ ended.1 = .error e) ∨
        ∃ consumer within answer, heldConsumer? k.memory.session = some consumer ∧
          ended.2.signals = k.signals ++
            [⟨within, .sent k.memory.transport (.deletion settings consumer) answer⟩] ∧
          ((∀ f, answer = .error f → f.class? ≠ none) → ended.1 = .error e))
  /-- A failure to build a lost session anew is the failure of the run, and nothing more is asked for. -/
  lost : ∀ e k f l, Fails surroundings caller settings (perform surroundings settings caller depth) callback
      topics first rounds e k → e.class? = some .sessionLost →
    exec (surroundings.hosting settings caller depth) (recreate settings e) k = (.error f, l) →
      Clears surroundings settings caller depth c ended.2 ∧ ended.2.signals = l.signals ∧ ended.1 = .error f

end

section
variable {surroundings : Surroundings} {settings : Settings} {caller : Thread} {depth rounds : Nat}
  {callback : CallbackId} {topics : List Value} {c first k l last later : Chronicle} {e f : Failure}
  {r : Except Failure Unit} {nested : List Move → Chronicle → Chronicle}

theorem exec_recover_lost (lost : e.class? = some .sessionLost)
    (failed : exec (surroundings.host nested caller) (recreate settings e) k = (.error f, l)) (goOn : Bool) :
    exec (surroundings.host nested caller) (recover settings goOn e) k = (.error f, l) := by
  unfold recover
  rw [lost]
  exact exec_bind_error failed

/-- A fatal failure is raised again once the consumer is cleaned up. -/
theorem exec_recover_fatal (fatal : e.class? = some .permanent ∨ e.class? = some .transient)
    (cleaned : exec (surroundings.host nested caller) (deleteAfterFailure settings e) k = (r, l))
    (goOn : Bool) :
    exec (surroundings.host nested caller) (recover settings goOn e) k = (r.bind fun _ => .error e, l) := by
  have raises : exec (surroundings.host nested caller)
      (deleteAfterFailure settings e >>= fun _ => throw e : Operation LoopState) k =
        (r.bind fun _ => .error e, l) := by
    rw [exec_bind, cleaned]
    cases r <;> rfl
  unfold recover
  rcases fatal with permanent | transient
  · rw [permanent]
    exact raises
  · rw [transient]
    exact raises

/-- A fatal failure ends the loop once the consumer is cleaned up. -/
theorem Fails.cleanup (fails : Fails surroundings caller settings nested callback topics first rounds e k)
    (fatal : e.class? = some .permanent ∨ e.class? = some .transient) (dependable : surroundings.Dependable)
    (standby : Standby settings caller k) :
    ∃ f l, exec (surroundings.host nested caller) (Channel.loop settings callback topics rounds ⟨false, true⟩)
        first = (.error f, l) ∧ l.memory.session = ⟨none, [], true⟩ ∧
      ((heldConsumer? k.memory.session = none ∧ l.signals = k.signals ∧ f = e) ∨
        ∃ consumer within answer, heldConsumer? k.memory.session = some consumer ∧
          l.signals = k.signals ++ [⟨within, .sent k.memory.transport (.deletion settings consumer) answer⟩] ∧
          ((∀ g, answer = .error g → g.class? ≠ none) → f = e)) := by
  obtain ⟨r, l, cleaned⟩ : ∃ r l, exec (surroundings.host nested caller) (deleteAfterFailure settings e) k =
    (r, l) := ⟨_, _, rfl⟩
  have cleans : Cleans surroundings caller settings k r l :=
    (leads_iff _).mp (leads_deleteAfterFailure dependable.logs standby.entrusted.opened e) _ _ cleaned
  obtain ⟨session, comes⟩ := cleans.cleanup dependable standby
  have recovered := exec_recover_fatal fatal cleaned
  cases r with
  | ok _ =>
    refine ⟨e, l, fails.loop recovered, session, ?_⟩
    rcases comes with ⟨absent, quiet, -⟩ | ⟨consumer, within, answer, held, deletes, -⟩
    · exact .inl ⟨absent, quiet, rfl⟩
    · exact .inr ⟨consumer, within, answer, held, deletes, fun _ => rfl⟩
  | error f =>
    refine ⟨f, l, fails.loop recovered, session, ?_⟩
    rcases comes with ⟨-, -, well⟩ | ⟨consumer, within, answer, held, deletes, well⟩
    · cases well
    · exact .inr ⟨consumer, within, answer, held, deletes, fun kind => nomatch well kind⟩

theorem Chronicle.Begins.standby (begins : c.Begins surroundings caller first)
    (entrusted : Entrusted settings caller c) (active : c.memory.session.active = true) :
    Standby settings caller first := by
  refine ⟨⟨begins.opened, ?_⟩, by rw [begins.session, active]⟩
  rw [begins.session, begins.signals]
  exact entrusted.faithful

/-- A run that ends with nothing recorded leaves a channel that starts afresh. -/
theorem Chronicle.Finishes.clears (finishes : c.Finishes surroundings last later)
    (dependable : surroundings.Dependable) (stops : surroundings.OnlyStops)
    (opened : c.memory.guard.OpenTo caller) (grouped : settings.group.truthy = true)
    (session : last.memory.session = ⟨none, [], true⟩) :
    Clears surroundings settings caller depth c later := by
  have left : later.memory.session = ⟨none, [], true⟩ := finishes.session.trans session
  refine ⟨left, finishes.guard, finishes.flags, ?_⟩
  intro calm rounds callback topics wanted names body chosen usable written
  exact leads_run_afresh dependable calm stops (by rwa [finishes.guard]) left (finishes.flags calm) grouped
    written chosen usable

end

/-- A run whose callback touches the channel at most to stop it is refused or loops, and what fails in its
loop decides how it ends: the failure of an operation or of building a lost session anew is the very failure
of the run, and leaves nothing behind. -/
theorem run_collapses (surroundings : Surroundings) (settings : Settings) (caller : Thread)
    (depth rounds : Nat) (callback : CallbackId) (topics : Topics) (c : Chronicle)
    (reached : Reachable settings caller c) (dependable : surroundings.Dependable)
    (stops : surroundings.OnlyStops) :
    ∃ r later, exec (surroundings.hosting settings caller depth)
        (run settings rounds (some callback) topics) c = (r, later) ∧
      (later.signals = c.signals ∧
          ¬ (c.memory.session.active = true ∧ Ready settings (some callback) topics c.memory) ∨
        ∃ wanted entry first last, chosenTopics c.memory.session topics = .ok wanted ∧
          c.Begins surroundings caller first ∧
          Stages surroundings caller settings (perform surroundings settings caller depth) rounds (some callback)
            topics callback wanted c entry first r last later ∧
          c.Finishes surroundings last later ∧
          Collapses surroundings settings caller depth callback wanted rounds c first (r, later)) := by
  have entrusted := reached.entrusted
  have leaves : LeavesGuard surroundings (perform surroundings settings caller depth) caller :=
    leavesGuard_of_onlyEnds stops.onlyEnds depth
  obtain ⟨r, later, ended⟩ : ∃ r later, exec (surroundings.hosting settings caller depth)
    (run settings rounds (some callback) topics) c = (r, later) := ⟨_, _, rfl⟩
  have runs : Runs surroundings caller settings (perform surroundings settings caller depth) rounds
      (some callback) topics c r later :=
    (leads_iff _).mp (leads_run dependable.logs leaves entrusted.opened rounds) _ _ ended
  refine ⟨r, later, ended, ?_⟩
  cases runs with
  | inactive inactive =>
    refine .inl ⟨rfl, ?_⟩
    rintro ⟨active, -⟩
    exact nomatch active.symm.trans inactive
  | refused passed unready =>
    refine .inl ⟨passed.signals.trans (List.append_nil _), ?_⟩
    rintro ⟨-, ready⟩
    exact unready ready
  | @looped first entry _ last _ id wanted active grouped same chosen begins stages loops finishes =>
    cases same
    have clears : last.memory.session = ⟨none, [], true⟩ → Clears surroundings settings caller depth c later :=
      finishes.clears dependable stops entrusted.opened grouped
    have standby := begins.standby entrusted active
    refine .inr ⟨wanted, entry, first, last, chosen, begins, stages, finishes, ?_, ?_⟩
    · intro e k fails fatal
      obtain ⟨f, l, looped, session, comes⟩ :=
        fails.cleanup fatal dependable (fails.standby dependable.logs stops.onlyEnds standby)
      cases stages.looped.symm.trans looped
      refine ⟨clears session, ?_⟩
      rw [finishes.signals]
      rcases comes with ⟨absent, quiet, rfl⟩ | ⟨consumer, within, answer, held, deletes, raises⟩
      · exact .inl ⟨absent, quiet, rfl⟩
      · exact .inr ⟨consumer, within, answer, held, deletes, fun kind => congrArg Except.error (raises kind)⟩
    · intro e k f l fails lost failed
      have standby := fails.standby dependable.logs stops.onlyEnds standby
      have recreates : Recreates surroundings caller settings k (.error f) l :=
        (leads_iff _).mp (leads_recreate dependable.logs standby.entrusted.opened e) _ _ failed
      cases stages.looped.symm.trans (fails.loop (exec_recover_lost lost failed))
      exact ⟨clears (recreates.abandons dependable grouped standby.active), finishes.signals, rfl⟩

/-- A service that makes a consumer and subscribes it, and has trouble with the pull and with the deletion. -/
def Surroundings.faltering : Surroundings :=
  .scripted [.ok (some "\x7b\"consumerInstanceId\": \"c\"\x7d"), .ok none, .error (.transient "pull" none),
    .error (.transient "deletion" none)] [] (.ok (.bool true))

/-- Where the loop of a run begins among them. -/
def falteringFirst : Chronicle :=
  let entered := exec (Surroundings.faltering.hosting committing 0 1)
    (do
      acquireActive runName
      enterLoop committing 2 (some 0) (.single "t")) (.start 0)
  (exec (Surroundings.faltering.hosting committing 0 1)
    (do
      changeContext (grouping committing)
      log Level.info "Starting consume loop" [("topics", .list [.text "t"])]) entered.2).2

/-- Its subscription. -/
def falteringSubscription : Except Failure Unit × Chronicle :=
  exec (Surroundings.faltering.hosting committing 0 1) (subscribe committing (.many [.text "t"] none)) falteringFirst

/-- Its pull. -/
def falteringPull : Except Failure Batch × Chronicle :=
  exec (Surroundings.faltering.hosting committing 0 1) (consume committing committing.consumeTimeout)
    falteringSubscription.2

/-- Whether a deletion has met a channel failure. -/
def Event.keepsConsumer (e : Event) : Bool :=
  match e.happening with
  | .sent _ request (.error f) => request.method == .delete && f.class?.isSome
  | _ => false

/-- A run whose pull fails raises that failure, although its consumer cannot be deleted either, and leaves a channel
that starts afresh. -/
theorem run_collapses_pulling :
    Reachable committing 0 (.start 0) ∧ Surroundings.faltering.Dependable ∧ Surroundings.faltering.OnlyStops ∧
      ∃ later before deletion, exec (Surroundings.faltering.hosting committing 0 1)
          (run committing 2 (some 0) (.single "t")) (.start 0) =
            (.error (.transient "pull" (some Api.consume.name)), later) ∧
        later.signals = before ++ [deletion] ∧ deletion.keepsConsumer = true ∧
        Clears .faltering committing 0 1 (.start 0) later := by
  have reached : Reachable committing 0 (.start 0) := ⟨.faltering, 0, [], 0, rfl⟩
  have dependable : Surroundings.faltering.Dependable := Surroundings.scripted_dependable ..
  have stops : Surroundings.faltering.OnlyStops := fun _ => List.forall_mem_nil _
  refine ⟨reached, dependable, stops, ?_⟩
  have free : falteringFirst.memory.flags.stopRequested = false := by decide +kernel
  have subscribed : falteringSubscription = (.ok (), falteringSubscription.2) := by
    rw [← eq_ok_of_isOk (r := falteringSubscription.1) (by decide +kernel)]
  have still : falteringSubscription.2.memory.flags.stopRequested = false := by decide +kernel
  have pulled : falteringPull = (.error (.transient "pull" (some Api.consume.name)), falteringPull.2) := by
    rw [← eq_of_failsForNow "pull" (some Api.consume.name) (r := falteringPull.1) (by decide +kernel)]
  have held : heldConsumer? falteringPull.2.memory.session = some "c" := by decide +kernel
  have kept : (exec (Surroundings.faltering.hosting committing 0 1) (run committing 2 (some 0) (.single "t"))
      (.start 0)).2.signals.getLast?.any Event.keepsConsumer = true := by decide +kernel
  have fails : Fails .faltering 0 committing (perform .faltering committing 0 1) 0 [.text "t"] falteringFirst 2
      (.transient "pull" (some Api.consume.name)) falteringPull.2 := by
    refine .pullingFirst (l := falteringSubscription.2) ⟨.start, free⟩ ?_ still ?_
    · exact subscribed
    · exact pulled
  obtain ⟨r, later, ended, ⟨-, unready⟩ | ⟨wanted, entry, first, last, chosen, -, stages, -, collapses⟩⟩ :=
    run_collapses _ committing 0 1 2 0 (.single "t") (.start 0) reached dependable stops
  · exact absurd ⟨rfl, ⟨rfl, nofun, nofun, rfl⟩⟩ unready
  obtain rfl : [.text "t"] = wanted := Except.ok.inj chosen
  obtain rfl : falteringFirst = first := by
    unfold falteringFirst
    rw [stages.entered]
    exact congrArg Prod.snd stages.started
  obtain ⟨clears, ⟨absent, -⟩ | ⟨consumer, within, answer, -, seen, raises⟩⟩ := collapses.fatal _ _ fails (.inr rfl)
  · exact nomatch absent.symm.trans held
  rw [ended, seen, List.getLast?_concat, Option.any_some] at kept
  have known : ∀ f, answer = .error f → f.class? ≠ none := by
    rintro f rfl none
    simp [Event.keepsConsumer, none] at kept
  exact ⟨later, _, _, ended.trans (congrArg (Prod.mk · later) (raises known)), seen, kept, clears⟩

end ConsumerChannel.Channel
