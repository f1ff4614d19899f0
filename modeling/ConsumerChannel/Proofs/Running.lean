import ConsumerChannel.Proofs.Rounds

/-! Running a channel. A run either leaves without a trace or marks the channel as running, loops under
the guard, and gives everything back that it has taken, whatever the loop came to. -/
namespace ConsumerChannel.Channel
open Operation

/-- The topics of a loop by what is recorded at its start. -/
def chosenTopics (s : Session String Value) : Topics → Except Failure (List Value)
  | .absent => .ok s.topics
  | .single name => .ok (if name = "" then s.topics else [.text name])
  | .many _ (some e) => .error e
  | .many members none => .ok (if members.isEmpty then s.topics else members)

/-- A loop can start: group, callback and topics are there, and none is running. -/
structure Ready (settings : Settings) (callback : Option CallbackId) (topics : Topics) (m : State) :
    Prop where
  grouped : settings.group.truthy = true
  called : callback ≠ none
  chosen : ∀ e, chosenTopics m.session topics ≠ .error e
  idle : m.flags.running = false

/-- A loop starts: the guard is claimed once more and the channel marked as running. -/
structure Chronicle.Begins (surroundings : Surroundings) (caller : Thread) (c later : Chronicle) : Prop where
  guard : later.memory.guard = c.memory.guard.claimed caller
  session : later.memory.session = c.memory.session
  transport : later.memory.transport = c.memory.transport
  signals : later.signals = c.signals
  flags : surroundings.Undisturbed → later.memory.flags = ⟨true, c.memory.flags.stopRequested⟩

/-- A run ends after its loop: guard and log context are as before, and no loop is running. -/
structure Chronicle.Finishes (surroundings : Surroundings) (c last later : Chronicle) : Prop where
  guard : later.memory.guard = c.memory.guard
  context : later.memory.context = c.memory.context
  session : later.memory.session = last.memory.session
  transport : later.memory.transport = last.memory.transport
  signals : later.signals = last.signals
  flags : surroundings.Undisturbed → later.memory.flags = .idle

/-- The flags of the loop were cleared, and then other threads had the time that logging takes. -/
def Chronicle.Cleared (surroundings : Surroundings) (later : Chronicle) : Prop :=
  ∃ events record, later.memory.flags = surroundings.meanwhile events (.log record) .idle

section
variable (surroundings : Surroundings) (caller : Thread) (settings : Settings)
  (nested : List Move → Chronicle → Chronicle)

/-- What marking a channel as running comes to: it is refused only where a loop is running already. -/
inductive Starts (c : Chronicle) : Except Failure Bool → Chronicle → Prop where
  | started (passed : c.Passes surroundings d) :
      Starts c (.ok true) (d.remember { d.memory with flags := ⟨true, d.memory.flags.stopRequested⟩ })
  | busy (running : c.memory.flags.running = true) (passed : c.Passes surroundings later)
      (refused : r ≠ .ok true) : Starts c r later

/-- What the checks before a loop come to. -/
inductive Enters (callback : Option CallbackId) (topics : Topics) (c : Chronicle) :
    Except Failure (Option (CallbackId × List Value)) → Chronicle → Prop where
  | refused (passed : c.Passes surroundings later) (unready : ¬ Ready settings callback topics c.memory)
      (nothing : ∀ entry, r ≠ .ok (some entry)) : Enters callback topics c r later
  | entered {id : CallbackId} (grouped : settings.group.truthy = true) (chosen : callback = some id)
      (wanted : chosenTopics c.memory.session topics = .ok names)
      (starts : Starts surroundings c (.ok true) later) :
      Enters callback topics c (.ok (some (id, names))) later

/-- The change of log context that a run makes for the length of its loop. -/
def grouping (settings : Settings) : LogContext.Change :=
  { LogContext.Change.none with
    group := match settings.group with
      | .null => none
      | given => some given }

/-- The executions that a run with a loop consists of, one after another: it claims the guard and marks the channel as
running, logs its start in the context of its group, loops, and gives everything back. -/
structure Stages (rounds : Nat) (callback : Option CallbackId) (topics : Topics) (id : CallbackId) (names : List Value)
    (c entry first : Chronicle) (r : Except Failure Unit) (last later : Chronicle) : Prop where
  entered : exec (surroundings.host nested caller)
    (do
      acquireActive runName
      enterLoop settings rounds callback topics) c = (.ok (some (id, names)), entry)
  started : exec (surroundings.host nested caller)
    (do
      changeContext (grouping settings)
      log Level.info "Starting consume loop" [("topics", .list names)]) entry = (.ok (), first)
  looped : exec (surroundings.host nested caller) (loop settings id names rounds ⟨false, true⟩) first = (r, last)
  ended : exec (surroundings.host nested caller)
    (do
      changeContext entry.memory.context.restoring
      release
      step .finish
      log Level.info "Consume loop exited" [("consumer_group", settings.group)]) last = (.ok (), later)

/-- What a run comes to. -/
inductive Runs (rounds : Nat) (callback : Option CallbackId) (topics : Topics) (c : Chronicle) :
    Except Failure Unit → Chronicle → Prop where
  | inactive (inactive : c.memory.session.active = false) :
      Runs rounds callback topics c (.error (.permanent destroyedMessage (some runName))) c
  | refused (passed : c.Passes surroundings later) (unready : ¬ Ready settings callback topics c.memory) :
      Runs rounds callback topics c r later
  | looped {id : CallbackId} {names : List Value} (active : c.memory.session.active = true)
      (grouped : settings.group.truthy = true) (chosen : callback = some id)
      (wanted : chosenTopics c.memory.session topics = .ok names)
      (begins : c.Begins surroundings caller first)
      (stages : Stages surroundings caller settings nested rounds callback topics id names c entry first r last later)
      (loops : Loops surroundings caller settings nested id names rounds ⟨false, true⟩ first r last)
      (finishes : c.Finishes surroundings last later) (cleared : later.Cleared surroundings) :
      Runs rounds callback topics c r later

end

section
variable {surroundings : Surroundings} {nested : List Move → Chronicle → Chronicle} {caller : Thread}
  {c : Chronicle} {settings : Settings} {callback : Option CallbackId} {topics : Topics}

/-! ## Starting -/

theorem exec_loopTopics :
    exec (surroundings.host nested caller) (loopTopics topics) c = (chosenTopics c.memory.session topics, c) := by
  cases topics with
  | absent => rfl
  | single name =>
    by_cases blank : name = ""
    · subst blank
      rfl
    · have named : loopTopics (.single name) = pure [.text name] := by
        simp only [loopTopics]
      rw [named]
      simp [chosenTopics, blank]
  | many members failure =>
    cases failure with
    | some e => rfl
    | none => cases members <;> rfl

theorem leads_awaitIdle (rounds : Nat) :
    Leads (surroundings.host nested caller) (awaitIdle rounds) c fun _ later =>
      c.Passes surroundings later := by
  have waits (d : Chronicle) : Leads (surroundings.host nested caller) wait d fun _ later =>
      d.Passes surroundings later := outside_becomes _ nested d .wait (by simp)
  induction rounds generalizing c with
  | zero =>
    unfold awaitIdle
    apply leads_step_bind
    show Leads _ (if c.memory.flags.running then throw _ else pure ()) c _
    split <;> exact .refl
  | succ rounds ih =>
    unfold awaitIdle
    apply leads_step_bind
    show Leads _ (if c.memory.flags.running then wait >>= fun _ => awaitIdle rounds else pure ()) c _
    split
    · refine (waits c).bind ?_ ?_
      · intro a d passed
        refine ih.weaken ?_
        intro r later rest
        exact passed.silently rest
      · exact fun e d passed => passed
    · exact .refl

theorem leads_tryStart (rounds : Nat) (patient : Bool) :
    Leads (surroundings.host nested caller) (tryStart rounds patient) c (Starts surroundings c) := by
  have starts {d : Chronicle} (passed : c.Passes surroundings d)
      (still : d.memory.flags.running = true → c.memory.flags.running = true) :
      Leads (surroundings.host nested caller) (step .tryStart : Operation Bool) d (Starts surroundings c) := by
    show Starts surroundings c (.ok d.memory.flags.tryStart.1)
      (d.remember { d.memory with flags := d.memory.flags.tryStart.2 })
    cases running : d.memory.flags.running with
    | false =>
      rw [show d.memory.flags.tryStart = (true, ⟨true, d.memory.flags.stopRequested⟩) by
        simp [RunFlags.tryStart, running]]
      exact .started passed
    | true =>
      rw [show d.memory.flags.tryStart = (false, d.memory.flags) by simp [RunFlags.tryStart, running]]
      exact .busy (still running) passed nofun
  unfold tryStart
  cases patient with
  | false => exact starts .refl id
  | true =>
    simp only [↓reduceIte]
    cases running : c.memory.flags.running with
    | false =>
      have idle : exec (surroundings.host nested caller) (awaitIdle rounds) c = (.ok (), c) := by
        cases rounds with
        | zero =>
          show exec _ (if c.memory.flags.running then throw _ else pure ()) c = _
          rw [running]
          rfl
        | succ rounds =>
          show exec _ (if c.memory.flags.running then wait >>= fun _ => awaitIdle rounds else pure ()) c = _
          rw [running]
          rfl
      refine leads_bind_of_exec idle ?_ nofun
      rintro - -
      exact starts .refl id
    | true =>
      refine (leads_awaitIdle rounds).bind ?_ ?_
      · intro a d passed
        exact starts passed fun _ => running
      · intro e d passed
        exact .busy running passed nofun

theorem leads_enterLoop (quiet : surroundings.LogsQuietly) (rounds : Nat) :
    Leads (surroundings.host nested caller) (enterLoop settings rounds callback topics) c
      (Enters surroundings settings callback topics c) := by
  unfold enterLoop
  cases grouped : settings.group.truthy with
  | false => exact .refused .refl (fun ready => nomatch grouped.symm.trans ready.grouped) nofun
  | true =>
    simp only [Bool.not_true, Bool.false_eq_true, ↓reduceIte]
    cases callback with
    | none => exact .refused .refl (fun ready => ready.called rfl) nofun
    | some callback =>
      refine leads_bind_of_exec exec_loopTopics ?_ ?_
      · intro names wanted
        apply leads_step_bind
        refine (leads_tryStart rounds _).bind ?_ ?_
        · intro started d starts
          cases started with
          | true => exact .entered grouped rfl wanted starts
          | false =>
            cases starts with
            | busy running passed refused =>
              refine (leads_log_bind quiet ?_)
              intro later logged
              exact .refused (passed.silently logged) (fun ready => nomatch running.symm.trans ready.idle) nofun
        · intro e d starts
          cases starts with
          | busy running passed refused =>
            exact .refused passed (fun ready => nomatch running.symm.trans ready.idle) nofun
      · intro e unwanted
        exact .refused .refl (fun ready => ready.chosen e unwanted) nofun

/-! ## Running -/

/-- A loop runs with the guard claimed. -/
theorem Chronicle.Begins.opened {first : Chronicle} (begins : c.Begins surroundings caller first) :
    first.memory.guard.OpenTo caller := by
  rw [begins.guard]
  exact Guard.openTo_claimed

theorem Loops.guard {id : CallbackId} {names : List Value} {rounds : Nat} {state : LoopState}
    {r : Except Failure Unit} {later : Chronicle}
    (loops : Loops surroundings caller settings nested id names rounds state c r later)
    (leaves : LeavesGuard surroundings nested caller) (opened : c.memory.guard.OpenTo caller) :
    later.memory.guard = c.memory.guard := by
  induction loops with
  | done ended => rfl
  | exhausted going free => rfl
  | broken going free cycles => exact cycles.guard leaves opened
  | next going free cycles loops ih =>
    have kept := cycles.guard leaves opened
    rw [← kept]
    exact ih (by rwa [kept])

/-- A claim that is given up leaves no trace. -/
theorem Chronicle.Passes.released {d : Chronicle} {guard : Guard}
    (passed : (c.remember (c.memory.guarded guard)).Passes surroundings d) :
    c.Passes surroundings (d.remember (d.memory.guarded c.memory.guard)) where
  state := ⟨rfl, passed.state.session, passed.state.context, passed.state.destroying,
    passed.state.transport, passed.state.flags⟩
  signals := passed.signals

/-- A record that is logged right after the flags of the loop were cleared. -/
theorem leads_log_cleared (idle : c.memory.flags = .idle) {level : Level} {message : String}
    {extras : List (String × Value)} :
    Leads (surroundings.host nested caller) (log level message extras) c fun r later =>
      ((surroundings.LogsQuietly → r = .ok ()) ∧ c.Passes surroundings later) ∧
        later.Cleared surroundings := by
  refine ⟨leads_log level message extras, c.events, .event "streaming_client.channel" level message extras, ?_⟩
  rw [← idle]
  rfl

/-- A run from the moment that the channel is marked as running. -/
theorem leads_looping (quiet : surroundings.LogsQuietly) (leaves : LeavesGuard surroundings nested caller)
    (opened : c.memory.guard.OpenTo caller) (active : c.memory.session.active = true) (rounds : Nat)
    {id : CallbackId} {names : List Value} {d : Chronicle} (grouped : settings.group.truthy = true)
    (chosen : callback = some id) (wanted : chosenTopics c.memory.session topics = .ok names)
    (passed : (c.remember (c.memory.guarded (c.memory.guard.claimed caller))).Passes surroundings d)
    (entered : exec (surroundings.host nested caller)
      (do
        acquireActive runName
        enterLoop settings rounds callback topics) c =
      (.ok (some (id, names)), d.remember { d.memory with flags := ⟨true, d.memory.flags.stopRequested⟩ })) :
    Leads (surroundings.host nested caller) (do
      let result ← outcome (inContext (grouping settings) do
        log Level.info "Starting consume loop" [("topics", .list names)]
        loop settings id names rounds ⟨false, true⟩)
      release
      step .finish
      log Level.info "Consume loop exited" [("consumer_group", settings.group)]
      settle result)
      (d.remember { d.memory with flags := ⟨true, d.memory.flags.stopRequested⟩ })
      (Runs surroundings caller settings nested rounds callback topics c) := by
  have looped : Leads (surroundings.host nested caller) (inContext (grouping settings) do
        log Level.info "Starting consume loop" [("topics", .list names)]
        loop settings id names rounds ⟨false, true⟩)
      (d.remember { d.memory with flags := ⟨true, d.memory.flags.stopRequested⟩ }) fun r after =>
        ∃ first last, c.Begins surroundings caller first ∧
          exec (surroundings.host nested caller)
            (do
              changeContext (grouping settings)
              log Level.info "Starting consume loop" [("topics", .list names)])
            (d.remember { d.memory with flags := ⟨true, d.memory.flags.stopRequested⟩ }) = (.ok (), first) ∧
          exec (surroundings.host nested caller) (loop settings id names rounds ⟨false, true⟩) first = (r, last) ∧
          Loops surroundings caller settings nested id names rounds ⟨false, true⟩ first r last ∧
          after = last.remember (last.memory.attributed d.memory.context) := by
    apply leads_inContext
    refine (leads_log _ _ _).traced.bind ?_ ?_
    · rintro ⟨⟩ first ⟨started, -, logged⟩
      have begins : c.Begins surroundings caller first := {
        guard := logged.state.guard.trans passed.state.guard
        session := logged.state.session.trans passed.state.session
        transport := logged.state.transport.trans passed.state.transport
        signals := by
          rw [logged.signals, List.append_nil]
          exact passed.signals.trans (List.append_nil _)
        flags := fun calm => by
          rw [logged.state.flags calm]
          exact congrArg (RunFlags.mk true) (congrArg RunFlags.stopRequested (passed.state.flags calm)) }
      have looping : Leads (surroundings.host nested caller) (loop settings id names rounds ⟨false, true⟩) first
          (Loops surroundings caller settings nested id names rounds ⟨false, true⟩ first) :=
        leads_loop quiet leaves begins.opened (fun _ => by rw [begins.session, active]) rounds
      exact ⟨first, _, begins, started, rfl, looping, rfl⟩
    · rintro e first ⟨-, granted, -⟩
      exact nomatch granted quiet
  refine looped.outcome_bind ?_
  rintro r - ⟨first, last, begins, started, ran, loops, rfl⟩
  have claimed : last.memory.guard = c.memory.guard.claimed caller := by
    rw [loops.guard leaves begins.opened, begins.guard]
  refine (leads_release opened (by exact claimed)).traced.bind ?_ (by simp)
  rintro ⟨⟩ u ⟨released, -, rfl⟩
  apply leads_step_bind
  refine (leads_log_cleared rfl).traced.bind ?_ ?_
  · rintro ⟨⟩ later ⟨logs, ⟨-, logged⟩, cleared⟩
    unfold Leads
    rw [exec_settle]
    refine .looped active grouped chosen wanted begins
      ⟨entered, started, ran, (exec_bind_ok released).trans logs⟩ loops ?_ cleared
    exact {
      guard := logged.state.guard
      context := logged.state.context.trans passed.state.context
      session := logged.state.session
      transport := logged.state.transport
      signals := logged.signals.trans (List.append_nil _)
      flags := logged.state.flags }
  · rintro e later ⟨-, ⟨granted, -⟩, -⟩
    exact nomatch granted quiet

theorem leads_run (quiet : surroundings.LogsQuietly) (leaves : LeavesGuard surroundings nested caller)
    (opened : c.memory.guard.OpenTo caller) (rounds : Nat) :
    Leads (surroundings.host nested caller) (run settings rounds callback topics) c
      (Runs surroundings caller settings nested rounds callback topics c) := by
  unfold run
  cases active : c.memory.session.active with
  | false =>
    refine (leads_acquireActive_inactive opened active _).bind nofun ?_
    rintro e t ⟨⟨⟩, rfl⟩
    exact .inactive active
  | true =>
    refine (leads_acquireActive opened active _).traced.bind ?_ (by simp)
    rintro ⟨⟩ t ⟨acquired, -, rfl⟩
    refine (leads_enterLoop quiet rounds).traced.outcome_bind ?_
    rintro entered d ⟨entering, enters⟩
    have ready (unready : ¬ Ready settings callback topics (c.memory.guarded (c.memory.guard.claimed caller))) :
        ¬ Ready settings callback topics c.memory :=
      fun ready => unready ⟨ready.grouped, ready.called, ready.chosen, ready.idle⟩
    split
    · rename_i e
      cases enters with
      | refused passed unready nothing =>
        refine (leads_release opened passed.state.guard).bind ?_ (by simp)
        rintro - f ⟨-, rfl⟩
        exact .refused passed.released (ready unready)
    · cases enters with
      | refused passed unready nothing =>
        refine (leads_release opened passed.state.guard).weaken ?_
        rintro r f ⟨-, rfl⟩
        exact .refused passed.released (ready unready)
    · rename_i id names
      cases enters with
      | refused passed unready nothing => exact absurd rfl (nothing _)
      | entered grouped chosen wanted starts =>
        cases starts with
        | busy running passed refused => exact absurd rfl refused
        | started passed =>
          exact leads_looping quiet leaves opened active rounds grouped chosen wanted passed
            ((exec_bind_ok acquired).trans entering)

end

end ConsumerChannel.Channel
