import ConsumerChannel.Proofs.Sharing

/-! Waiting for the end of a loop. Whoever asks a loop to stop looks from time to time whether one is running,
and cannot tell the loop that it asked from a later one. A request of its own stands until the loop ends, but a
loop that starts before all who asked are done is waited for by callers who never asked it to end. -/
namespace ConsumerChannel.Channel
open Operation

/-- Whether a thread waits for the end of a loop: its request to stop was granted, and since then it has neither
found that it is the loop's own thread, nor seen that no loop runs, nor been woken by a failure, nor taken the
request back. -/
def polling : Discipline Bool where
  permits _ _ := True
  allows _ _ _ := True
  after waits
    | .step .tryRequestStop, true => true
    | .step .held, true => false
    | .step .flags, ⟨false, _⟩ => false
    | .step .clearStopRequest, _ => false
    | .outside (.sleep _), .error _ => false
    | _, _ => waits

/-- Whether a thread waits for the end of a loop after some turns. -/
def waits (t : Thread) (turns : List Turn) : Bool := polling.account false (own t turns)

/-- A loop was started while a thread had yet to take its request to stop back. -/
def StartsOverRequest (start : Crowd Shared) (turns : List Turn) : Prop :=
  ∃ earlier u later v, turns = earlier ++ ⟨u, .step .tryStart, true⟩ :: later ∧
    (holdings start earlier v).asks = true

/-- While a loop runs, at most one thread asks, and its request stands. -/
structure Stands (flags : RunFlags) (asks : Thread → Bool) : Prop where
  asked : ∀ t, asks t = true → flags.running = true → flags.stopRequested = true
  alone : ∀ t u, asks t = true → asks u = true → flags.running = true → t = u

/-! ## One step -/

/-- Whoever waits has a request that it has not taken back. -/
private theorem asks_of_polls {waits : Bool} {h : Holdings} (asks : waits = true → h.asks = true) (q : Query)
    (answer : q.Answer) (polls : polling.after waits q answer = true) : (h.after q answer).asks = true := by
  cases q with
  | outside call =>
    refine asks ?_
    cases call with
    | sleep seconds =>
      cases answer with
      | ok _ => exact polls
      | error e => cases polls
    | _ => exact polls
  | step s =>
    cases s with
    | tryRequestStop =>
      cases answer with
      | true => rfl
      | false => exact asks polls
    | held =>
      cases answer with
      | true => cases polls
      | false => exact asks polls
    | flags =>
      obtain ⟨running, stopRequested⟩ := answer
      cases running with
      | false => cases polls
      | true => exact asks polls
    | clearStopRequest => cases polls
    | acquire api => cases answer <;> exact asks polls
    | release => cases answer <;> exact asks polls
    | lockDestroy => cases answer <;> exact asks polls
    | unlockDestroy => cases answer <;> exact asks polls
    | tryStart => cases answer <;> exact asks polls
    | _ => exact asks polls

private theorem asks_of_account {waits : Bool} {h : Holdings} (asks : waits = true → h.asks = true)
    (turns : List Turn) (polls : polling.account waits turns = true) :
    (Holdings.discipline.account h turns).asks = true := by
  induction turns generalizing waits h with
  | nil => exact asks polls
  | cons turn rest ih => exact ih (asks_of_polls asks turn.query turn.answer) polls

/-- Whoever waits has a request that it has not taken back. -/
theorem asks_of_waits {start : Crowd Shared} {turns : List Turn} {t : Thread}
    (waiting : waits t turns = true) : (holdings start turns t).asks = true := by
  have nothing : false = true → (Holdings.none (start.memory.contexts t)).asks = true := nofun
  exact asks_of_account nothing _ waiting

theorem Holdings.after_asks {h : Holdings} {s : Step} (other : s.part ≠ some .flags) (looks : s ≠ .held)
    (answer : s.Reply) : (h.after (.step s) answer).asks = h.asks := by
  cases s <;> first | exact absurd rfl other | exact absurd rfl looks | rfl | (cases answer <;> rfl)

section
variable {holdings : Thread → Holdings} {m : Shared} {t : Thread} {s : Step}

theorem stands_of_nobody {flags : RunFlags} {asks : Thread → Bool} (nobody : ∀ t, asks t = false) :
    Stands flags asks where
  asked t asking := nomatch (nobody t).symm.trans asking
  alone t _ asking := nomatch (nobody t).symm.trans asking

/-- Requests go on to stand after a step that starts no loop over them. -/
theorem Stands.step (stands : Stands m.state.flags fun u => (holdings u).asks)
    (permitted : (holdings t).permits (.step s))
    (free : s = .tryStart → m.state.flags.running = false → ∀ u, (holdings u).asks = false) :
    Stands (s.apply t (m.seenBy t)).2.flags fun u => (Tallies.stepped holdings m t s u).asks := by
  unfold Tallies.stepped
  rw [assign_project Holdings.asks]
  have unchanged : assign (fun u => (holdings u).asks) t (holdings t).asks = fun u => (holdings u).asks :=
    assign_same (fun u => (holdings u).asks) t
  by_cases writes : s.part = some .flags
  · cases s with
    | tryStart =>
      show Stands m.state.flags.tryStart.2
        (assign _ t ((holdings t).after (.step .tryStart) m.state.flags.tryStart.1).asks)
      unfold RunFlags.tryStart
      cases busy : m.state.flags.running with
      | true =>
        simp only [↓reduceIte]
        exact unchanged.symm ▸ stands
      | false => exact unchanged.symm ▸ stands_of_nobody (free rfl busy)
    | finish => exact ⟨fun _ _ => nofun, fun _ _ _ _ => nofun⟩
    | tryRequestStop =>
      show Stands m.state.flags.tryRequestStop.2
        (assign _ t ((holdings t).after (.step .tryRequestStop) m.state.flags.tryRequestStop.1).asks)
      unfold RunFlags.tryRequestStop
      cases requested : m.state.flags.stopRequested with
      | true =>
        simp only [↓reduceIte]
        exact unchanged.symm ▸ stands
      | false =>
        -- Nobody else can be asking a loop that runs, for that request would stand.
        have mine (u : Thread) (asking : assign (fun u => (holdings u).asks) t true u = true)
            (running : m.state.flags.running = true) : u = t := by
          refine Decidable.byContradiction fun other => ?_
          rw [assign_other _ _ other] at asking
          exact nomatch requested.symm.trans (stands.asked u asking running)
        exact ⟨fun _ _ _ => rfl, fun u v first second running =>
          (mine u first running).trans (mine v second running).symm⟩
    | clearStopRequest =>
      have nobody (u : Thread) (asking : assign (fun u => (holdings u).asks) t false u = true)
          (running : m.state.flags.running = true) : False := by
        by_cases same : u = t
        · subst same
          rw [assign_self] at asking
          cases asking
        · rw [assign_other _ _ same] at asking
          exact same (stands.alone u t asking permitted running)
      exact ⟨fun u asking running => (nobody u asking running).elim,
        fun u _ asking _ running => (nobody u asking running).elim⟩
    | _ => cases writes
  · have same : (s.apply t (m.seenBy t)).2.flags = m.state.flags := s.apply_leaves writes t (m.seenBy t)
    rw [same]
    by_cases looks : s = .held
    · subst looks
      show Stands m.state.flags (assign _ t ((holdings t).after (.step .held) (m.state.guard.heldBy t)).asks)
      cases m.state.guard.heldBy t with
      | false => exact unchanged.symm ▸ stands
      | true =>
        have before (u : Thread) (asking : assign (fun u => (holdings u).asks) t false u = true) :
            (holdings u).asks = true := by
          by_cases mine : u = t
          · subst mine
            rw [assign_self] at asking
            cases asking
          · rwa [assign_other _ _ mine] at asking
        exact ⟨fun u asking => stands.asked u (before u asking),
          fun u v first second => stands.alone u v (before u first) (before v second)⟩
    · rw [Holdings.after_asks writes looks, unchanged]
      exact stands

end

/-! ## Every run -/

section
variable {settings : Settings} {start crowd : Crowd Shared} {turns : List Turn} {t : Thread}

theorem StartsOverRequest.further (starts : StartsOverRequest start turns) (more : List Turn) :
    StartsOverRequest start (turns ++ more) := by
  obtain ⟨earlier, u, later, v, rfl, asks⟩ := starts
  exact ⟨earlier, u, later ++ more, v, by simp, asks⟩

/-- Requests stand as long as no loop is started over one. -/
theorem Gathers.stands (gathers : Gathers settings start)
    (runs : Crowd.Runs (aroundChannel settings) start turns crowd) :
    StartsOverRequest start turns ∨
      Stands crowd.memory.state.flags fun u => (holdings start turns u).asks := by
  induction runs with
  | start => exact .inr (stands_of_nobody fun _ => rfl)
  | aside runs digresses ih =>
    rw [digresses.memory]
    exact ih
  | @turn turns crowd turn later runs takes ih =>
    rcases ih with starts | stands
    · exact .inl (starts.further _)
    have permitted := gathers.permitted runs takes
    have answers := takes.answers
    obtain ⟨t, q, answer⟩ := turn
    have counted : holdings start (turns ++ [⟨t, q, answer⟩]) =
        assign (holdings start turns) t ((holdings start turns t).after q answer) := accounts_snoc q answer
    cases q with
    | outside call =>
      have same : later.memory = crowd.memory := answers
      have unchanged : assign (holdings start turns) t ((holdings start turns t).after (.outside call) answer) =
        holdings start turns := assign_same _ t
      rw [counted, same, unchanged]
      exact .inr stands
    | step s =>
      obtain ⟨(answered : (s.apply t (crowd.memory.seenBy t)).1 = answer), left⟩ := answers
      by_cases restarts : s = .tryStart ∧ crowd.memory.state.flags.running = false ∧
          ∃ v, (holdings start turns v).asks = true
      · obtain ⟨rfl, idle, v, asks⟩ := restarts
        refine .inl ⟨turns, t, [], v, ?_, asks⟩
        have started : (Step.apply t .tryStart (crowd.memory.seenBy t)).1 = true := by
          show crowd.memory.state.flags.tryStart.1 = true
          simp [RunFlags.tryStart, idle]
        rw [← answered, started]
      · have stepped := stands.step permitted fun starts idle v => Bool.eq_false_iff.mpr fun asks =>
          restarts ⟨starts, idle, v, asks⟩
        rw [counted, ← answered, ← left]
        exact .inr stepped

/-- Whoever waits for a loop that runs and has not been asked to end, waits for one that was started while a
thread had yet to take its request to stop back. -/
theorem unasked_only_if_started_over_request (gathers : Gathers settings start)
    (runs : Crowd.Runs (aroundChannel settings) start turns crowd) (waiting : waits t turns = true)
    (running : crowd.memory.state.flags.running = true) :
    crowd.memory.state.flags.stopRequested = true ∨ StartsOverRequest start turns := by
  rcases gathers.stands runs with starts | stands
  · exact .inr starts
  · exact .inl (stands.asked t (asks_of_waits waiting) running)

end

/-! ## A loop that nobody asked -/

/-- The moves of three threads: one runs, one stops, and one runs next. -/
def relayMoves (t : Thread) : List Move :=
  if t = 1 ∨ t = 3 then [.run 1 (some 0) (.single "t")] else if t = 2 then [.stop 1] else []

/-- Threads that run and stop a new channel. -/
def relay : Crowd Shared where
  memory := ⟨State.initial, fun _ => .empty⟩
  programs t := client committing (relayMoves t)

/-- The second thread asks the loop of the first one to stop, and sees it run; the loop ends, and the third
thread's begins before the second one looks again. -/
def relaySchedule : List (Thread × Nat) := [(1, 5), (2, 6), (1, 6), (3, 5), (1, 1), (3, 2)]

theorem gathers_relay : Gathers committing relay where
  fresh := ⟨.empty, 0, rfl⟩
  clients t := ⟨relayMoves t, rfl⟩

theorem runs_relay : Crowd.Runs (aroundChannel committing) relay (drive obliging relaySchedule relay).1
    (drive obliging relaySchedule relay).2 := runs_drive obliging relaySchedule relay

/-- The second thread waits for the loop of the third, which was started over its request. -/
theorem relay_started_over_request :
    Gathers committing relay ∧
      Crowd.Runs (aroundChannel committing) relay (drive obliging relaySchedule relay).1
        (drive obliging relaySchedule relay).2 ∧
      waits 2 (drive obliging relaySchedule relay).1 = true ∧
      (drive obliging relaySchedule relay).2.memory.state.flags.running = true ∧
      ((drive obliging relaySchedule relay).2.memory.state.flags.stopRequested = true ∨
        StartsOverRequest relay (drive obliging relaySchedule relay).1) := by
  have waiting : waits 2 (drive obliging relaySchedule relay).1 = true := by decide
  have running : (drive obliging relaySchedule relay).2.memory.state.flags.running = true := by decide
  exact ⟨gathers_relay, runs_relay, waiting, running,
    unasked_only_if_started_over_request gathers_relay runs_relay waiting running⟩

/-- A thread that only stops, or only runs. -/
def RunsOrStops (settings : Settings) (program : Program Query Query.Answer Unit) : Prop :=
  ∃ moves, program = client settings moves ∧
    ((∀ move ∈ moves, Move.IsStop move) ∨ ∀ move ∈ moves, ∃ rounds callback topics,
      move = .run rounds callback topics)

private theorem runsOrStops_relay (t : Thread) : RunsOrStops committing (relay.programs t) := by
  refine ⟨relayMoves t, rfl, ?_⟩
  unfold relayMoves
  split
  · exact .inr (List.forall_mem_singleton.mpr ⟨1, some 0, .single "t", rfl⟩)
  · split
    · exact .inl (List.forall_mem_singleton.mpr trivial)
    · exact .inl (List.forall_mem_nil _)

/-- Among threads that only run and stop, a caller may wait for a loop that runs and that nobody has asked to
end. -/
theorem callers_may_wait_unasked :
    ¬ ∀ (settings : Settings) (start crowd : Crowd Shared) (turns : List Turn) (t : Thread),
      Gathers settings start → (∀ u, RunsOrStops settings (start.programs u)) →
      Crowd.Runs (aroundChannel settings) start turns crowd → waits t turns = true →
      crowd.memory.state.flags.running = true → crowd.memory.state.flags.stopRequested = true := by
  intro always
  have asked := always committing relay _ _ 2 gathers_relay runsOrStops_relay runs_relay (by decide) (by decide)
  have unasked : (drive obliging relaySchedule relay).2.memory.state.flags.stopRequested = false := by decide
  rw [unasked] at asked
  cases asked

end ConsumerChannel.Channel
