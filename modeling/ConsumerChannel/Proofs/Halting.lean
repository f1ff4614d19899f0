import ConsumerChannel.Proofs.Calls
import ConsumerChannel.Proofs.Stopping

/-! Asking a loop to stop. Whoever asks first, from outside the loop, looks at the flags again and again and sleeps in
between; whatever other threads make of the channel meanwhile, every look tells the flags as they are by then, and
nothing is changed but the request itself. -/
namespace ConsumerChannel.Channel
open Operation

/-! ## What stopping may be -/

/-- The record of a thread that is about to sleep. -/
def waitingRecord (settings : Settings) : LogRecord :=
  .event "streaming_client.channel" Level.debug "Waiting for channel to stop" [("wait_seconds", settings.stopPeriod)]

/-- The record of a thread that has seen the loop end. -/
def stoppedRecord : LogRecord := .event "streaming_client.channel" Level.info "Channel was stopped" []

/-- The record of a loop that asked itself to stop. -/
def withinRecord : LogRecord :=
  .event "streaming_client.channel" Level.info "Stop requested from the consume loop" []

/-- Looks at the flags, until one of them sees no loop, with a sleep after each that sees one. A sleep that fails is the
end, and its failure the cause of the one that is raised. Rounds that are used up while a loop still runs are given
up. -/
inductive Polls (settings : Settings) (t : Thread) : Nat → List Turn → Except Failure Unit → Prop where
  | ended (asked : Bool) : Polls settings t rounds
      [⟨t, .step .flags, (⟨false, asked⟩ : RunFlags)⟩, ⟨t, .outside (.log stoppedRecord), .ok ()⟩] (.ok ())
  | slept (asked : Bool) (further : Polls settings t rounds turns r) : Polls settings t (rounds + 1)
      (⟨t, .step .flags, (⟨true, asked⟩ : RunFlags)⟩ :: ⟨t, .outside (.log (waitingRecord settings)), .ok ()⟩ ::
        ⟨t, .outside (.sleep settings.stopPeriod), .ok ()⟩ :: turns) r
  | woken (asked : Bool) (e : Failure) (fails : e ≠ .fault .unfinished) : Polls settings t (rounds + 1)
      [⟨t, .step .flags, (⟨true, asked⟩ : RunFlags)⟩, ⟨t, .outside (.log (waitingRecord settings)), .ok ()⟩,
        ⟨t, .outside (.sleep settings.stopPeriod), .error e⟩] (.error (.stop "Failed to stop channel" (some e)))
  | unfinished (asked : Bool) : Polls settings t 0 [⟨t, .step .flags, (⟨true, asked⟩ : RunFlags)⟩]
      (.error (.fault .unfinished))

/-- The turns of a thread that stops a loop, and the result: no loop runs, one has been asked already, the loop itself
asks, or the thread asks, waits, and takes its request back, however the wait ended. -/
inductive Halts (settings : Settings) (t : Thread) (rounds : Nat) : List Turn → Except Failure Unit → Prop where
  | idle (asked : Bool) : Halts settings t rounds [⟨t, .step .flags, (⟨false, asked⟩ : RunFlags)⟩] (.ok ())
  | asked (asked : Bool) : Halts settings t rounds
      [⟨t, .step .flags, (⟨true, asked⟩ : RunFlags)⟩, ⟨t, .step .tryRequestStop, false⟩] (.ok ())
  | within (asked : Bool) : Halts settings t rounds
      [⟨t, .step .flags, (⟨true, asked⟩ : RunFlags)⟩, ⟨t, .step .tryRequestStop, true⟩, ⟨t, .step .held, true⟩,
        ⟨t, .outside (.log withinRecord), .ok ()⟩] (.ok ())
  | waited (asked : Bool) (polls : Polls settings t rounds turns r) : Halts settings t rounds
      (⟨t, .step .flags, (⟨true, asked⟩ : RunFlags)⟩ :: ⟨t, .step .tryRequestStop, true⟩ ::
        ⟨t, .step .held, false⟩ :: turns ++ [⟨t, .step .clearStopRequest, ()⟩]) r

/-- Later, every thread finds the memory as it was, but for flags. -/
def Shared.Reflagged (m : Shared) (flags : RunFlags) (later : Shared) : Prop :=
  ∀ u, later.seenBy u = { m.seenBy u with flags := flags }

/-- A turn of a thread that stops a loop tells how the memory is, and changes nothing of it but the request. -/
def Turn.Tells (turn : Turn) (m later : Shared) : Prop :=
  match turn.query, turn.answer with
  | .step .flags, seen => seen = m.state.flags ∧ m.Reflagged m.state.flags later
  | .step .tryRequestStop, granted =>
    granted = (!m.state.flags.stopRequested) ∧ m.Reflagged ⟨m.state.flags.running, true⟩ later
  | .step .held, mine => mine = m.state.guard.heldBy turn.thread ∧ m.Reflagged m.state.flags later
  | .step .clearStopRequest, _ => m.Reflagged ⟨m.state.flags.running, false⟩ later
  | .outside (.sleep _), _ => m.Reflagged m.state.flags later
  | .outside (.log _), _ => m.Reflagged m.state.flags later
  | _, _ => False

/-- A thread looks at the flags and sees a loop run. -/
def Turn.seesRunning : Turn → Bool
  | ⟨_, .step .flags, seen⟩ => RunFlags.running seen
  | _ => false

/-- A thread sleeps. -/
def Turn.naps (turn : Turn) : Bool :=
  match turn.query with
  | .outside (.sleep _) => true
  | _ => false

/-- The failure that a thread is woken by. -/
def Turn.wokenBy : Turn → Option Failure
  | ⟨_, .outside (.sleep _), .error e⟩ => some e
  | _ => none

/-- Logging never fails a thread, and no sleep of its own is given up. -/
structure Steady (t : Thread) (turns : List Turn) : Prop where
  logs : ∀ record answer, (⟨t, .outside (.log record), answer⟩ : Turn) ∈ turns → answer = .ok ()
  sleeps : ∀ seconds, (⟨t, .outside (.sleep seconds), .error (.fault .unfinished)⟩ : Turn) ∉ turns

section
variable {settings : Settings} {t : Thread} {rounds : Nat} {turns more : List Turn} {r : Except Failure Unit}
  {m later : Shared} {start crowd : Crowd Shared}

/-! ## Turns that are taken -/

theorem Steady.mono (steady : Steady t turns) (within : more ⊆ turns) : Steady t more where
  logs record answer taken := steady.logs record answer (within taken)
  sleeps seconds taken := steady.sleeps seconds (within taken)

theorem Steady.of_cons {turn : Turn} (steady : Steady t (turn :: turns)) : Steady t turns :=
  steady.mono (List.subset_cons_self ..)

theorem Steady.append (first : Steady t turns) (second : Steady t more) : Steady t (turns ++ more) where
  logs record answer taken := (List.mem_append.mp taken).elim (first.logs record answer) (second.logs record answer)
  sleeps seconds taken := (List.mem_append.mp taken).elim (first.sleeps seconds) (second.sleeps seconds)

/-- Where everything outside is granted, logging never fails, and sleeping neither. -/
theorem steady_solo {u : Thread} {k : Nat} {program : Program Query Query.Answer α} :
    Steady t (solo obliging u k program m).turns where
  logs _ _ taken := answer_solo _ _ _ _ taken
  sleeps _ taken := nomatch answer_solo _ _ _ _ taken

/-- A thread that logs goes on. -/
theorem Advances.log_inv {level : Level} {message : String} {extras : List (String × Value)}
    {next : Unit → Operation β} {r : Except Failure β}
    (advances : Advances (aroundChannel settings) t turns (log level message extras >>= next).run (.done r))
    (steady : Steady t turns) :
    ∃ rest, turns = ⟨t, .outside (.log (.event "streaming_client.channel" level message extras)), .ok ()⟩ :: rest ∧
      Advances (aroundChannel settings) t rest (next ()).run (.done r) := by
  obtain ⟨answer, rest, rfl, onward⟩ := Advances.ask_inv (q := .outside (.log _)) nofun advances
  cases steady.logs _ answer List.mem_cons_self
  exact ⟨rest, rfl, onward⟩

/-- The last record of a thread. -/
theorem Advances.log_last {level : Level} {message : String} {extras : List (String × Value)}
    (advances : Advances (aroundChannel settings) t turns (log level message extras).run (.done r))
    (steady : Steady t turns) :
    turns = [⟨t, .outside (.log (.event "streaming_client.channel" level message extras)), .ok ()⟩] ∧ r = .ok () := by
  obtain ⟨answer, rest, rfl, onward⟩ := Advances.ask_inv (q := .outside (.log _)) nofun advances
  cases steady.logs _ answer List.mem_cons_self
  obtain ⟨rfl, rfl⟩ := onward.done_inv
  exact ⟨rfl, rfl⟩

theorem stopFailure_of_ne {e : Failure} (fails : e ≠ .fault .unfinished) :
    stopFailure e = .stop "Failed to stop channel" (some e) := by
  unfold stopFailure
  split
  · exact absurd rfl fails
  · rfl

/-- Looking until no loop runs. -/
private theorem polls_of_advances (rounds : Nat)
    (advances : Advances (aroundChannel settings) t turns (awaitEnd settings rounds).run (.done r))
    (steady : Steady t turns) : Polls settings t rounds turns (r.mapError stopFailure) := by
  induction rounds generalizing turns with
  | zero =>
    obtain ⟨(seen : RunFlags), rest, rfl, onward⟩ := Advances.step_inv advances
    obtain ⟨running, asked⟩ := seen
    cases running with
    | true =>
      obtain ⟨rfl, rfl⟩ := Advances.done_inv onward
      exact .unfinished asked
    | false =>
      obtain ⟨rfl, rfl⟩ := Advances.log_last onward steady.of_cons
      exact .ended asked
  | succ rounds ih =>
    obtain ⟨(seen : RunFlags), rest, rfl, onward⟩ := Advances.step_inv advances
    obtain ⟨running, asked⟩ := seen
    cases running with
    | false =>
      obtain ⟨rfl, rfl⟩ := Advances.log_last onward steady.of_cons
      exact .ended asked
    | true =>
      obtain ⟨rest, rfl, sleeping⟩ := Advances.log_inv onward steady.of_cons
      obtain ⟨slept, rest, rfl, further⟩ := Advances.ask_inv (q := .outside (.sleep _)) nofun sleeping
      have calm := steady.of_cons.of_cons
      cases slept with
      | ok _ => exact .slept asked (ih further calm.of_cons)
      | error e =>
        obtain ⟨rfl, rfl⟩ := Advances.done_inv further
        have fails : e ≠ .fault .unfinished := by
          rintro rfl
          exact calm.sleeps _ List.mem_cons_self
        show Polls settings t (rounds + 1) _ (.error (stopFailure e))
        rw [stopFailure_of_ne fails]
        exact .woken asked e fails

/-- Stopping a loop. -/
theorem halts_of_advances
    (advances : Advances (aroundChannel settings) t turns (stop settings rounds).run (.done r))
    (steady : Steady t turns) : Halts settings t rounds turns r := by
  obtain ⟨(seen : RunFlags), afterLook, rfl, requests⟩ := Advances.step_inv advances
  obtain ⟨running, asked⟩ := seen
  cases running with
  | false =>
    obtain ⟨rfl, rfl⟩ := Advances.done_inv requests
    exact .idle asked
  | true =>
    obtain ⟨(granted : Bool), afterRequest, rfl, looks⟩ := Advances.step_inv requests
    cases granted with
    | false =>
      obtain ⟨rfl, rfl⟩ := Advances.done_inv looks
      exact .asked asked
    | true =>
      obtain ⟨(mine : Bool), rest, rfl, onward⟩ := Advances.step_inv looks
      have calm := steady.of_cons.of_cons.of_cons
      cases mine with
      | true =>
        obtain ⟨rfl, rfl⟩ := Advances.log_last onward calm
        exact .within asked
      | false =>
        obtain ⟨waited, _, polled, last, rfl, waits, closes, rfl⟩ := Advances.ensuring_inv onward
        obtain ⟨raw, past, rest, rfl, polls, repaired⟩ := Advances.rescue_inv waits
        have raised : rest = [] ∧ waited = raw.mapError stopFailure := by
          cases raw with
          | ok _ => exact repaired
          | error e => exact (Advances.done_inv repaired).imp_right Eq.symm
        obtain ⟨rfl, rfl⟩ := raised
        obtain ⟨⟨⟩, rest, rfl, ends⟩ := Advances.ask_inv (q := .step .clearStopRequest) nofun closes
        obtain ⟨rfl, rfl⟩ := Advances.done_inv ends
        rw [List.append_nil] at calm ⊢
        exact .waited asked (polls_of_advances rounds polls (calm.mono (List.subset_append_left ..)))

/-- Whoever looks so comes to its end so. -/
theorem Polls.advances (polls : Polls settings t rounds turns r) : ∃ raw : Except Failure Unit,
    r = raw.mapError stopFailure ∧
      Advances (aroundChannel settings) t turns (awaitEnd settings rounds).run (.done raw) := by
  induction polls with
  | @ended rounds asked =>
    refine ⟨.ok (), rfl, ?_⟩
    cases rounds with
    | zero => exact .turn (q := .step .flags) _ (.turn (q := .outside (.log _)) _ .stay)
    | succ rounds => exact .turn (q := .step .flags) _ (.turn (q := .outside (.log _)) _ .stay)
  | slept asked further ih =>
    obtain ⟨raw, same, onward⟩ := ih
    exact ⟨raw, same, .turn (q := .step .flags) _
      (.turn (q := .outside (.log _)) _ (.turn (q := .outside (.sleep _)) _ onward))⟩
  | woken asked e fails =>
    refine ⟨.error e, congrArg Except.error (stopFailure_of_ne fails).symm, ?_⟩
    exact .turn (q := .step .flags) _ (.turn (q := .outside (.log _)) _ (.turn (q := .outside (.sleep _)) _ .stay))
  | unfinished asked => exact ⟨.error (.fault .unfinished), rfl, .turn (q := .step .flags) _ .stay⟩

theorem Halts.advances (halts : Halts settings t rounds turns r) :
    Advances (aroundChannel settings) t turns (stop settings rounds).run (.done r) := by
  cases halts with
  | idle asked => exact .turn (q := .step .flags) _ .stay
  | asked asked => exact .turn (q := .step .flags) _ (.turn (q := .step .tryRequestStop) _ .stay)
  | within asked =>
    exact .turn (q := .step .flags) _ (.turn (q := .step .tryRequestStop) _
      (.turn (q := .step .held) _ (.turn (q := .outside (.log _)) _ .stay)))
  | @waited turns _ asked polls =>
    obtain ⟨raw, rfl, looks⟩ := polls.advances
    have waits : Advances (aroundChannel settings) t (turns ++ [])
        (rescue (awaitEnd settings rounds) fun e => throw (stopFailure e)).run (.done (raw.mapError stopFailure)) := by
      refine looks.after_outcome ?_
      cases raw with
      | ok _ => exact .stay
      | error e => exact .stay
    rw [List.append_nil] at waits
    have closes : Advances (aroundChannel settings) t (turns ++ [⟨t, .step .clearStopRequest, ()⟩])
        (ensuring (rescue (awaitEnd settings rounds) fun e => throw (stopFailure e)) (step .clearStopRequest)).run
        (.done (raw.mapError stopFailure)) := by
      refine waits.after_outcome (.turn (q := .step .clearStopRequest) () ?_)
      cases raw with
      | ok _ => exact .stay
      | error e => exact .stay
    exact .turn (q := .step .flags) _ (.turn (q := .step .tryRequestStop) _ (.turn (q := .step .held) _ closes))

/-- Whoever has begun to stop a loop can come to the end: it does so if it goes on alone, whatever the memory is, and
is granted everything outside. -/
theorem halts_of_begun (memory : Shared) {left : Program Query Query.Answer (Except Failure Unit)}
    (begun : Advances (aroundChannel settings) t turns (stop settings rounds).run left) (steady : Steady t turns) :
    ∃ more r, Halts settings t rounds (turns ++ more) r := by
  obtain ⟨n, r, ended⟩ := solo_ends (t := t) obliging left memory
  have onward : Advances (aroundChannel settings) t (solo obliging t n left memory).turns left (.done r) :=
    ended ▸ advances_solo left memory
  exact ⟨_, r, halts_of_advances (begun.trans onward) (steady.append steady_solo)⟩

/-! ## Sleeps -/

/-- Every look that sees a loop is followed by a sleep, unless the rounds are used up. -/
theorem Polls.countP_naps (polls : Polls settings t rounds turns r) (finished : r ≠ .error (.fault .unfinished)) :
    turns.countP Turn.naps = turns.countP Turn.seesRunning := by
  induction polls with
  | ended asked => rfl
  | slept asked further ih => simp [List.countP_cons, Turn.naps, Turn.seesRunning, ih finished]
  | woken asked e _ => rfl
  | unfinished asked => exact absurd rfl finished

/-- A wait fails exactly of a sleep that fails. -/
theorem Polls.woken_iff (polls : Polls settings t rounds turns r) (e : Failure) :
    r = .error (.stop "Failed to stop channel" (some e)) ↔ ∃ turn ∈ turns, turn.wokenBy = some e := by
  induction polls with
  | ended asked => simp [Turn.wokenBy]
  | slept asked further ih => simp [Turn.wokenBy, ih]
  | woken asked cause _ => simp [Turn.wokenBy]
  | unfinished asked => simp [Turn.wokenBy]

theorem Halts.countP_naps (halts : Halts settings t rounds turns r) (finished : r ≠ .error (.fault .unfinished)) :
    turns.countP Turn.naps = (turns.drop 3).countP Turn.seesRunning := by
  cases halts with
  | idle asked => rfl
  | asked asked => rfl
  | within asked => rfl
  | waited asked polls =>
    simp [Turn.naps, Turn.seesRunning, polls.countP_naps finished]

theorem Halts.woken_iff (halts : Halts settings t rounds turns r) (e : Failure) :
    r = .error (.stop "Failed to stop channel" (some e)) ↔ ∃ turn ∈ turns, turn.wokenBy = some e := by
  cases halts with
  | idle asked => simp [Turn.wokenBy]
  | asked asked => simp [Turn.wokenBy]
  | within asked => simp [Turn.wokenBy]
  | waited asked polls => simp [Turn.wokenBy, polls.woken_iff, or_and_right, exists_or]

/-! ## The memory -/

/-- What a thread that stops a loop asks. -/
def Query.Stops : Query → Prop
  | .step .flags | .step .tryRequestStop | .step .held | .step .clearStopRequest => True
  | .outside (.sleep _) | .outside (.log _) => True
  | _ => False

theorem Polls.stops (polls : Polls settings t rounds turns r) : ∀ turn ∈ turns, turn.query.Stops := by
  induction polls with
  | ended asked => simp [Query.Stops]
  | slept asked further ih => simpa [Query.Stops] using ih
  | woken asked e _ => simp [Query.Stops]
  | unfinished asked => simp [Query.Stops]

theorem Halts.stops (halts : Halts settings t rounds turns r) : ∀ turn ∈ turns, turn.query.Stops := by
  cases halts with
  | idle asked => simp [Query.Stops]
  | asked asked => simp [Query.Stops]
  | within asked => simp [Query.Stops]
  | waited asked polls =>
    have polled := polls.stops
    simp only [List.cons_append, List.forall_mem_cons, List.forall_mem_append]
    exact ⟨trivial, trivial, trivial, polled, trivial, List.forall_mem_nil _⟩

private theorem reflagged_self : m.Reflagged m.state.flags m := fun _ => rfl

/-- What a step leaves of the memory is found by every thread, if the step concerns flags only. -/
private theorem reflagged_leftBy (flags : RunFlags) :
    m.Reflagged flags (m.leftBy t { m.seenBy t with flags := flags }) := by
  intro u
  have same : assign m.contexts t (m.contexts t) = m.contexts := assign_same ..
  show { m.state with flags := flags, context := assign m.contexts t (m.contexts t) u } = _
  rw [same]
  rfl

/-- A thread that stops a loop is answered from the memory. -/
private theorem tells_of_answers {turn : Turn} (stops : turn.query.Stops)
    (answers : (aroundChannel settings).answers turn.thread turn.query m turn.answer later) : turn.Tells m later := by
  obtain ⟨u, q, answer⟩ := turn
  cases q with
  | outside call =>
    have same : later = m := answers
    subst same
    cases call with
    | sleep seconds => exact reflagged_self
    | log record => exact reflagged_self
    | _ => exact stops.elim
  | step s =>
    obtain ⟨(answered : (s.apply u (m.seenBy u)).1 = answer), (left : m.leftBy u (s.apply u (m.seenBy u)).2 = later)⟩ :=
      answers
    subst answered left
    cases s with
    | flags => exact ⟨rfl, reflagged_leftBy _⟩
    | held => exact ⟨rfl, reflagged_leftBy _⟩
    | clearStopRequest => exact reflagged_leftBy _
    | tryRequestStop =>
      have requested : m.state.flags.tryRequestStop =
          (!m.state.flags.stopRequested, ⟨m.state.flags.running, true⟩) := by
        obtain ⟨running, asked⟩ := m.state.flags
        cases asked <;> rfl
      show m.state.flags.tryRequestStop.1 = _ ∧ m.Reflagged _ (m.leftBy u { m.seenBy u with
        flags := m.state.flags.tryRequestStop.2 })
      rw [requested]
      exact ⟨rfl, reflagged_leftBy _⟩
    | _ => exact stops.elim

/-- Whoever stops a loop returns at once if none runs or one has been asked to stop already; the loop itself asks and
returns; and anybody else asks, sleeps once after every look that sees a loop run, and takes the request back in the
end, whether a look saw none or a sleep failed, which is then raised. It returns so whenever its turns are such, and at
every time before that, they begin such. Whatever other threads do in between, every look tells the flags as they are
by then, and no turn changes anything but the request. -/
theorem stop_waits_for_end_of_loop {left : Program Query Query.Answer (Except Failure Unit)}
    (runs : Crowd.Runs (aroundChannel settings) start turns crowd)
    (begun : Advances (aroundChannel settings) t (own t turns) (stop settings rounds).run left)
    (steady : Steady t (own t turns)) :
    (∃ more r, Halts settings t rounds (own t turns ++ more) r) ∧
      (∀ r, Advances (aroundChannel settings) t (own t turns) (stop settings rounds).run (.done r) ↔
        Halts settings t rounds (own t turns) r) ∧
      (∀ r, Halts settings t rounds (own t turns) r →
        (r ≠ .error (.fault .unfinished) →
          (own t turns).countP Turn.naps = ((own t turns).drop 3).countP Turn.seesRunning) ∧
        ∀ e, r = .error (.stop "Failed to stop channel" (some e)) ↔ ∃ turn ∈ own t turns, turn.wokenBy = some e) ∧
      ∀ past turn rest, turns = past ++ turn :: rest → turn.thread = t →
        ∃ before after, Crowd.Runs (aroundChannel settings) start past before ∧
          before.Takes (aroundChannel settings) turn after ∧ turn.Tells before.memory after.memory ∧
          Crowd.Runs (aroundChannel settings) after rest crowd := by
  have whole := halts_of_begun start.memory begun steady
  refine ⟨whole, fun r => ⟨fun ended => halts_of_advances ended steady, Halts.advances⟩,
    fun r halts => ⟨halts.countP_naps, halts.woken_iff⟩, ?_⟩
  rintro past turn rest rfl mine
  have taken : turn ∈ own t (past ++ turn :: rest) := by simp [own, mine]
  obtain ⟨before, after, reached, takes, onward⟩ := runs.at_turn
  obtain ⟨more, r, halts⟩ := whole
  have asked : turn.query.Stops := halts.stops turn (List.mem_append_left _ taken)
  exact ⟨before, after, reached, takes, tells_of_answers asked takes.answers, onward⟩

end

/-- One thread runs a loop, and another one is about to stop it. -/
def looping : Crowd Shared := (drive obliging [(1, 5)] relay).2

namespace Looping

/-- The second thread asks, sees the loop run, and sleeps. -/
def asking : Stretch (Except Failure Unit) := solo obliging 2 6 (stop committing 1).run looping.memory

/-- The loop ends meanwhile. -/
def ending : Stretch Unit := solo obliging 1 7 (looping.programs 1) asking.memory

/-- The second thread sees no loop, and takes its request back. -/
def seeing : Stretch (Except Failure Unit) := solo obliging 2 3 asking.left ending.memory

/-- All turns in their order. -/
def turns : List Turn := asking.turns ++ ending.turns ++ seeing.turns

theorem runs : ∃ later, Crowd.Runs (aroundChannel committing) looping turns later ∧ later.memory = seeing.memory := by
  have stops : looping.programs 2 = (stop committing 1).run >>= fun _ => client committing [] := rfl
  have loops : looping.programs 1 = looping.programs 1 >>= .done := (bind_done _).symm
  exact runs_interrupted (by decide) rfl rfl rfl stops loops

theorem stops : Advances (aroundChannel committing) 2 (own 2 turns) (stop committing 1).run (.done (.ok ())) := by
  have ended : seeing.left = .done (.ok ()) := Stretch.left_of_succeeds (by decide +kernel)
  have begun : asking.turns.isEmpty = false := by decide +kernel
  have resumed : seeing.turns.isEmpty = false := by decide +kernel
  have carries : CarriesOut 2 (stop committing 1).run (.ok ()) turns :=
    carriesOut_interrupted (by decide) rfl rfl rfl ended (by simpa using begun) (by simpa using resumed)
  exact carries.leaves.advances fun turn taken => beq_iff_eq.mp (List.mem_filter.mp taken).2

theorem steady : Steady 2 (own 2 turns) :=
  ((steady_solo.append steady_solo).append steady_solo).mono List.filter_sublist.subset

end Looping

/-- A loop that is stopped by another thread: that thread looks twice after its request, sleeps once, and leaves no
request. -/
theorem looping_is_stopped :
    ∃ later, Crowd.Runs (aroundChannel committing) looping Looping.turns later ∧
      Advances (aroundChannel committing) 2 (own 2 Looping.turns) (stop committing 1).run (.done (.ok ())) ∧
      Steady 2 (own 2 Looping.turns) ∧ (own 2 Looping.turns).countP Turn.naps = 1 ∧
      Halts committing 2 1 (own 2 Looping.turns) (.ok ()) ∧ looping.memory.state.flags = ⟨true, false⟩ ∧
      later.memory.state.flags = .idle := by
  obtain ⟨later, runs, same⟩ := Looping.runs
  obtain ⟨-, ends, returned, -⟩ := stop_waits_for_end_of_loop runs Looping.stops Looping.steady
  have halts : Halts committing 2 1 (own 2 Looping.turns) (.ok ()) := (ends _).mp Looping.stops
  have seen : ((own 2 Looping.turns).drop 3).countP Turn.seesRunning = 1 := by decide +kernel
  have running : looping.memory.state.flags = ⟨true, false⟩ := by decide +kernel
  have idle : Looping.seeing.memory.state.flags = .idle := by decide +kernel
  have naps := (returned _ halts).1 nofun
  exact ⟨later, runs, Looping.stops, Looping.steady, naps.trans seen, halts, running, same ▸ idle⟩

end ConsumerChannel.Channel
