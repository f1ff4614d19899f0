import ConsumerChannel.Proofs.Calls

/-! Running inside a running loop. A thread that nobody disturbs is answered from the memory as it left it, so a
run that is called from inside the loop finds the guard its own and the loop running, and changes nothing. -/
namespace ConsumerChannel.Channel
open Operation

section
variable {settings : Settings} {start middle crowd later : Crowd Shared} {before turns : List Turn}
  {t : Thread} {r : Except Failure Unit}

/-- What a thread is answered that is alone with the channel, as long as it takes steps and logs. Logging may be
known never to fail. -/
def alone (t : Thread) (quiet : Prop) : Discipline State where
  permits _
    | .step _ => True
    | .outside (.log _) => True
    | .outside _ => False
  allows m
    | .step s, answer => answer = (s.apply t m).1
    | .outside (.log _), answer => quiet → answer = .ok ()
    | .outside _, _ => True
  after m
    | .step s, _ => (s.apply t m).2
    | .outside _, _ => m

variable {quiet : Prop} {s : State}

/-- A thread that is alone asks for a step and is answered from the memory. -/
theorem Obeys.alone_ask {step : Step} {answer : step.Reply} {left : State}
    (taken : step.apply t s = (answer, left)) :
    Obeys (alone t quiet) (ask (.step step)) s fun r later => r = answer ∧ later = left :=
  ⟨trivial, fun _ same => ⟨same.trans (congrArg Prod.fst taken), congrArg Prod.snd taken⟩⟩

/-- A thread that is alone goes on with what it is answered from the memory. -/
theorem Obeys.alone_bind {step : Step} {f : step.Reply → Operation β} {last : Except Failure β → State → Prop}
    (goes : Obeys (alone t quiet) (f (step.apply t s).1).run (step.apply t s).2 last) :
    Obeys (alone t quiet) (Operation.step step >>= f).run s last :=
  .step_bind trivial fun answer (same : answer = (step.apply t s).1) => same ▸ goes

/-- Nothing is asked for topics but the session. -/
theorem obeys_loopTopics {topics : Topics} (choosable : ∀ members e, topics ≠ .many members (some e)) :
    Obeys (alone t quiet) (loopTopics topics).run s fun r later => later = s ∧ ∃ wanted, r = .ok wanted := by
  have recorded : Obeys (alone t quiet) (do return (← session).topics : Operation (List Value)).run s
      fun r later => later = s ∧ ∃ wanted, r = .ok wanted := .alone_bind ⟨rfl, _, rfl⟩
  unfold loopTopics
  split
  · exact recorded
  · exact recorded
  · exact ⟨rfl, _, rfl⟩
  · rename_i members e
    exact absurd rfl (choosable members e)
  · exact recorded
  · exact ⟨rfl, _, rfl⟩

/-- The memory with one more claim of whoever owns the guard. -/
def State.deeper (s : State) : State := { s with guard := { s.guard with depth := s.guard.depth + 1 } }

/-- The owner of the guard of an active channel claims it once more. -/
theorem obeys_acquireActive_owned {depth : Nat} (owned : s.guard = ⟨some t, depth + 1⟩)
    (active : s.session.active = true) :
    Obeys (alone t quiet) (acquireActive runName).run s fun r later => r = .ok () ∧ later = s.deeper := by
  have claimed : Step.apply t (.acquire (some runName)) s = (.ok (), s.deeper) := by
    simp only [Step.apply, owned, Guard.acquire, ↓reduceIte, Step.attempt, State.deeper]
    rfl
  have asks : Obeys (alone t quiet) (acquire runName).run s fun r later => r = .ok () ∧ later = s.deeper :=
    .alone_ask claimed
  refine asks.bind ?_ fun e later ended => by cases ended.1
  rintro ⟨⟩ later ⟨-, rfl⟩
  refine .alone_bind ?_
  show Obeys (alone t quiet) (if !s.session.active then release >>= fun _ => throw _ else pure ()).run s.deeper _
  simp only [active, Bool.not_true, Bool.false_eq_true, ↓reduceIte]
  exact ⟨rfl, rfl⟩

/-- The claim is given up again. -/
theorem obeys_release_deeper {depth : Nat} (owned : s.guard = ⟨some t, depth + 1⟩) :
    Obeys (alone t quiet) release.run s.deeper fun r later => r = .ok () ∧ later = s := by
  have released : Step.apply t .release s.deeper = (.ok (), s) := by
    cases s
    cases owned
    rfl
  exact .alone_ask released

/-- No loop is started where one runs. -/
theorem obeys_tryStart_running (rounds : Nat) (running : s.flags.running = true) :
    Obeys (alone t quiet) (tryStart rounds false).run s fun r later => r = .ok false ∧ later = s := by
  have refused : s.flags.tryStart = (false, s.flags) := by simp [RunFlags.tryStart, running]
  have taken : Step.apply t .tryStart s = (false, s) := by
    show (s.flags.tryStart.1, { s with flags := s.flags.tryStart.2 }) = _
    rw [refused]
  have asks : Obeys (alone t quiet) (ask (.step .tryStart)) s fun started later => started = false ∧ later = s :=
    .alone_ask taken
  exact asks.andThen fun _ _ ended => ⟨congrArg Except.ok ended.1, ended.2⟩

/-- No loop is entered inside a running one. -/
theorem obeys_enterLoop_running {topics : Topics} (rounds : Nat) (id : CallbackId) (inside : 1 < s.guard.depth)
    (running : s.flags.running = true) (grouped : settings.group.truthy = true)
    (choosable : ∀ members e, topics ≠ .many members (some e)) :
    Obeys (alone t quiet) (enterLoop settings rounds (some id) topics).run s fun r later =>
      later = s ∧ (∀ entry, r ≠ .ok (some entry)) ∧ (quiet → r = .ok none) := by
  have impatient : decide (s.guard.depth ≤ 1) = false := by simpa using inside
  have logs : Obeys (alone t quiet) (log Level.warning "Channel is already running, ignoring run() call" []).run s
      fun c later => later = s ∧ (quiet → c = .ok ()) := ⟨trivial, fun _ granted => ⟨rfl, granted⟩⟩
  unfold enterLoop
  simp only [grouped, Bool.not_true, Bool.false_eq_true, ↓reduceIte]
  refine (obeys_loopTopics choosable).bind ?_ ?_
  · rintro wanted later ⟨rfl, -⟩
    refine .alone_bind ?_
    show Obeys _ (tryStart rounds (decide (later.guard.depth ≤ 1)) >>= _).run later _
    rw [impatient]
    refine (obeys_tryStart_running rounds running).bind ?_ fun _ _ ended => nomatch ended.1
    rintro started later ⟨⟨⟩, rfl⟩
    refine logs.bind ?_ ?_
    · rintro ⟨⟩ later ⟨rfl, -⟩
      exact ⟨rfl, nofun, fun _ => rfl⟩
    · rintro e later ⟨rfl, granted⟩
      exact ⟨rfl, nofun, fun quiet => nomatch granted quiet⟩
  · rintro e later ⟨-, _, ⟨⟩⟩

/-- A run inside a running loop claims the guard, finds the loop running, and gives the claim up. -/
theorem obeys_run_inside {depth : Nat} {topics : Topics} (rounds : Nat) (id : CallbackId)
    (owned : s.guard = ⟨some t, depth + 1⟩) (active : s.session.active = true)
    (running : s.flags.running = true) (grouped : settings.group.truthy = true)
    (choosable : ∀ members e, topics ≠ .many members (some e)) :
    Obeys (alone t quiet) (run settings rounds (some id) topics).run s
      fun r later => later = s ∧ (quiet → r = .ok ()) := by
  -- Two claims are what tells a run inside the loop from one that may wait for another loop to end.
  have inside : 1 < s.deeper.guard.depth := by
    show 1 < s.guard.depth + 1
    rw [owned]
    exact Nat.succ_lt_succ (Nat.succ_pos depth)
  refine (obeys_acquireActive_owned owned active).bind ?_ fun _ _ ended => nomatch ended.1
  rintro ⟨⟩ later ⟨-, rfl⟩
  refine (obeys_enterLoop_running rounds id inside running grouped choosable).outcome_bind ?_
  rintro r later ⟨rfl, never, calm⟩
  split
  · refine (obeys_release_deeper owned).bind ?_ fun _ _ ended => nomatch ended.1
    rintro ⟨⟩ later ⟨-, rfl⟩
    exact ⟨rfl, fun quiet => nomatch calm quiet⟩
  · exact (obeys_release_deeper owned).weaken fun c later ended => ⟨ended.2, fun _ => ended.1⟩
  · rename_i id wanted
    exact absurd rfl (never (id, wanted))

/-! ## A thread that nobody disturbs -/

/-- While no other thread takes a turn, a thread is answered as if it were alone. -/
private theorem alone_follows (goes : Crowd.Runs (aroundChannel settings) middle turns crowd)
    (undivided : Undivided t turns)
    (granted : ∀ record answer, (⟨t, .outside (.log record), answer⟩ : Turn) ∈ turns → quiet → answer = .ok ()) :
    crowd.memory.seenBy t = (alone t quiet).account (middle.memory.seenBy t) turns ∧
      (alone t quiet).Allowed (middle.memory.seenBy t) turns := by
  induction goes with
  | start => exact ⟨rfl, trivial⟩
  | aside runs digresses ih =>
    rw [digresses.memory]
    exact ih undivided granted
  | @turn turns crowd turn later runs takes ih =>
    obtain ⟨follows, allowed⟩ := ih (fun turn taken => undivided turn (List.mem_append_left _ taken))
      fun record answer taken => granted record answer (List.mem_append_left _ taken)
    have answers := takes.answers
    obtain ⟨u, q, answer⟩ := turn
    have mine : u = t := undivided _ (List.mem_append_right _ List.mem_cons_self)
    subst mine
    rw [account_append, allowed_append, ← follows]
    cases q with
    | outside call =>
      have same : later.memory = crowd.memory := answers
      refine ⟨by rw [same]; rfl, allowed, ?_, trivial⟩
      cases call with
      | log record => exact granted record answer (by simp)
      | _ => trivial
    | step s =>
      obtain ⟨(answered : (s.apply u (crowd.memory.seenBy u)).1 = answer), left⟩ := answers
      refine ⟨?_, allowed, answered.symm, trivial⟩
      rw [← left]
      show { (s.apply u (crowd.memory.seenBy u)).2 with
        context := assign crowd.memory.contexts u (s.apply u (crowd.memory.seenBy u)).2.context u } = _
      rw [assign_self]
      rfl

/-- A thread that is inside the guard of an active channel while a loop runs, about to run with everything that a
run needs. -/
structure Reenters (settings : Settings) (t : Thread) (callback : Option CallbackId) (topics : Topics)
    (m : Shared) : Prop where
  held : m.state.guard.heldBy t = true
  running : m.state.flags.running = true
  active : m.state.session.active = true
  grouped : settings.group.truthy = true
  called : ∃ id, callback = some id
  choosable : ∀ members e, topics ≠ .many members (some e)

/-- Turns with a result that change nothing of a channel: there is no request among them and no other call to the
outside but to log, and if logging does not fail there is no failure. -/
structure Idles (t : Thread) (turns : List Turn) (r : Except Failure Unit) (m later : Shared) : Prop where
  asks : ∀ turn ∈ turns, (∃ s, turn.query = .step s) ∨ ∃ record, turn.query = .outside (.log record)
  session : later.state.session = m.state.session
  flags : later.state.flags = m.state.flags
  transport : later.state.transport = m.state.transport
  returns : (∀ record answer, (⟨t, .outside (.log record), answer⟩ : Turn) ∈ turns → answer = .ok ()) → r = .ok ()

/-- A run inside a running loop changes nothing. -/
theorem idles_of_reenters {rounds : Nat} {callback : Option CallbackId} {topics : Topics}
    (gathers : Gathers settings start) (reached : Crowd.Runs (aroundChannel settings) start before middle)
    (goes : Crowd.Runs (aroundChannel settings) middle turns crowd)
    (calls : Calls settings t before (.run rounds callback topics) r turns) (undivided : Undivided t turns)
    (reenters : Reenters settings t callback topics middle.memory) :
    Idles t turns r middle.memory crowd.memory := by
  obtain ⟨id, rfl⟩ := reenters.called
  have counts := (gathers.tallies reached).guard
  have claimed := counts.heldBy_iff.mp reenters.held
  obtain ⟨depth, counted⟩ := Nat.exists_eq_add_of_lt claimed
  have owned : (middle.memory.seenBy t).guard = ⟨some t, depth + 1⟩ := by
    rw [← Nat.zero_add depth, ← counted]
    exact counts.is_owned claimed
  let quiet : Prop := ∀ record answer, (⟨t, .outside (.log record), answer⟩ : Turn) ∈ turns → answer = .ok ()
  obtain ⟨follows, allowed⟩ := alone_follows goes undivided fun record answer taken (quiet : quiet) =>
    quiet record answer taken
  have obeys : Obeys (alone t quiet) _ _ _ := obeys_run_inside rounds id owned reenters.active
    reenters.running reenters.grouped reenters.choosable
  have asides (account : State) (q : Query) (program : Program Query Query.Answer Unit)
      (permitted : (alone t quiet).permits account q) : ¬ (aroundChannel settings).aside q program := by
    rintro ⟨⟨id, batch, consumer, rfl⟩, -⟩
    exact permitted
  have advances := calls.advances
  rw [own_of_undivided undivided] at advances
  obtain ⟨same, returns⟩ := obeys.advances (fun account q program permitted may =>
    absurd may (asides account q program permitted)) advances allowed
  have kept : crowd.memory.seenBy t = middle.memory.seenBy t := follows.trans same
  have permitted := obeys.permits_turns asides advances allowed
  have session := congrArg State.session kept
  have flags := congrArg State.flags kept
  have transport := congrArg State.transport kept
  exact {
    asks := by
      intro turn taken
      obtain ⟨u, q, answer⟩ := turn
      obtain ⟨account, permits⟩ := permitted _ taken
      cases q with
      | step s => exact .inl ⟨s, rfl⟩
      | outside call =>
        cases call with
        | log record => exact .inr ⟨record, rfl⟩
        | _ => exact permits.elim
    session := session
    flags := flags
    transport := transport
    returns := returns }

end

end ConsumerChannel.Channel
