import ConsumerChannel.Proofs.Reentry

/-! What a call leaves as it was. Whichever way an operation ends, its thread has the log context and the claims
of the guard that it had before the call, and nobody is kept from destroying the channel. A loop ends with its
flags down, and a run inside a running loop changes nothing at all. -/
namespace ConsumerChannel.Channel
open Operation

/-- What a call of a thread leaves as it was, over turns among which are those of other threads. -/
structure HandsBack (t : Thread) (turns : List Turn) (m later : Shared) : Prop where
  context : later.contexts t = m.contexts t
  /-- A guard that the thread owns is left with the same claims. -/
  held : m.state.guard.heldBy t = true → later.state.guard = m.state.guard
  /-- A guard that the thread does not own is not left to it. -/
  unheld : m.state.guard.heldBy t = false → later.state.guard.heldBy t = false
  guard : Undivided t turns → later.state.guard = m.state.guard
  /-- Only another thread can be found destroying the channel. -/
  destroying : m.state.destroying = false → later.state.destroying = true →
    ∃ u, u ≠ t ∧ ⟨u, .step .lockDestroy, true⟩ ∈ turns

section
variable {settings : Settings} {start middle crowd : Crowd Shared} {before turns : List Turn} {t : Thread}
  {move : Move} {r : Except Failure Unit}

/-- Whoever comes to the right to destroy the channel has just claimed it. -/
private theorem locks_of_after {h : Holdings} (free : h.destroys = false) (turn : Turn)
    (raised : (h.after turn.query turn.answer).destroys = true) :
    turn = ⟨turn.thread, .step .lockDestroy, true⟩ := by
  obtain ⟨u, q, answer⟩ := turn
  cases q with
  | outside call => exact nomatch free.symm.trans raised
  | step s =>
    by_cases writes : s.part = some .destroying
    · cases s with
      | lockDestroy =>
        cases answer with
        | true => rfl
        | false => exact nomatch free.symm.trans raised
      | unlockDestroy =>
        cases answer with
        | ok _ => cases raised
        | error e => exact nomatch free.symm.trans raised
      | _ => cases writes
    · have same : (h.after (.step s) answer).destroys = false :=
        (Holdings.after_destroys writes answer).trans free
      exact nomatch same.symm.trans raised

/-- Whoever has come to the right to destroy the channel has claimed it. -/
private theorem locked_of_account {h : Holdings} (free : h.destroys = false)
    (destroys : (Holdings.discipline.account h turns).destroys = true) :
    ∃ u, (⟨u, .step .lockDestroy, true⟩ : Turn) ∈ turns := by
  induction turns generalizing h with
  | nil => exact nomatch free.symm.trans destroys
  | cons turn rest ih =>
    cases raised : (h.after turn.query turn.answer).destroys with
    | true => exact ⟨turn.thread, locks_of_after free turn raised ▸ List.mem_cons_self⟩
    | false =>
      obtain ⟨u, taken⟩ := ih raised destroys
      exact ⟨u, List.mem_cons_of_mem _ taken⟩

section
variable (calls : Calls settings t before move r turns) (gathers : Gathers settings start)
include calls gathers

/-- Where no other thread takes a turn, a call leaves every thread with what it had. -/
theorem Calls.holdings_of_undivided (runs : Crowd.Runs (aroundChannel settings) start (before ++ turns) crowd)
    (undivided : Undivided t turns) : holdings start (before ++ turns) = holdings start before := by
  funext u
  by_cases mine : u = t
  · subst mine
    exact calls.restores gathers runs
  · rw [holdings_append, own_of_undivided_other undivided mine]
    rfl

/-- Whoever can destroy the channel after a call, and could not before, is another thread and has claimed it. -/
theorem Calls.locked_by_other {u : Thread}
    (runs : Crowd.Runs (aroundChannel settings) start (before ++ turns) crowd)
    (free : ∀ v, (holdings start before v).destroys = false)
    (destroys : (holdings start (before ++ turns) u).destroys = true) :
    u ≠ t ∧ (⟨u, .step .lockDestroy, true⟩ : Turn) ∈ turns := by
  constructor
  · rintro rfl
    have same := congrArg Holdings.destroys (calls.restores gathers runs)
    exact nomatch (free u).symm.trans (same.symm.trans destroys)
  · rw [holdings_append] at destroys
    obtain ⟨v, taken⟩ := locked_of_account (free u) destroys
    obtain ⟨present, mine⟩ := List.mem_filter.mp taken
    have thread : v = u := beq_iff_eq.mp mine
    exact thread ▸ present

/-- Every call leaves its thread's log context and claims as they were, and the right to destroy the channel to
whoever claims it. -/
theorem Calls.restored (reached : Crowd.Runs (aroundChannel settings) start before middle)
    (goes : Crowd.Runs (aroundChannel settings) middle turns crowd) :
    HandsBack t turns middle.memory crowd.memory := by
  have runs := reached.trans goes
  have earlier := gathers.tallies reached
  have later := gathers.tallies runs
  have same := calls.restores gathers runs
  have claims : (holdings start (before ++ turns) t).claims = (holdings start before t).claims :=
    congrArg Holdings.claims same
  refine { context := ?_, held := ?_, unheld := ?_, guard := ?_, destroying := ?_ }
  · rw [later.contexts, earlier.contexts]
    exact congrArg Holdings.context same
  · intro held
    have claimed := earlier.guard.heldBy_iff.mp held
    have still : 0 < (holdings start (before ++ turns) t).claims := by omega
    rw [later.guard.is_owned still, earlier.guard.is_owned claimed, claims]
  · intro unheld
    refine Bool.eq_false_iff.mpr fun held => ?_
    have claimed := later.guard.heldBy_iff.mp held
    have before : 0 < (holdings start before t).claims := by omega
    exact nomatch unheld.symm.trans (earlier.guard.heldBy_iff.mpr before)
  · intro undivided
    have counts := later.guard
    rw [calls.holdings_of_undivided gathers runs undivided] at counts
    exact counts.unique earlier.guard
  · intro free busy
    obtain ⟨u, destroys⟩ := later.destroying.iff.mp busy
    exact ⟨u, calls.locked_by_other gathers runs (earlier.destroying.not_raised free) destroys⟩

end

/-! ## The end of a loop -/

/-- Whether a loop has been started. -/
def starting : Discipline Bool where
  permits _ q := ∀ id batch consumer, q ≠ .outside (.callback id batch consumer)
  allows _ _ _ := True
  after started
    | .step .tryStart, true => true
    | _, _ => started

theorem starting_after (q : Query) (answer : q.Answer) : starting.after true q answer = true := by
  unfold starting
  dsimp only
  split <;> rfl

theorem starting_of_mem {u : Thread} {started : Bool} (taken : (⟨u, .step .tryStart, true⟩ : Turn) ∈ turns) :
    starting.account started turns = true := by
  have stays (turns : List Turn) : starting.account true turns = true := by
    induction turns with
    | nil => rfl
    | cons turn rest ih =>
      show starting.account (starting.after true turn.query turn.answer) rest = true
      rw [starting_after]
      exact ih
  induction turns generalizing started with
  | nil => cases taken
  | cons turn rest ih =>
    rcases List.mem_cons.mp taken with rfl | later
    · exact stays rest
    · exact ih later

section
variable {calm : Bool → Prop}

theorem starting_log (level : Level) (message : String) (extras : List (String × Value)) :
    Balances starting calm (log level message extras) := fun _ _ => ⟨nofun, fun _ _ => rfl⟩

theorem starting_release : Balances starting calm release := fun _ _ => ⟨nofun, fun _ _ => rfl⟩

theorem starting_session : Balances starting calm session := fun _ _ => ⟨nofun, fun _ _ => rfl⟩

theorem starting_acquireActive (api : String) : Balances starting calm (acquireActive api) := by
  have acquires : Balances starting calm (acquire api) := fun _ _ => ⟨nofun, fun _ _ => rfl⟩
  refine acquires.bind fun _ => starting_session.bind fun s => ?_
  split
  · exact starting_release.bind fun _ => balances_throw _
  · exact balances_pure _

end

/-- Whoever starts a loop enters it. -/
theorem starting_enterLoop (rounds : Nat) (callback : Option CallbackId) (topics : Topics) :
    Obeys starting (enterLoop settings rounds callback topics).run false fun r later =>
      later = true → ∃ entry, r = .ok (some entry) := by
  have starts (patient : Bool) : Obeys starting (tryStart rounds patient).run false fun r later =>
      later = true → r = .ok true := by
    have asks : Obeys starting (step .tryStart : Operation Bool).run false fun r later =>
        later = true → r = .ok true := by
      refine ⟨nofun, fun (started : Bool) _ => ?_⟩
      cases started with
      | true => exact fun _ => rfl
      | false => exact nofun
    unfold tryStart
    cases patient with
    | false => exact asks
    | true =>
      have flags : Balances starting (fun _ => True) flags := fun _ _ => ⟨nofun, fun _ _ => rfl⟩
      have waits : Balances starting (fun _ => True) wait := fun _ _ => ⟨nofun, fun _ _ => rfl⟩
      exact (flags.awaitIdle waits rounds).anywhere_bind (fun _ => asks) fun _ => nofun
  unfold enterLoop
  cases settings.group.truthy with
  | false => exact nofun
  | true =>
    cases callback with
    | none => exact nofun
    | some id =>
      refine (starting_session.loopTopics topics).anywhere_bind (fun wanted => ?_) fun _ => nofun
      refine .step_bind nofun fun claims _ => ?_
      refine (starts _).bind ?_ fun _ _ ended started => nomatch ended started
      intro started later ended
      cases started with
      | true => exact fun _ => ⟨_, rfl⟩
      | false =>
        have idle : later = false := Bool.eq_false_iff.mpr fun started => nomatch ended started
        subst idle
        exact (starting_log _ _ _).anywhere_bind (fun _ => nofun) fun _ => nofun

theorem Obeys.starting {program : Program Query Query.Answer α} {a : α} {started : Bool} {post : α → Bool → Prop}
    (obeys : Obeys starting program started post)
    (advances : Advances (aroundChannel settings) t turns program (.done a)) :
    post a (starting.account started turns) := by
  have allowed (turns : List Turn) (started : Bool) : Channel.starting.Allowed started turns := by
    induction turns generalizing started with
    | nil => trivial
    | cons turn rest ih => exact ⟨trivial, ih _⟩
  refine Obeys.advances ?_ obeys advances (allowed turns started)
  rintro _ q _ plain ⟨⟨id, batch, consumer, rfl⟩, -⟩
  exact absurd rfl (plain id batch consumer)

/-- A loop that has come to its end is left with the guard given up, the flags taken down and a record logged. -/
private theorem closing_turns {account : Holdings} {message : String} {extras : List (String × Value)}
    {result : Except Failure Unit}
    (advances : Advances (aroundChannel settings) t turns (do
      release
      step .finish
      log Level.info message extras
      settle result : Operation Unit).run (.done r))
    (allowed : Holdings.discipline.Allowed account turns) :
    ∃ logged answer, turns =
      [⟨t, .step .release, .ok ()⟩, ⟨t, .step .finish, ()⟩, ⟨t, .outside (.log logged), answer⟩] := by
  obtain ⟨answer, rest, rfl, released⟩ := Advances.ask_inv (q := .step .release) nofun advances
  have granted : answer = .ok () := allowed.1
  rw [granted] at released ⊢
  obtain ⟨⟨⟩, rest, rfl, finished⟩ := Advances.ask_inv (q := .step .finish) nofun released
  obtain ⟨logged, rest, rfl, settles⟩ := Advances.ask_inv (q := .outside (.log _)) nofun finished
  have nothing : rest = [] := by
    cases logged with
    | error e => exact (Advances.done_inv settles).1
    | ok _ => cases result <;> exact (Advances.done_inv settles).1
  subst nothing
  exact ⟨_, logged, rfl⟩

/-- A run that started a loop clears the flags in the end, and then only logs. -/
private theorem finishes_of_started {account : Holdings} {rounds : Nat} {callback : Option CallbackId}
    {topics : Topics}
    (advances : Advances (aroundChannel settings) t turns (run settings rounds callback topics).run (.done r))
    (allowed : Holdings.discipline.Allowed account turns)
    (started : (⟨t, .step .tryStart, true⟩ : Turn) ∈ turns) :
    ∃ front record answer, turns = front ++ [⟨t, .step .finish, ()⟩, ⟨t, .outside (.log record), answer⟩] := by
  have counted : starting.account false turns = true := starting_of_mem started
  obtain ⟨claimed, claiming, rest, rfl, claims, goes⟩ := Advances.bind_inv advances
  have before : starting.account false claiming = false :=
    Obeys.starting ((starting_acquireActive runName).anywhere false) claims
  rw [account_append, before] at counted
  cases claimed with
  | error e =>
    obtain ⟨rfl, -⟩ := goes
    cases counted
  | ok _ =>
    obtain ⟨outcome, entering, rest, rfl, enters, goes⟩ := Advances.outcome_inv goes
    -- A loop that was started was entered: the other two ways out of the checks start none.
    have entered := Obeys.starting (starting_enterLoop rounds callback topics) enters
    rw [account_append] at counted
    cases outcome with
    | error e =>
      have gives : Balances starting (fun _ => True) (release >>= fun _ => throw e : Operation Unit) :=
        starting_release.bind fun _ => balances_throw e
      rw [Obeys.starting (gives.anywhere _) goes] at counted
      exact nomatch entered counted
    | ok entry =>
      cases entry with
      | none =>
        rw [Obeys.starting (starting_release.anywhere _) goes] at counted
        exact nomatch entered counted
      | some entry =>
        obtain ⟨id, wanted⟩ := entry
        obtain ⟨result, looping, rest, rfl, -, closes⟩ := Advances.outcome_inv goes
        rw [← List.append_assoc, ← List.append_assoc] at allowed ⊢
        have closed := (allowed_append.mp allowed).2
        obtain ⟨logged, answer, rfl⟩ := closing_turns closes closed
        exact ⟨claiming ++ entering ++ looping ++ [⟨t, .step .release, .ok ()⟩], logged, answer, by simp⟩

/-- A turn that is no step leaves the memory as it was. -/
private theorem memory_of_outside {call : Outside} {answer : call.Reply}
    (runs : Crowd.Runs (aroundChannel settings) middle ([] ++ [⟨t, .outside call, answer⟩]) crowd) :
    crowd.memory = middle.memory := by
  obtain ⟨between, next, earlier, takes, same⟩ := runs.last
  have still : next.memory = between.memory := takes.answers
  rw [← same, still, earlier.memory_of_none rfl]

/-- After the end of a loop the flags are down. -/
private theorem flags_of_finish {past : List Turn}
    (runs : Crowd.Runs (aroundChannel settings) middle (past ++ [⟨t, .step .finish, ()⟩]) crowd) :
    crowd.memory.state.flags = .idle := by
  obtain ⟨between, next, earlier, takes, same⟩ := runs.last
  rw [← same, ← takes.answers.2]
  rfl

/-- A run that started a loop takes the flags down, and they stay down if no other thread takes a turn after
that. -/
private theorem flags_of_started {rounds : Nat} {callback : Option CallbackId} {topics : Topics}
    (calls : Calls settings t before (.run rounds callback topics) r turns)
    (allowed : Holdings.discipline.Allowed (holdings start before t) (own t turns))
    (goes : Crowd.Runs (aroundChannel settings) middle turns crowd)
    (started : (⟨t, .step .tryStart, true⟩ : Turn) ∈ turns) :
    ∃ past rest, turns = past ++ ⟨t, .step .finish, ()⟩ :: rest ∧
      (Undivided t rest → crowd.memory.state.flags = .idle) := by
  have mine : (⟨t, .step .tryStart, true⟩ : Turn) ∈ own t turns :=
    List.mem_filter.mpr ⟨started, beq_self_eq_true t⟩
  obtain ⟨front, record, answer, same⟩ := finishes_of_started calls.advances allowed mine
  obtain ⟨first, second, rfl, -, ends⟩ := List.filter_eq_append_iff.mp same
  obtain ⟨others, rest, rfl, -, -, last⟩ := List.filter_eq_cons_iff.mp ends
  refine ⟨first ++ others, rest, by simp, fun undivided => ?_⟩
  have whole : first ++ (others ++ ⟨t, .step .finish, ()⟩ :: rest) =
      (first ++ others ++ [⟨t, .step .finish, ()⟩]) ++ rest := by simp
  rw [whole] at goes
  obtain ⟨between, until_finish, after⟩ := goes.split
  -- What comes after that is only a record of the log, which leaves the memory as it was.
  have logs : rest = [⟨t, .outside (.log record), answer⟩] := (own_of_undivided undivided).symm.trans last
  rw [logs] at after
  rw [memory_of_outside after]
  exact flags_of_finish until_finish

/-- Whichever way a call ends, its thread has its log context and its claims of the guard back, and the right to
destroy the channel is only another thread's to have. A run that started a loop takes the flags down; one inside a
running loop comes to its end without waiting for any other thread, and changes nothing. -/
theorem calls_hand_back (gathers : Gathers settings start)
    (reached : Crowd.Runs (aroundChannel settings) start before middle)
    (goes : Crowd.Runs (aroundChannel settings) middle turns crowd)
    (calls : Calls settings t before move r turns) :
    HandsBack t turns middle.memory crowd.memory ∧
      ∀ rounds callback topics, move = .run rounds callback topics →
        ((⟨t, .step .tryStart, true⟩ : Turn) ∈ turns → ∃ past rest,
          turns = past ++ ⟨t, .step .finish, ()⟩ :: rest ∧
            (Undivided t rest → crowd.memory.state.flags = .idle)) ∧
        (Reenters settings t callback topics middle.memory →
          (∀ reply, ∃ n r, (solo reply t n (run settings rounds callback topics).run middle.memory).left = .done r) ∧
            (Undivided t turns → Idles t turns r middle.memory crowd.memory)) := by
  refine ⟨calls.restored gathers reached goes, ?_⟩
  rintro rounds callback topics rfl
  refine ⟨fun started => ?_, fun reenters => ⟨fun reply => solo_ends reply _ _, fun undivided => ?_⟩⟩
  · exact flags_of_started calls (gathers.allowed_since (reached.trans goes) t) goes started
  · exact idles_of_reenters gathers reached goes calls undivided reenters

end

/-! ## A run that its own loop runs -/

/-- A thread starts a loop. -/
def Turn.starts (t : Thread) : Turn → Bool
  | ⟨u, .step .tryStart, true⟩ => u == t
  | _ => false

theorem Turn.eq_of_starts {t : Thread} {turn : Turn} (starts : turn.starts t = true) :
    turn = ⟨t, .step .tryStart, true⟩ := by
  unfold Turn.starts at starts
  split at starts
  · cases beq_iff_eq.mp starts
    rfl
  · cases starts

/-- A run whose callback runs. -/
def echo : Move := .run 1 (some 0) (.single "t")

/-- A thread that runs a new channel. -/
def echoing : Crowd Shared where
  memory := ⟨State.initial, fun _ => .empty⟩
  programs t := client committing (if t = 1 then [echo] else [])

namespace Echo

/-- The loop runs, up to the moment at which its first callback is called. -/
def looping : Stretch (Except Failure Unit) := solo obliging 1 54 (echo.operation committing).run echoing.memory

/-- The callback runs. -/
def nested : Stretch (Except Failure Unit) := solo obliging 1 6 (echo.operation committing).run looping.memory

/-- The loop comes to its end. -/
def ending : Stretch (Except Failure Unit) := solo obliging 1 16 looping.left nested.memory

/-- All turns in their order. -/
def turns : List Turn := looping.turns ++ (nested.turns ++ ending.turns)

theorem gathers : Gathers committing echoing where
  fresh := ⟨.empty, 0, rfl⟩
  clients t := ⟨if t = 1 then [echo] else [], rfl⟩

theorem waits : ∃ id batch consumer further,
    looping.left = .ask (.outside (.callback id batch consumer)) further :=
  Stretch.left_of_callsBack (by decide +kernel)

theorem nested_ends : nested.left = .done (.ok ()) := Stretch.left_of_succeeds (by decide +kernel)

theorem ending_ends : ending.left = .done (.ok ()) := Stretch.left_of_succeeds (by decide +kernel)

/-- The whole run, and where the callback's run begins and ends. -/
theorem runs : ∃ middle later finished : Crowd Shared,
    (Crowd.Runs (aroundChannel committing) echoing looping.turns middle ∧ middle.memory = looping.memory) ∧
    (Crowd.Runs (aroundChannel committing) middle nested.turns later ∧ later.memory = nested.memory) ∧
    (Crowd.Runs (aroundChannel committing) later ending.turns finished ∧ finished.memory = ending.memory) := by
  obtain ⟨id, batch, consumer, further, waits⟩ := waits
  have runs : echoing.programs 1 = (echo.operation committing).run >>= fun _ => client committing [] := rfl
  exact runs_called_back rfl waits rfl nested_ends rfl runs

theorem undivided : Undivided 1 turns := by
  intro turn taken
  rcases List.mem_append.mp taken with first | rest
  · exact thread_solo _ _ _ _ _ first
  · rcases List.mem_append.mp rest with second | third
    · exact thread_solo _ _ _ _ _ second
    · exact thread_solo _ _ _ _ _ third

private theorem undivided_nested : Undivided 1 nested.turns := thread_solo _ _ _ _

/-- A thread that has made no move may call. -/
theorem free : AtLiberty committing 1 [] := by
  have made : Advances (aroundChannel committing) 1 [] (client committing []) (.done ()) := .stay
  exact .outside made

/-- The whole run is a call. -/
theorem calls : Calls committing 1 [] echo (.ok ()) turns where
  free := free
  advances := by
    obtain ⟨id, batch, consumer, further, waits⟩ := waits
    rw [own_of_undivided undivided]
    exact advances_called_back rfl waits rfl nested_ends rfl ending_ends

/-- The callback's run is a call. -/
theorem calls_nested : Calls committing 1 looping.turns echo (.ok ()) nested.turns where
  free := by
    obtain ⟨id, batch, consumer, further, waits⟩ := waits
    have waiting : Advances (aroundChannel committing) 1 looping.turns (echo.operation committing).run
        looping.left := advances_solo ..
    rw [waits] at waiting
    have made : Advances (aroundChannel committing) 1 [] (client committing []) (.done ()) := .stay
    have inside := free.inside waiting made
    have alone : Undivided 1 looping.turns := thread_solo _ _ _ _
    rw [List.nil_append, List.append_nil] at inside
    rwa [own_of_undivided alone]
  advances := by
    rw [own_of_undivided undivided_nested, ← nested_ends]
    exact advances_solo ..

theorem reenters : Reenters committing 1 (some 0) (.single "t") looping.memory where
  held := by decide +kernel
  running := by decide +kernel
  active := by decide +kernel
  grouped := by decide +kernel
  called := ⟨0, rfl⟩
  choosable := nofun

theorem started : (⟨1, .step .tryStart, true⟩ : Turn) ∈ turns := by
  have starts : turns.any (Turn.starts 1) = true := by decide +kernel
  obtain ⟨turn, taken, found⟩ := List.any_eq_true.mp starts
  exact Turn.eq_of_starts found ▸ taken

end Echo

/-- The run in the callback leaves everything as it was, and the run of the loop leaves the thread with nothing
and the flags down. -/
theorem echoes_hand_back : ∃ middle later finished : Crowd Shared,
    Gathers committing echoing ∧
    Crowd.Runs (aroundChannel committing) echoing Echo.looping.turns middle ∧
    Crowd.Runs (aroundChannel committing) middle Echo.nested.turns later ∧
    Calls committing 1 Echo.looping.turns echo (.ok ()) Echo.nested.turns ∧
    Undivided 1 Echo.nested.turns ∧ Reenters committing 1 (some 0) (.single "t") middle.memory ∧
    HandsBack 1 Echo.nested.turns middle.memory later.memory ∧
    Idles 1 Echo.nested.turns (.ok ()) middle.memory later.memory ∧
    Crowd.Runs (aroundChannel committing) echoing [] echoing ∧
    Crowd.Runs (aroundChannel committing) echoing Echo.turns finished ∧
    Calls committing 1 [] echo (.ok ()) Echo.turns ∧ (⟨1, .step .tryStart, true⟩ : Turn) ∈ Echo.turns ∧
    HandsBack 1 Echo.turns echoing.memory finished.memory ∧ finished.memory.state.flags = .idle := by
  obtain ⟨middle, later, finished, ⟨first, same⟩, ⟨second, -⟩, ⟨third, -⟩⟩ := Echo.runs
  have whole : Crowd.Runs (aroundChannel committing) echoing Echo.turns finished :=
    first.trans (second.trans third)
  have reenters : Reenters committing 1 (some 0) (.single "t") middle.memory := same ▸ Echo.reenters
  have inner := calls_hand_back Echo.gathers first second Echo.calls_nested
  have outer := calls_hand_back Echo.gathers .start whole Echo.calls
  obtain ⟨past, rest, split, down⟩ := (outer.2 1 (some 0) (.single "t") rfl).1 Echo.started
  have alone : Undivided 1 rest := fun turn taken => Echo.undivided turn (by simp [split, taken])
  exact ⟨middle, later, finished, Echo.gathers, first, second, Echo.calls_nested, Echo.undivided_nested, reenters,
    inner.1, ((inner.2 1 (some 0) (.single "t") rfl).2 reenters).2 Echo.undivided_nested, .start, whole,
    Echo.calls, Echo.started, outer.1, down alone⟩

end ConsumerChannel.Channel
