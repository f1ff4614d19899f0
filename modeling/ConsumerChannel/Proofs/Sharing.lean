import ConsumerChannel.Proofs.Callbacks
import ConsumerChannel.Proofs.Exclusion
import ConsumerChannel.Proofs.Holdings

/-! Threads that share a channel. Each makes moves with it, one after another, and a callback that it waits for
makes moves in between. What the threads have of the channel and what is in its memory bear each other out in
every interleaving. -/
namespace ConsumerChannel

namespace Session

/-- A session that may be: a consumer has a name, and topics are recorded only with a consumer. -/
structure Proper (s : Session String Value) : Prop where
  named : ∀ id, s.consumer = some id → id ≠ ""
  founded : s.consumer = none → s.topics = []

variable {s later : Session String Value} {api : Option String}

theorem proper_setConsumer {id : String} (named : id ≠ "") (recorded : s.setConsumer (some id) api = .ok later) :
    later.Proper := by
  unfold setConsumer change at recorded
  split at recorded
  · cases recorded
    exact ⟨fun other same => Option.some.inj same ▸ named, nofun⟩
  · cases recorded

theorem Proper.replaceTopics {topics : List Value} (proper : s.Proper)
    (recorded : s.replaceTopics topics api = .ok later) : later.Proper := by
  unfold Session.replaceTopics change at recorded
  split at recorded
  · split at recorded
    · cases recorded
    · rename_i founded
      cases recorded
      refine ⟨proper.named, fun (none : s.consumer = none) => ?_⟩
      simpa [hasConsumer, none] using founded
  · cases recorded

theorem consumer_replaceTopics {topics : List Value} (recorded : s.replaceTopics topics api = .ok later) :
    later.consumer = s.consumer := by
  unfold Session.replaceTopics change at recorded
  split at recorded
  · split at recorded
    · cases recorded
    · cases recorded
      rfl
  · cases recorded

theorem consumer_reset (forgotten : s.reset api = .ok later) : later.consumer = none := by
  unfold reset change at forgotten
  split at forgotten
  · cases forgotten
    rfl
  · cases forgotten

/-- A frozen session takes no change. -/
theorem change_frozen (frozen : s.active = false) (changed : Except Failure (Session String Value)) :
    s.change api changed = .error (.permanent destroyedMessage api) := by
  simp [change, frozen]

theorem Proper.filled (proper : s.Proper) : s.consumer ≠ some "" :=
  fun blank => proper.named "" blank rfl

theorem proper_reset (forgotten : s.reset api = .ok later) : later.Proper := by
  unfold reset change at forgotten
  split at forgotten
  · cases forgotten
    exact ⟨nofun, fun _ => rfl⟩
  · cases forgotten

end Session

namespace Channel
open Operation

/-- What threads share: the memory of a channel, of which each thread has its own log context. -/
structure Shared where
  state : State
  contexts : Thread → LogContext

namespace Shared

/-- The memory of the channel as one thread has it. -/
def seenBy (m : Shared) (t : Thread) : State := { m.state with context := m.contexts t }

/-- What is shared once one thread has left the memory of the channel in a state. -/
def leftBy (m : Shared) (t : Thread) (left : State) : Shared := ⟨left, assign m.contexts t left.context⟩

end Shared

/-- The program of a thread that makes moves one after another, whatever comes of each. -/
def client (settings : Settings) : List Move → Program Query Query.Answer Unit
  | [] => .done ()
  | move :: rest => (move.operation settings).run >>= fun _ => client settings rest

/-- Threads around a channel. Steps are taken on its memory; calls to the outside are answered in any way, and a
callback makes moves before it comes back. -/
def aroundChannel (settings : Settings) : World Shared where
  answers t q m answer later :=
    match q, answer with
    | .step s, answer => (s.apply t (m.seenBy t)).1 = answer ∧ m.leftBy t (s.apply t (m.seenBy t)).2 = later
    | .outside _, _ => later = m
  aside q program := (∃ id batch consumer, q = .outside (.callback id batch consumer)) ∧
    ∃ moves, program = client settings moves

/-- A new channel, and threads that are about to make moves with it. -/
structure Gathers (settings : Settings) (crowd : Crowd Shared) : Prop where
  fresh : ∃ context transport, crowd.memory.state = ⟨.free, .fresh, .idle, context, false, transport⟩
  clients : ∀ t, ∃ moves, crowd.programs t = client settings moves

/-! ## Flags of one thread -/

/-- A flag is up exactly while some thread has it up, which is then the only one. -/
structure Raised (flag : Bool) (raises : Thread → Bool) : Prop where
  iff : flag = true ↔ ∃ t, raises t = true
  alone : ∀ t u, raises t = true → raises u = true → t = u

namespace Raised
variable {flag : Bool} {raises : Thread → Bool} {t : Thread}

theorem nobody (down : ∀ t, raises t = false) : Raised false raises where
  iff := ⟨nofun, fun ⟨t, up⟩ => nomatch (down t).symm.trans up⟩
  alone t _ up := nomatch (down t).symm.trans up

theorem not_raised (raised : Raised flag raises) (down : flag = false) (t : Thread) : raises t = false := by
  cases up : raises t with
  | false => rfl
  | true => exact absurd (raised.iff.mpr ⟨t, up⟩) (by simp [down])

theorem raise (raised : Raised false raises) : Raised true (assign raises t true) where
  iff := ⟨fun _ => ⟨t, assign_self ..⟩, fun _ => rfl⟩
  alone u v first second := by
    have mine (w : Thread) (up : assign raises t true w = true) : w = t := by
      refine Decidable.byContradiction fun other => ?_
      rw [assign_other _ _ other, raised.not_raised rfl w] at up
      cases up
    rw [mine u first, mine v second]

theorem lower (raised : Raised flag raises) (up : raises t = true) : Raised false (assign raises t false) := by
  refine nobody fun u => ?_
  by_cases same : u = t
  · subst same
    exact assign_self ..
  · rw [assign_other _ _ same]
    exact Bool.eq_false_iff.mpr fun other => same (raised.alone u t other up)

end Raised

/-! ## What a step leaves a thread with -/

namespace Holdings
variable {h : Holdings} {s : Step}

theorem after_claims (other : s.part ≠ some .guard) (answer : s.Reply) :
    (h.after (.step s) answer).claims = h.claims := by
  cases s <;> first | exact absurd rfl other | rfl | (cases answer <;> rfl)

theorem after_context (other : s.part ≠ some .context) (answer : s.Reply) :
    (h.after (.step s) answer).context = h.context := by
  cases s <;> first | exact absurd rfl other | rfl | (cases answer <;> rfl)

theorem after_destroys (other : s.part ≠ some .destroying) (answer : s.Reply) :
    (h.after (.step s) answer).destroys = h.destroys := by
  cases s <;> first | exact absurd rfl other | rfl | (cases answer <;> rfl)

theorem after_loops (other : s.part ≠ some .flags) (answer : s.Reply) :
    (h.after (.step s) answer).loops = h.loops := by
  cases s <;> first | exact absurd rfl other | rfl | (cases answer <;> rfl)

end Holdings

/-! ## Tallies -/

/-- What threads have of a channel, and what is in its memory. -/
structure Tallies (holdings : Thread → Holdings) (m : Shared) : Prop where
  guard : Guard.Counts (fun t => (holdings t).claims) m.state.guard
  contexts : m.contexts = fun t => (holdings t).context
  destroying : Raised m.state.destroying fun t => (holdings t).destroys
  running : Raised m.state.flags.running fun t => (holdings t).loops
  session : m.state.session.Proper

namespace Tallies
variable {holdings : Thread → Holdings} {m : Shared} {t : Thread} {s : Step}

/-- The holdings of all threads once one of them has taken a step. -/
def stepped (holdings : Thread → Holdings) (m : Shared) (t : Thread) (s : Step) : Thread → Holdings :=
  assign holdings t ((holdings t).after (.step s) (s.apply t (m.seenBy t)).1)

section
variable (tallies : Tallies holdings m)
include tallies

theorem claims_stepped (permitted : (holdings t).permits (.step s)) :
    Guard.Counts (fun u => (stepped holdings m t s u).claims) (s.apply t (m.seenBy t)).2.guard := by
  unfold stepped
  rw [assign_project Holdings.claims]
  by_cases writes : s.part = some .guard
  · cases s with
    | acquire api =>
      have same : (m.seenBy t).guard = m.state.guard := rfl
      rcases tallies.guard.acquire t api with ⟨claimed, granted, -, counted⟩ | ⟨refused, -⟩
      · simp only [Step.apply, same, granted, Step.attempt]
        exact counted
      · simp only [Step.apply, same, refused, Step.attempt]
        exact (assign_same (fun u => (holdings u).claims) t).symm ▸ tallies.guard
    | release =>
      have same : (m.seenBy t).guard = m.state.guard := rfl
      obtain ⟨freed, released, counted⟩ := tallies.guard.release permitted
      simp only [Step.apply, same, released, Step.attempt]
      exact counted
    | _ => cases writes
  · have same : (s.apply t (m.seenBy t)).2.guard = m.state.guard := s.apply_leaves writes t (m.seenBy t)
    rw [Holdings.after_claims writes, assign_same (fun u => (holdings u).claims), same]
    exact tallies.guard

theorem contexts_stepped :
    (m.leftBy t (s.apply t (m.seenBy t)).2).contexts = fun u => (stepped holdings m t s u).context := by
  have found : m.contexts t = (holdings t).context := congrFun tallies.contexts t
  unfold stepped
  rw [assign_project Holdings.context, ← tallies.contexts]
  by_cases writes : s.part = some .context
  · cases s with
    | changeContext change =>
      show assign m.contexts t ((m.contexts t).apply change) =
        assign m.contexts t ((holdings t).context.apply change)
      rw [found]
    | _ => cases writes
  · have same : (s.apply t (m.seenBy t)).2.context = m.contexts t := s.apply_leaves writes t (m.seenBy t)
    rw [Holdings.after_context writes, ← found]
    exact congrArg (assign m.contexts t) same

theorem destroying_stepped (permitted : (holdings t).permits (.step s)) :
    Raised (s.apply t (m.seenBy t)).2.destroying fun u => (stepped holdings m t s u).destroys := by
  have destroying := tallies.destroying
  unfold stepped
  rw [assign_project Holdings.destroys]
  by_cases writes : s.part = some .destroying
  · cases s with
    | lockDestroy =>
      show Raised true (assign _ t ((holdings t).after (.step .lockDestroy) (!m.state.destroying)).destroys)
      cases busy : m.state.destroying with
      | false =>
        rw [busy] at destroying
        exact destroying.raise
      | true =>
        rw [busy] at destroying
        exact (assign_same (fun u => (holdings u).destroys) t).symm ▸ destroying
    | unlockDestroy =>
      have busy : (m.seenBy t).destroying = true := destroying.iff.mpr ⟨t, permitted⟩
      simp only [Step.apply, busy, ↓reduceIte]
      exact destroying.lower permitted
    | _ => cases writes
  · have same : (s.apply t (m.seenBy t)).2.destroying = m.state.destroying :=
      s.apply_leaves writes t (m.seenBy t)
    rw [Holdings.after_destroys writes, assign_same (fun u => (holdings u).destroys), same]
    exact destroying

theorem running_stepped (permitted : (holdings t).permits (.step s)) :
    Raised (s.apply t (m.seenBy t)).2.flags.running fun u => (stepped holdings m t s u).loops := by
  have running := tallies.running
  unfold stepped
  rw [assign_project Holdings.loops]
  by_cases writes : s.part = some .flags
  · cases s with
    | tryStart =>
      show Raised m.state.flags.tryStart.2.running
        (assign _ t ((holdings t).after (.step .tryStart) m.state.flags.tryStart.1).loops)
      unfold RunFlags.tryStart
      cases busy : m.state.flags.running with
      | false =>
        rw [busy] at running
        exact running.raise
      | true =>
        rw [busy] at running
        simp only [↓reduceIte, busy]
        exact (assign_same (fun u => (holdings u).loops) t).symm ▸ running
    | finish => exact running.lower permitted
    | tryRequestStop =>
      show Raised m.state.flags.tryRequestStop.2.running
        (assign _ t ((holdings t).after (.step .tryRequestStop) m.state.flags.tryRequestStop.1).loops)
      unfold RunFlags.tryRequestStop
      split
      · exact (assign_same (fun u => (holdings u).loops) t).symm ▸ running
      · exact (assign_same (fun u => (holdings u).loops) t).symm ▸ running
    | clearStopRequest => exact (assign_same (fun u => (holdings u).loops) t).symm ▸ running
    | _ => cases writes
  · have same : (s.apply t (m.seenBy t)).2.flags = m.state.flags := s.apply_leaves writes t (m.seenBy t)
    rw [Holdings.after_loops writes, assign_same (fun u => (holdings u).loops), same]
    exact running

theorem session_stepped (permitted : (holdings t).permits (.step s)) :
    (s.apply t (m.seenBy t)).2.session.Proper := by
  have proper : (m.seenBy t).session.Proper := tallies.session
  by_cases writes : s.part = some .session
  · cases s with
    | setConsumer id api =>
      exact Step.attempt_keeps (·.session.Proper) proper fun later recorded =>
        Session.proper_setConsumer permitted.2 recorded
    | replaceTopics topics api =>
      exact Step.attempt_keeps (·.session.Proper) proper fun later recorded => proper.replaceTopics recorded
    | resetSession api =>
      exact Step.attempt_keeps (·.session.Proper) proper fun later forgotten => Session.proper_reset forgotten
    | deactivate => exact ⟨proper.named, proper.founded⟩
    | _ => cases writes
  · have same : (s.apply t (m.seenBy t)).2.session = m.state.session := s.apply_leaves writes t (m.seenBy t)
    rw [same]
    exact proper

/-- What is in the memory allows only the answers that what the thread has allows. -/
theorem allowed (permitted : (holdings t).permits (.step s)) :
    (holdings t).allows (.step s) (s.apply t (m.seenBy t)).1 := by
  cases s with
  | acquire api =>
    intro e (refusal : (Step.apply t (.acquire api) (m.seenBy t)).1 = .error e)
    have same : (m.seenBy t).guard = m.state.guard := rfl
    rcases tallies.guard.acquire t api with ⟨claimed, granted, -⟩ | ⟨refused, u, different, claimed⟩
    · simp only [Step.apply, same, granted, Step.attempt] at refusal
      cases refusal
    · simp only [Step.apply, same, refused, Step.attempt] at refusal
      exact ⟨tallies.guard.others claimed (Ne.symm different), (Except.error.inj refusal).symm⟩
  | release =>
    have same : (m.seenBy t).guard = m.state.guard := rfl
    obtain ⟨freed, released, -⟩ := tallies.guard.release permitted
    show (Step.apply t .release (m.seenBy t)).1 = .ok ()
    simp only [Step.apply, same, released, Step.attempt]
    rfl
  | context => exact congrFun tallies.contexts t
  | lockDestroy =>
    intro destroys
    have busy : m.state.destroying = true := tallies.destroying.iff.mpr ⟨t, destroys⟩
    show (!m.state.destroying) = false
    rw [busy]
    rfl
  | unlockDestroy =>
    have busy : (m.seenBy t).destroying = true := tallies.destroying.iff.mpr ⟨t, permitted⟩
    show (Step.apply t .unlockDestroy (m.seenBy t)).1 = .ok ()
    simp only [Step.apply, busy, ↓reduceIte]
    rfl
  | tryStart =>
    intro loops
    have busy : m.state.flags.running = true := tallies.running.iff.mpr ⟨t, loops⟩
    show m.state.flags.tryStart.1 = false
    simp only [RunFlags.tryStart, busy, ↓reduceIte]
  | _ => exact trivial

end

end Tallies

/-! ## Clients -/

section
variable {settings : Settings} {start crowd : Crowd Shared} {turns : List Turn}

/-- A thread that makes moves has in the end what it had before. -/
theorem obeys_client (moves : List Move) {account : Holdings} (calm : account.Calm) :
    Obeys Holdings.discipline (client settings moves) account fun _ later => later = account := by
  induction moves with
  | nil => rfl
  | cons move rest ih =>
    refine (move.balances account calm).andThen ?_
    rintro r later rfl
    exact ih

/-- What threads have and what is in the memory go on to bear each other out. -/
theorem holdings_govern (settings : Settings) : Holdings.discipline.Governs (aroundChannel settings) Tallies where
  aside permitted may := by
    obtain ⟨⟨id, batch, consumer, rfl⟩, moves, rfl⟩ := may
    exact obeys_client moves permitted.2.2
  turn := by
    intro holdings t q m answer later tallies permitted answers
    cases q with
    | outside call =>
      cases answers
      refine ⟨trivial, ?_⟩
      show Tallies (assign holdings t (holdings t)) m
      rwa [assign_same]
    | step s =>
      obtain ⟨rfl, rfl⟩ := answers
      exact ⟨tallies.allowed permitted, {
        guard := tallies.claims_stepped permitted
        contexts := tallies.contexts_stepped
        destroying := tallies.destroying_stepped permitted
        running := tallies.running_stepped permitted
        session := tallies.session_stepped permitted }⟩

/-- What each thread has of a channel that threads gathered around. -/
def holdings (start : Crowd Shared) (turns : List Turn) : Thread → Holdings :=
  Holdings.discipline.accounts (fun t => .none (start.memory.contexts t)) turns

/-- Threads that gather around a new channel have nothing of it. -/
theorem Gathers.tallies_nothing (gathers : Gathers settings start) :
    Tallies (fun t => .none (start.memory.contexts t)) start.memory := by
  obtain ⟨context, transport, fresh⟩ := gathers.fresh
  exact {
    guard := by
      rw [fresh]
      exact .free fun _ => rfl
    contexts := rfl
    destroying := by
      rw [fresh]
      exact .nobody fun _ => rfl
    running := by
      rw [fresh]
      exact .nobody fun _ => rfl
    session := by
      rw [fresh]
      exact ⟨nofun, fun _ => rfl⟩ }

theorem Gathers.obeys (gathers : Gathers settings start) (t : Thread) :
    Obeys Holdings.discipline (start.programs t) (.none (start.memory.contexts t)) fun _ _ => True := by
  obtain ⟨moves, same⟩ := gathers.clients t
  rw [same]
  have calm : (Holdings.none (start.memory.contexts t)).Calm := rfl
  exact (obeys_client moves calm).weaken fun _ _ _ => trivial

/-- In a gathering, what threads have and what is in the memory bear each other out at every moment. -/
theorem Gathers.tallies (gathers : Gathers settings start)
    (runs : Crowd.Runs (aroundChannel settings) start turns crowd) :
    Tallies (holdings start turns) crowd.memory :=
  ((holdings_govern settings).runs gathers.tallies_nothing gathers.obeys runs).1

/-- In a gathering, a thread takes only turns that what it has permits. -/
theorem Gathers.permitted (gathers : Gathers settings start)
    (runs : Crowd.Runs (aroundChannel settings) start turns crowd) {turn : Turn} {later : Crowd Shared}
    (takes : crowd.Takes (aroundChannel settings) turn later) :
    (holdings start turns turn.thread).permits turn.query :=
  (holdings_govern settings).permitted gathers.tallies_nothing gathers.obeys runs takes

/-- A memory that threads can bring a new channel to, whatever they call and however their turns fall, as one of them
has it. -/
def State.Attained (settings : Settings) (caller : Thread) (m : State) : Prop :=
  ∃ start turns crowd, Gathers settings start ∧ Crowd.Runs (aroundChannel settings) start turns crowd ∧
    m = crowd.memory.seenBy caller

theorem State.Attained.proper {m : State} {caller : Thread} (attained : m.Attained settings caller) :
    m.session.Proper := by
  obtain ⟨start, turns, crowd, gathers, runs, rfl⟩ := attained
  exact (gathers.tallies runs).session

/-- Threads can gather around a new channel and do nothing. -/
theorem attained_start (settings : Settings) (caller : Thread) (transport : Nat) :
    (Chronicle.start transport).memory.Attained settings caller :=
  ⟨⟨⟨(Chronicle.start transport).memory, fun _ => .empty⟩, fun _ => client settings []⟩, [], _,
    ⟨⟨.empty, transport, rfl⟩, fun _ => ⟨[], rfl⟩⟩, .start, rfl⟩

/-! ## Schedules -/

/-- Everything outside is granted; every answer names a consumer and has no records, and no callback wishes to go
on. -/
def obliging : (call : Outside) → call.Reply :=
  (Surroundings.scripted [.ok (some "\x7b\"consumerInstanceId\": \"c\", \"records\": []\x7d")] []
    (.ok (.bool false))).reply []

/-- Turns that one thread takes alone, what they leave of the memory, and what they leave of its program. -/
structure Stretch (α : Type) where
  turns : List Turn
  memory : Shared
  left : Program Query Query.Answer α

/-- A thread takes so many turns alone, or as many as its program has, with calls to the outside answered as
given. -/
def solo (reply : (call : Outside) → call.Reply) (t : Thread) :
    Nat → Program Query Query.Answer α → Shared → Stretch α
  | 0, program, m => ⟨[], m, program⟩
  | _ + 1, .done a, m => ⟨[], m, .done a⟩
  | n + 1, .ask (.step s) next, m =>
    let answered := s.apply t (m.seenBy t)
    let rest := solo reply t n (next answered.1) (m.leftBy t answered.2)
    { rest with turns := ⟨t, .step s, answered.1⟩ :: rest.turns }
  | n + 1, .ask (.outside call) next, m =>
    let rest := solo reply t n (next (reply call)) m
    { rest with turns := ⟨t, .outside call, reply call⟩ :: rest.turns }

/-- Threads take stretches of turns by a schedule. -/
def drive (reply : (call : Outside) → call.Reply) : List (Thread × Nat) → Crowd Shared → List Turn × Crowd Shared
  | [], crowd => ([], crowd)
  | (t, n) :: rest, crowd =>
    let stretch := solo reply t n (crowd.programs t) crowd.memory
    let driven := drive reply rest ⟨stretch.memory, assign crowd.programs t stretch.left⟩
    (stretch.turns ++ driven.1, driven.2)

section
variable (reply : (call : Outside) → call.Reply) (n : Nat)

theorem leaves_solo (program : Program Query Query.Answer α) (m : Shared) :
    Leaves (solo reply t n program m).turns program (solo reply t n program m).left := by
  induction n generalizing program m with
  | zero => rfl
  | succ n ih =>
    match program with
    | .done a => exact rfl
    | .ask (.step s) next => exact ⟨t, _, rfl, ih _ _⟩
    | .ask (.outside call) next => exact ⟨t, _, rfl, ih _ _⟩

/-- A program comes to its end if it is always answered. -/
theorem solo_ends (program : Program Query Query.Answer α) (m : Shared) :
    ∃ n a, (solo reply t n program m).left = .done a := by
  induction program generalizing m with
  | done a => exact ⟨0, a, rfl⟩
  | ask q next ih =>
    cases q with
    | step s =>
      obtain ⟨n, a, ended⟩ := ih (s.apply t (m.seenBy t)).1 (m.leftBy t (s.apply t (m.seenBy t)).2)
      exact ⟨n + 1, a, ended⟩
    | outside call =>
      obtain ⟨n, a, ended⟩ := ih (reply call) m
      exact ⟨n + 1, a, ended⟩

theorem thread_solo (program : Program Query Query.Answer α) (m : Shared) :
    ∀ turn ∈ (solo reply t n program m).turns, turn.thread = t := by
  induction n generalizing program m with
  | zero => exact List.forall_mem_nil _
  | succ n ih =>
    match program with
    | .done a => exact List.forall_mem_nil _
    | .ask (.step s) next => exact List.forall_mem_cons.mpr ⟨rfl, ih _ _⟩
    | .ask (.outside call) next => exact List.forall_mem_cons.mpr ⟨rfl, ih _ _⟩

/-- In a stretch, calls to the outside are answered as given. -/
theorem answer_solo (program : Program Query Query.Answer α) (m : Shared) {u : Thread} {call : Outside}
    {answer : call.Reply} (taken : (⟨u, .outside call, answer⟩ : Turn) ∈ (solo reply t n program m).turns) :
    answer = reply call := by
  induction n generalizing program m with
  | zero => cases taken
  | succ n ih =>
    match program with
    | .done a => cases taken
    | .ask (.step s) next =>
      rcases List.mem_cons.mp taken with ⟨⟨⟩⟩ | further
      exact ih _ _ further
    | .ask (.outside call) next =>
      rcases List.mem_cons.mp taken with ⟨⟨⟩⟩ | further
      · rfl
      · exact ih _ _ further

theorem own_solo (program : Program Query Query.Answer α) (m : Shared) :
    own t (solo reply t n program m).turns = (solo reply t n program m).turns :=
  List.filter_eq_self.mpr fun turn taken => beq_iff_eq.mpr (thread_solo reply n program m turn taken)

theorem own_solo_other {u : Thread} (other : t ≠ u) (program : Program Query Query.Answer α) (m : Shared) :
    own u (solo reply t n program m).turns = [] :=
  List.filter_eq_nil_iff.mpr fun turn taken same =>
    other ((thread_solo reply n program m turn taken).symm.trans (beq_iff_eq.mp same))

/-- A stretch is a run. -/
theorem runs_solo {program : Program Query Query.Answer α} {next : α → Program Query Query.Answer Unit}
    (goes : crowd.programs t = program >>= next) :
    Crowd.Runs (aroundChannel settings) crowd (solo reply t n program crowd.memory).turns
      ⟨(solo reply t n program crowd.memory).memory,
        assign crowd.programs t ((solo reply t n program crowd.memory).left >>= next)⟩ := by
  induction n generalizing crowd program with
  | zero =>
    unfold solo
    rw [← goes, assign_same]
    exact .start
  | succ n ih =>
    match program with
    | .done a =>
      unfold solo
      rw [← goes, assign_same]
      exact .start
    | .ask (.step s) rest =>
      let between : Crowd Shared := ⟨crowd.memory.leftBy t (s.apply t (crowd.memory.seenBy t)).2,
        assign crowd.programs t (rest (s.apply t (crowd.memory.seenBy t)).1 >>= next)⟩
      have takes : crowd.Takes (aroundChannel settings) ⟨t, .step s, (s.apply t (crowd.memory.seenBy t)).1⟩
          between := ⟨⟨fun answer => rest answer >>= next, goes, rfl⟩, rfl, rfl⟩
      have onward : Crowd.Runs (aroundChannel settings) between _ _ := ih (assign_self ..)
      have whole := (Crowd.Runs.turn .start takes).trans onward
      rwa [assign_assign] at whole
    | .ask (.outside call) rest =>
      let between : Crowd Shared := ⟨crowd.memory, assign crowd.programs t (rest (reply call) >>= next)⟩
      have takes : crowd.Takes (aroundChannel settings) ⟨t, .outside call, reply call⟩ between :=
        ⟨⟨fun answer => rest answer >>= next, goes, rfl⟩, rfl⟩
      have onward : Crowd.Runs (aroundChannel settings) between _ _ := ih (assign_self ..)
      have whole := (Crowd.Runs.turn .start takes).trans onward
      rwa [assign_assign] at whole

theorem bind_done (program : Program Query Query.Answer α) : program >>= .done = program := by
  show program.andThen .done = program
  induction program with
  | done a => rfl
  | ask q next ih => exact congrArg (Program.ask q) (funext ih)

/-- A schedule is a run. -/
theorem runs_drive (schedule : List (Thread × Nat)) (crowd : Crowd Shared) :
    Crowd.Runs (aroundChannel settings) crowd (drive reply schedule crowd).1 (drive reply schedule crowd).2 := by
  induction schedule generalizing crowd with
  | nil => exact .start
  | cons stretch rest ih =>
    obtain ⟨t, n⟩ := stretch
    have first : Crowd.Runs (aroundChannel settings) crowd _ _ :=
      runs_solo reply n (bind_done (crowd.programs t)).symm
    rw [bind_done] at first
    exact first.trans (ih _)

end

/-- Whether an operation has come to a good end. -/
def Stretch.succeeds (stretch : Stretch (Except Failure Unit)) : Bool :=
  match stretch.left with
  | .done (.ok _) => true
  | _ => false

theorem Stretch.left_of_succeeds {stretch : Stretch (Except Failure Unit)} (succeeds : stretch.succeeds = true) :
    stretch.left = .done (.ok ()) := by
  unfold Stretch.succeeds at succeeds
  split at succeeds
  · assumption
  · cases succeeds

/-- Whether an operation waits for its callback. -/
def Stretch.callsBack (stretch : Stretch α) : Bool :=
  match stretch.left with
  | .ask (.outside (.callback _ _ _)) _ => true
  | _ => false

theorem Stretch.left_of_callsBack {stretch : Stretch α} (callsBack : stretch.callsBack = true) :
    ∃ id batch consumer further, stretch.left = .ask (.outside (.callback id batch consumer)) further := by
  unfold Stretch.callsBack at callsBack
  split at callsBack
  · exact ⟨_, _, _, _, ‹_›⟩
  · cases callsBack

section
variable {reply : (call : Outside) → call.Reply} {t u : Thread} {m : Shared} {k n l : Nat} {a : α}
  {program : Program Query Query.Answer α} {between : Program Query Query.Answer β} {first last : Stretch α}
  {middle : Stretch β}

/-- A thread carries its program out on its own. -/
theorem carriesOut_solo (goes : first = solo reply t k program m) (ended : first.left = .done a)
    (begun : first.turns ≠ []) : CarriesOut t program a first.turns := by
  have mine : ∀ turn ∈ first.turns, turn.thread = t := by
    rw [goes]
    exact thread_solo _ _ _ _
  refine ⟨head_of_mine mine begun, last_of_mine mine begun, ?_⟩
  rw [← ended, goes, own_solo]
  exact leaves_solo ..

/-- A thread carries its program out over the turns of another one. -/
theorem carriesOut_interrupted (other : u ≠ t) (begins : first = solo reply t k program m)
    (breaks : middle = solo reply u l between first.memory)
    (resumes : last = solo reply t n first.left middle.memory) (ended : last.left = .done a)
    (begun : first.turns ≠ []) (resumed : last.turns ≠ []) :
    CarriesOut t program a (first.turns ++ middle.turns ++ last.turns) := by
  have firstMine : ∀ turn ∈ first.turns, turn.thread = t := by
    rw [begins]
    exact thread_solo _ _ _ _
  have lastMine : ∀ turn ∈ last.turns, turn.thread = t := by
    rw [resumes]
    exact thread_solo _ _ _ _
  have mine : own t (first.turns ++ middle.turns ++ last.turns) = first.turns ++ last.turns := by
    rw [begins, breaks, resumes, own_append, own_append, own_solo, own_solo_other _ _ other, own_solo,
      List.append_nil]
  have leaves : Leaves first.turns program first.left := by
    rw [begins]
    exact leaves_solo ..
  constructor
  · have head := head_of_mine firstMine begun
    obtain ⟨turn, found, mine⟩ := Option.map_eq_some_iff.mp head
    simp [List.head?_append, found, mine]
  · have last := last_of_mine lastMine resumed
    obtain ⟨turn, found, mine⟩ := Option.map_eq_some_iff.mp last
    simp [List.getLast?_append, found, mine]
  · rw [mine, ← ended]
    refine leaves.trans ?_
    rw [resumes]
    exact leaves_solo ..

/-- One thread takes turns, then another one, and then the first goes on. -/
theorem runs_interrupted {next : α → Program Query Query.Answer Unit}
    {after : β → Program Query Query.Answer Unit} (other : u ≠ t)
    (begins : first = solo reply t k program crowd.memory) (breaks : middle = solo reply u l between first.memory)
    (resumes : last = solo reply t n first.left middle.memory) (mine : crowd.programs t = program >>= next)
    (theirs : crowd.programs u = between >>= after) :
    ∃ later, Crowd.Runs (aroundChannel settings) crowd (first.turns ++ middle.turns ++ last.turns) later ∧
      later.memory = last.memory := by
  have begun : Crowd.Runs (aroundChannel settings) crowd _ _ := runs_solo reply k mine
  rw [← begins] at begun
  have onward : Crowd.Runs (aroundChannel settings) _ _ _ :=
    begun.trans (runs_solo reply l ((assign_other _ _ other).trans theirs))
  rw [← breaks] at onward
  have whole : Crowd.Runs (aroundChannel settings) _ _ _ :=
    onward.trans (runs_solo reply n ((assign_other _ _ (Ne.symm other)).trans (assign_self ..)))
  rw [← resumes] at whole
  exact ⟨_, whole, rfl⟩

end

end

end Channel

end ConsumerChannel
