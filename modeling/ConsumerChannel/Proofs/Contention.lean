import ConsumerChannel.Proofs.Calls
import ConsumerChannel.Proofs.Conduct

/-! Contention. While one thread has the guard, every operation of another one is refused at its first question,
before it looks at anything that it was given. Destroying the channel asks more than one question, but as long as
another thread has the guard and no loop runs it is refused too, and gives up the one thing that it has claimed. -/
namespace ConsumerChannel

namespace Guard
variable {g : Guard} {caller : Thread}

/-- Another thread has the guard. -/
def ClosedTo (g : Guard) (caller : Thread) : Prop := ∃ owner, g.owner = some owner ∧ owner ≠ caller

theorem ClosedTo.acquire (closed : g.ClosedTo caller) (api : Option String) :
    g.acquire caller api = .error (.transient contentionMessage api) := by
  obtain ⟨owner, owned, other⟩ := closed
  simp [Guard.acquire, owned, other]

end Guard

namespace Channel
open Operation

/-- The failure of an operation that another thread keeps out. -/
def contention (api : String) : Failure := .transient contentionMessage (some api)

/-- Two memories are the same to every thread. -/
def Shared.SameToAll (m later : Shared) : Prop := ∀ t, later.seenBy t = m.seenBy t

/-- Whenever the thread takes a turn, another thread has the guard and no loop runs. -/
def Besieged (settings : Settings) (t : Thread) (middle : Crowd Shared) (turns : List Turn) : Prop :=
  ∀ past turn rest between, turns = past ++ turn :: rest → turn.thread = t →
    Crowd.Runs (aroundChannel settings) middle past between →
      between.memory.state.guard.ClosedTo t ∧ between.memory.state.flags.running = false

section
variable {settings : Settings} {start middle crowd : Crowd Shared} {before turns : List Turn} {t : Thread}
  {m : Shared}

/-! ## Operations under the guard -/

/-- A thread that leaves its context as it was changes nobody's. -/
theorem Shared.leftBy_of_context {left : State} (same : left.context = m.contexts t) :
    m.leftBy t left = ⟨left, m.contexts⟩ := by
  show (⟨left, assign m.contexts t left.context⟩ : Shared) = _
  rw [same, assign_same]

theorem Shared.sameToAll_leftBy (m : Shared) (t : Thread) : m.SameToAll (m.leftBy t (m.seenBy t)) := by
  rw [Shared.leftBy_of_context rfl]
  exact fun _ => rfl

/-- A claim of a guard that another thread has is refused, and leaves no trace. -/
theorem apply_acquire_closed (closed : m.state.guard.ClosedTo t) (api : Option String) :
    Step.apply t (.acquire api) (m.seenBy t) = (.error (.transient contentionMessage api), m.seenBy t) := by
  have same : (m.seenBy t).guard = m.state.guard := rfl
  simp only [Step.apply, same, closed.acquire, Step.attempt]
  rfl

/-- An operation that begins with a claim of the guard is over with the claim if another thread has it. -/
private theorem solo_of_acquire (closed : m.state.guard.ClosedTo t) (reply : (call : Outside) → call.Reply)
    {api : String} {next : Except Failure Unit → Program Query Query.Answer (Except Failure Unit)}
    (refused : ∀ e, next (.error e) = .done (.error e)) :
    solo reply t 1 (.ask (.step (.acquire (some api))) next) m =
      ⟨[⟨t, .step (.acquire (some api)), .error (contention api)⟩], m.leftBy t (m.seenBy t),
        .done (.error (contention api))⟩ := by
  have taken := apply_acquire_closed closed (some api)
  simp only [solo, taken, refused]
  rfl

/-- Every operation but stopping and destroying begins with a claim of the guard in its own name. -/
theorem solo_of_refusedAs (closed : m.state.guard.ClosedTo t) (reply : (call : Outside) → call.Reply)
    {move : Move} {api : String} (named : move.refusedAs = some api) :
    solo reply t 1 (move.operation settings).run m =
      ⟨[⟨t, .step (.acquire (some api)), .error (contention api)⟩], m.leftBy t (m.seenBy t),
        .done (.error (contention api))⟩ := by
  cases move with
  | stop rounds => cases named
  | destroy rounds => cases named
  | _ =>
    cases named
    exact solo_of_acquire closed reply fun _ => rfl

/-! ## Destroying -/

/-- How far an attempt to destroy the channel has come. -/
inductive Attempt where
  | untried
  /-- The right to destroy the channel is claimed. -/
  | claimed
  /-- The right is given up again. -/
  | finished

/-- What an attempt to destroy an active channel asks, and is answered, as long as another thread has the guard and
no loop runs. -/
def besieging : Discipline Attempt where
  permits attempt
    | .step .lockDestroy => attempt = .untried
    | .step .session | .step .flags | .step (.acquire _) | .step .unlockDestroy => attempt = .claimed
    | _ => False
  allows _
    | .step .lockDestroy, free => free = true
    | .step .session, s => s.active = true
    | .step .flags, flags => flags.running = false
    | .step (.acquire api), r => r = .error (.transient contentionMessage api)
    | .step .unlockDestroy, r => r = .ok ()
    | _, _ => True
  after attempt
    | .step .lockDestroy, _ => .claimed
    | .step .unlockDestroy, _ => .finished
    | _, _ => attempt

/-- Only giving the right up ends an attempt. -/
theorem unlocks_of_finished {attempt : Attempt} {q : Query} {answer : q.Answer}
    (permitted : besieging.permits attempt q) (finished : besieging.after attempt q answer = .finished) :
    q = .step .unlockDestroy ∧ attempt = .claimed := by
  cases q with
  | outside call => exact permitted.elim
  | step s =>
    cases s with
    | unlockDestroy => exact ⟨rfl, permitted⟩
    | lockDestroy => cases finished
    | session | flags | acquire api => exact nomatch (show attempt = .claimed from permitted).symm.trans finished
    | _ => exact permitted.elim

/-- An attempt to destroy the channel ends with the refusal to delete the consumer, and with the right given up. -/
theorem obeys_destroy_besieged (rounds : Nat) :
    Obeys besieging (destroy settings rounds).run .untried fun r attempt =>
      r = .error (contention Api.delete.name) ∧ attempt = .finished := by
  have stops : Obeys besieging (stop settings rounds).run .claimed fun r attempt =>
      r = .ok () ∧ attempt = .claimed := by
    refine .step_bind rfl fun (flags : RunFlags) (idle : flags.running = false) => ?_
    simp only [idle, Bool.not_false, ↓reduceIte]
    exact ⟨rfl, rfl⟩
  have deletes : Obeys besieging (delete settings).run .claimed fun r attempt =>
      r = .error (contention Api.delete.name) ∧ attempt = .claimed := by
    refine ⟨rfl, ?_⟩
    rintro answer ⟨⟩
    exact ⟨rfl, rfl⟩
  refine .step_bind rfl fun (free : Bool) (vacant : free = true) => ?_
  subst vacant
  refine Obeys.ensuring (?_ : Obeys _ _ _ fun r attempt =>
    r = .error (contention Api.delete.name) ∧ attempt = .claimed) ?_
  · refine .step_bind rfl fun (s : Session String Value) (active : s.active = true) => ?_
    simp only [active, ↓reduceIte]
    refine stops.bind ?_ ?_
    · rintro - later ⟨-, rfl⟩
      refine deletes.bind ?_ ?_
      · rintro - later ⟨⟨⟩, -⟩
      · rintro e later ⟨⟨⟩, rfl⟩
        exact ⟨rfl, rfl⟩
    · rintro e later ⟨⟨⟩, -⟩
  · rintro r later ⟨rfl, rfl⟩
    refine ⟨rfl, ?_⟩
    rintro answer ⟨⟩
    exact ⟨fun _ => ⟨rfl, rfl⟩, nofun⟩

/-- Every step but deactivating the channel leaves it as active as it was. -/
theorem active_of_step {u : Thread} {s : Step} {answer : (Query.step s).Answer} {later : Crowd Shared}
    (takes : crowd.Takes (aroundChannel settings) ⟨u, .step s, answer⟩ later) (other : s ≠ .deactivate) :
    later.memory.state.session.active = crowd.memory.state.session.active := by
  rw [← takes.answers.2]
  exact s.active_apply other u (crowd.memory.seenBy u)

/-- While a thread has the right to destroy the channel, no other one deactivates it. -/
theorem active_of_turn (gathers : Gathers settings start)
    (runs : Crowd.Runs (aroundChannel settings) start turns crowd) {turn : Turn} {later : Crowd Shared}
    (takes : crowd.Takes (aroundChannel settings) turn later) (destroys : (holdings start turns t).destroys = true)
    (keeps : turn.thread = t → turn.query ≠ .step .deactivate)
    (active : crowd.memory.state.session.active = true) : later.memory.state.session.active = true := by
  obtain ⟨u, q, answer⟩ := turn
  cases q with
  | outside call =>
    have same : later.memory = crowd.memory := takes.answers
    rwa [same]
  | step s =>
    have permitted := gathers.permitted runs takes
    refine (active_of_step takes ?_).trans active
    rintro rfl
    exact keeps ((gathers.tallies runs).destroying.alone u t permitted destroys) rfl

/-- What an attempt to destroy the channel has come to at a moment in its midst. -/
structure Attempting (start : Crowd Shared) (t : Thread) (before turns : List Turn) (attempt : Attempt)
    (m : Shared) : Prop where
  untried : attempt = .untried → turns = []
  claimed : attempt = .claimed → (holdings start (before ++ turns) t).destroys = true
  active : attempt ≠ .finished → m.state.session.active = true

theorem Attempting.destroys {attempt : Attempt} (attempting : Attempting start t before turns attempt m)
    (begun : turns ≠ []) (going : attempt ≠ .finished) : (holdings start (before ++ turns) t).destroys = true := by
  cases attempt with
  | untried => exact absurd (attempting.untried rfl) begun
  | claimed => exact attempting.claimed rfl
  | finished => exact absurd rfl going

theorem holdings_snoc (q : Query) (answer : q.Answer) :
    holdings start (before ++ (turns ++ [⟨t, q, answer⟩])) = assign (holdings start (before ++ turns)) t
      (Holdings.discipline.after (holdings start (before ++ turns) t) q answer) := by
  rw [← List.append_assoc]
  exact accounts_snoc q answer

theorem holdings_own (q : Query) (answer : q.Answer) :
    holdings start (before ++ (turns ++ [⟨t, q, answer⟩])) t = (holdings start (before ++ turns) t).after q answer := by
  rw [holdings_snoc, assign_self]
  rfl

/-- A step in the midst of an attempt leaves the thread with the right to destroy the channel. -/
theorem Attempting.between {s : Step} {answer : (Query.step s).Answer} {later : Crowd Shared}
    (attempting : Attempting start t before turns .claimed crowd.memory)
    (takes : crowd.Takes (aroundChannel settings) ⟨t, .step s, answer⟩ later) (other : s ≠ .deactivate)
    (apart : s.part ≠ some .destroying) :
    Attempting start t before (turns ++ [⟨t, .step s, answer⟩]) .claimed later.memory := by
  refine ⟨nofun, fun _ => ?_, fun going => (active_of_step takes other).trans (attempting.active going)⟩
  rw [holdings_own]
  exact (Holdings.after_destroys apart answer).trans (attempting.claimed rfl)

/-- A turn of the attempt itself is answered as expected, as long as another thread has the guard and no loop
runs. -/
theorem Attempting.own_turn {attempt : Attempt} {q : Query} {answer : q.Answer} {later : Crowd Shared}
    (attempting : Attempting start t before turns attempt crowd.memory) (gathers : Gathers settings start)
    (runs : Crowd.Runs (aroundChannel settings) start (before ++ turns) crowd)
    (takes : crowd.Takes (aroundChannel settings) ⟨t, q, answer⟩ later)
    (permitted : besieging.permits attempt q) (free : turns = [] → crowd.memory.state.destroying = false)
    (closed : crowd.memory.state.guard.ClosedTo t) (idle : crowd.memory.state.flags.running = false) :
    besieging.allows attempt q answer ∧
      Attempting start t before (turns ++ [⟨t, q, answer⟩]) (besieging.after attempt q answer) later.memory := by
  cases q with
  | outside call => exact permitted.elim
  | step s =>
    have answered : (s.apply t (crowd.memory.seenBy t)).1 = answer := takes.answers.1
    cases s with
    | lockDestroy =>
      have first : attempt = .untried := permitted
      have vacant : (!crowd.memory.state.destroying) = true := by
        rw [free (attempting.untried first)]
        rfl
      have granted : answer = true := answered.symm.trans vacant
      have claims : ((holdings start (before ++ turns) t).after (.step .lockDestroy) answer).destroys = true := by
        rw [granted]
        rfl
      refine ⟨granted, nofun, fun _ => ?_, fun _ => ?_⟩
      · rw [holdings_own]
        exact claims
      · exact (active_of_step takes nofun).trans (attempting.active (by simp [first]))
    | session =>
      cases (permitted : attempt = .claimed)
      refine ⟨?_, attempting.between takes nofun nofun⟩
      subst answered
      exact attempting.active nofun
    | flags =>
      cases (permitted : attempt = .claimed)
      refine ⟨?_, attempting.between takes nofun nofun⟩
      subst answered
      exact idle
    | acquire api =>
      cases (permitted : attempt = .claimed)
      refine ⟨?_, attempting.between takes nofun nofun⟩
      subst answered
      exact congrArg Prod.fst (apply_acquire_closed closed api)
    | unlockDestroy =>
      refine ⟨?_, nofun, nofun, fun going => absurd rfl going⟩
      have granted := gathers.permitted runs takes
      subst answered
      exact (gathers.tallies runs).allowed granted
    | _ => exact permitted.elim

/-- A channel is besieged during the first turns if it is during all of them. -/
theorem Besieged.init {more : List Turn} (besieged : Besieged settings t middle (turns ++ more)) :
    Besieged settings t middle turns := fun past turn rest between same mine within =>
  besieged past turn (rest ++ more) between (by simp [same]) mine within

theorem begins_init {more : List Turn} (begins : ∀ turn, (turns ++ more).head? = some turn → turn.thread = t) :
    ∀ turn, turns.head? = some turn → turn.thread = t := fun turn head =>
  begins turn (by simp [List.head?_append, head])

/-- Whatever other threads do meanwhile, an attempt to destroy a besieged channel is answered as expected. -/
private theorem attempting_of_runs {program : Program Query Query.Answer (Except Failure Unit)}
    {post : Except Failure Unit → Attempt → Prop} (gathers : Gathers settings start)
    (reached : Crowd.Runs (aroundChannel settings) start before middle)
    (active : middle.memory.state.session.active = true) (free : middle.memory.state.destroying = false)
    (obeys : Obeys besieging program .untried post)
    (goes : Crowd.Runs (aroundChannel settings) middle turns crowd)
    (begins : ∀ turn, turns.head? = some turn → turn.thread = t)
    (besieged : Besieged settings t middle turns)
    {left : Program Query Query.Answer (Except Failure Unit)} (leaves : Leaves (own t turns) program left) :
    besieging.Allowed .untried (own t turns) ∧
      Obeys besieging left (besieging.account .untried (own t turns)) post ∧
      Attempting start t before turns (besieging.account .untried (own t turns)) crowd.memory := by
  -- By induction on the turns, those of other threads included; a turn of the attempt asks what it may.
  induction goes generalizing left with
  | start =>
    cases leaves
    exact ⟨trivial, obeys, fun _ => rfl, nofun, fun _ => active⟩
  | aside runs digresses ih =>
    rw [digresses.memory]
    exact ih begins besieged leaves
  | @turn turns crowd turn later runs takes ih =>
    obtain ⟨u, q, answer⟩ := turn
    rw [own_append] at leaves ⊢
    obtain ⟨program, first, second⟩ := leaves.split
    obtain ⟨allowed, asks, attempting⟩ := ih (begins_init begins) besieged.init first
    by_cases mine : u = t
    · subst mine
      rw [own_mine] at second ⊢
      rw [account_append]
      cases program with
      | done r => exact second.elim
      | ask asked next =>
        obtain ⟨_, _, ⟨⟩, rfl⟩ := second
        obtain ⟨closed, idle⟩ := besieged turns ⟨u, q, answer⟩ [] crowd rfl rfl runs
        have vacant : turns = [] → crowd.memory.state.destroying = false := fun none => by
          rwa [runs.memory_of_none none]
        obtain ⟨allows, onward⟩ := attempting.own_turn gathers (reached.trans runs) takes asks.1 vacant closed idle
        exact ⟨allowed_append.mpr ⟨allowed, allows, trivial⟩, asks.2 answer allows, onward⟩
    · rw [own_other mine, List.append_nil] at leaves ⊢
      obtain ⟨-, asks, -⟩ := ih (begins_init begins) besieged.init leaves
      have begun : turns ≠ [] := by
        rintro rfl
        exact mine (begins _ rfl)
      have same : holdings start (before ++ (turns ++ [⟨u, q, answer⟩])) t = holdings start (before ++ turns) t := by
        rw [holdings_snoc, assign_other _ _ (Ne.symm mine)]
      refine ⟨allowed, asks, fun untried => absurd (attempting.untried untried) begun, fun claimed => ?_,
        fun going => ?_⟩
      · rw [same]
        exact attempting.claimed claimed
      · exact active_of_turn gathers (reached.trans runs) takes (attempting.destroys begun going)
          (fun same => absurd same mine) (attempting.active going)

/-- An attempt to destroy a besieged channel calls nothing outside. -/
private theorem steps_of_destroy_besieged {rounds : Nat} {r : Except Failure Unit}
    (carries : CarriesOut t (destroy settings rounds).run r turns)
    (allowed : besieging.Allowed .untried (own t turns)) : ∀ turn ∈ own t turns, ∃ s, turn.query = .step s := by
  have asks : ∀ turn ∈ own t turns, ∃ attempt, besieging.permits attempt turn.query := by
    have advances : Advances (aroundChannel settings) t (own t turns) _ _ :=
      carries.leaves.advances fun turn taken => beq_iff_eq.mp (List.mem_filter.mp taken).2
    refine (obeys_destroy_besieged rounds).permits_turns ?_ advances allowed
    rintro _ _ _ permitted ⟨⟨id, batch, consumer, rfl⟩, -⟩
    exact permitted
  intro turn taken
  obtain ⟨attempt, permitted⟩ := asks turn taken
  cases asked : turn.query with
  | step s => exact ⟨s, rfl⟩
  | outside call =>
    rw [asked] at permitted
    exact permitted.elim

/-- Giving up the right to destroy the channel frees it for anybody, and changes no session. -/
private theorem unlockDestroy_of_takes {answer : Except Failure Unit} {later : Crowd Shared}
    (takes : crowd.Takes (aroundChannel settings) ⟨t, .step .unlockDestroy, answer⟩ later)
    (destroying : crowd.memory.state.destroying = true) :
    later.memory.state.session = crowd.memory.state.session ∧ later.memory.state.destroying = false := by
  have ends : crowd.memory.leftBy t (Step.apply t .unlockDestroy (crowd.memory.seenBy t)).2 = later.memory :=
    takes.answers.2
  have busy : (crowd.memory.seenBy t).destroying = true := destroying
  have unlocked : Step.apply t .unlockDestroy (crowd.memory.seenBy t) =
      (.ok (), (crowd.memory.seenBy t).locked false) := by
    simp only [Step.apply, busy, ↓reduceIte]
    rfl
  rw [← ends, unlocked]
  exact ⟨rfl, rfl⟩

/-- An attempt to destroy a besieged channel fails for the guard, leaves the channel active and gives up the right
that it has claimed; it calls nothing outside. -/
private theorem destruction_besieged {rounds : Nat} {r : Except Failure Unit} (gathers : Gathers settings start)
    (reached : Crowd.Runs (aroundChannel settings) start before middle)
    (active : middle.memory.state.session.active = true) (free : middle.memory.state.destroying = false)
    (goes : Crowd.Runs (aroundChannel settings) middle turns crowd)
    (carries : CarriesOut t (destroy settings rounds).run r turns) (besieged : Besieged settings t middle turns) :
    r = .error (contention Api.delete.name) ∧ crowd.memory.state.session.active = true ∧
      crowd.memory.state.destroying = false ∧ ∀ turn ∈ own t turns, ∃ s, turn.query = .step s := by
  have begins : ∀ turn, turns.head? = some turn → turn.thread = t := fun turn head => by
    simpa [head] using carries.begins
  obtain ⟨allowed, -, -⟩ := attempting_of_runs gathers reached active free (obeys_destroy_besieged rounds) goes
    begins besieged carries.leaves
  have steps := steps_of_destroy_besieged carries allowed
  -- The last turn of the attempt is the last of all, and what comes before it is an attempt under way.
  obtain ⟨q, answer, past, rfl⟩ := carries.last
  obtain ⟨between, later, runs, takes, same⟩ := goes.last
  have leaves := carries.leaves
  rw [own_append, own_mine] at leaves
  obtain ⟨program, first, second⟩ := leaves.split
  obtain ⟨-, obeys, attempting⟩ := attempting_of_runs gathers reached active free (obeys_destroy_besieged rounds)
    runs (begins_init begins) besieged.init first
  cases program with
  | done r => exact second.elim
  | ask asked next =>
    obtain ⟨_, _, ⟨⟩, left⟩ := second
    obtain ⟨closed, idle⟩ := besieged past ⟨t, q, answer⟩ [] between rfl rfl runs
    have vacant : past = [] → between.memory.state.destroying = false := fun none => by
      rwa [runs.memory_of_none none]
    obtain ⟨allows, -⟩ := attempting.own_turn gathers (reached.trans runs) takes obeys.1 vacant closed idle
    have ended := obeys.2 answer allows
    rw [left] at ended
    obtain ⟨refused, finished⟩ := ended
    obtain ⟨rfl, claimed⟩ := unlocks_of_finished obeys.1 finished
    have destroying : between.memory.state.destroying = true :=
      (gathers.tallies (reached.trans runs)).destroying.iff.mpr ⟨t, attempting.claimed claimed⟩
    obtain ⟨unchanged, given⟩ := unlockDestroy_of_takes takes destroying
    rw [← same, unchanged]
    exact ⟨refused, attempting.active (by simp [claimed]), given, steps⟩

/-- Alone, an attempt to destroy a besieged channel is over after five turns. -/
private theorem solo_destroy_besieged (closed : m.state.guard.ClosedTo t) (reply : (call : Outside) → call.Reply)
    (rounds : Nat) (active : m.state.session.active = true) (idle : m.state.flags.running = false)
    (free : m.state.destroying = false) :
    ∃ turns later, m.SameToAll later ∧ (∀ turn ∈ turns, ∃ s, turn.query = .step s) ∧
      solo reply t 5 (destroy settings rounds).run m =
        ⟨turns, later, .done (.error (contention Api.delete.name))⟩ := by
  obtain ⟨⟨guard, ⟨consumer, topics, _⟩, ⟨_, asked⟩, context, _, transport⟩, contexts⟩ := m
  cases active
  cases idle
  cases free
  let claimed : Shared := ⟨⟨guard, ⟨consumer, topics, true⟩, ⟨false, asked⟩, contexts t, true, transport⟩, contexts⟩
  let given : Shared := ⟨{ claimed.state with destroying := false }, contexts⟩
  let initial : Shared := ⟨⟨guard, ⟨consumer, topics, true⟩, ⟨false, asked⟩, context, false, transport⟩, contexts⟩
  have locks : initial.leftBy t claimed.state = claimed := Shared.leftBy_of_context rfl
  have unlocks : claimed.leftBy t given.state = given := Shared.leftBy_of_context rfl
  have looks : claimed.leftBy t (claimed.seenBy t) = claimed := Shared.leftBy_of_context rfl
  -- The first three turns claim the right and look at session and flags; then the guard is asked for.
  obtain ⟨next, refused, begun⟩ : ∃ next, (∀ e, next (.error e) = .ask (.step .unlockDestroy) fun r =>
        .done (match r with
          | .ok _ => .error e
          | .error f => .error f)) ∧
      solo reply t 5 (destroy settings rounds).run initial =
        let locked := initial.leftBy t claimed.state
        let seen := locked.leftBy t (locked.seenBy t)
        let rest := solo reply t 2 (.ask (.step (.acquire (some Api.delete.name))) next)
          (seen.leftBy t (seen.seenBy t))
        { rest with turns := ⟨t, .step .lockDestroy, true⟩ :: ⟨t, .step .session, ⟨consumer, topics, true⟩⟩ ::
          ⟨t, .step .flags, ⟨false, asked⟩⟩ :: rest.turns } := by
    refine ⟨_, ?_, rfl⟩
    intro e
    show Program.ask _ _ = Program.ask _ _
    congr 1
    funext r
    cases r <;> rfl
  have taken : Step.apply t (.acquire (some Api.delete.name)) (claimed.seenBy t) = _ :=
    apply_acquire_closed (m := claimed) closed _
  simp only [locks, looks, solo, taken, refused] at begun
  have unlocked : Step.apply t .unlockDestroy (claimed.seenBy t) = (.ok (), given.state) := rfl
  simp only [unlocked, unlocks] at begun
  refine ⟨_, given, fun _ => rfl, ?_, begun⟩
  simp

/-- Whoever calls an operation while another thread has the guard is refused in the name of the operation, whatever
it gives to the operation. The refusal is all that the operation comes to: nothing is called outside, and the memory
is the same to every thread. Destroying an active channel in which no loop runs and that nobody else destroys fails
for the same reason, in the name of deleting, and everything stays as it was. It fails so too if other threads take
turns meanwhile, as long as one of them has the guard and no loop runs: the channel is left active, and anybody may
try again. -/
theorem contended_calls_leave_no_trace (gathers : Gathers settings start)
    (reached : Crowd.Runs (aroundChannel settings) start before middle)
    (closed : middle.memory.state.guard.ClosedTo t) (reply : (call : Outside) → call.Reply) :
    (∀ (move : Move) (api : String), move.refusedAs = some api →
      ∃ later, middle.memory.SameToAll later ∧
        solo reply t 1 (move.operation settings).run middle.memory =
          ⟨[⟨t, .step (.acquire (some api)), .error (contention api)⟩], later, .done (.error (contention api))⟩) ∧
    ∀ rounds, middle.memory.state.session.active = true → middle.memory.state.flags.running = false →
      middle.memory.state.destroying = false →
      (∃ turns later, middle.memory.SameToAll later ∧ (∀ turn ∈ turns, ∃ s, turn.query = .step s) ∧
        solo reply t 5 (destroy settings rounds).run middle.memory =
          ⟨turns, later, .done (.error (contention Api.delete.name))⟩) ∧
      ∀ turns crowd r, Crowd.Runs (aroundChannel settings) middle turns crowd →
        CarriesOut t (destroy settings rounds).run r turns → Besieged settings t middle turns →
          r = .error (contention Api.delete.name) ∧ crowd.memory.state.session.active = true ∧
            crowd.memory.state.destroying = false ∧ ∀ turn ∈ own t turns, ∃ s, turn.query = .step s := by
  refine ⟨fun move api named => ⟨_, middle.memory.sameToAll_leftBy t, solo_of_refusedAs closed reply named⟩, ?_⟩
  intro rounds active idle free
  refine ⟨?_, fun turns crowd r goes carries besieged =>
    destruction_besieged gathers reached active free goes carries besieged⟩
  exact solo_destroy_besieged closed reply rounds active idle free

/-- What a turn leaves of what is shared. -/
def Turn.leaves (m : Shared) (turn : Turn) : Shared :=
  match turn.query with
  | .step s => m.leftBy turn.thread (s.apply turn.thread (m.seenBy turn.thread)).2
  | .outside _ => m

/-- The turns of a run tell what becomes of the memory. -/
theorem memory_of_turns (runs : Crowd.Runs (aroundChannel settings) start turns crowd) :
    crowd.memory = turns.foldl Turn.leaves start.memory := by
  induction runs with
  | start => rfl
  | aside runs digresses ih => rw [digresses.memory, ih]
  | @turn turns crowd turn later runs takes ih =>
    rw [List.foldl_append, List.foldl_cons, List.foldl_nil, ← ih]
    obtain ⟨u, q, answer⟩ := turn
    cases q with
    | outside call => exact takes.answers
    | step s => exact takes.answers.2.symm

end

/-- One thread is about to create a consumer, and another one to destroy the channel. -/
def standoff : Crowd Shared where
  memory := ⟨State.initial, fun _ => .empty⟩
  programs t := client committing (if t = 1 then [.create] else if t = 2 then [.destroy 0] else [])

namespace Standoff

/-- The first thread claims the guard. -/
def claim : Stretch (Except Failure Unit) := solo obliging 1 1 (create committing).run standoff.memory

/-- What the threads are about to do then. -/
def claimed : Crowd Shared where
  memory := claim.memory
  programs := assign standoff.programs 1 (claim.left >>= fun _ => client committing [])

/-- The second thread claims the right to destroy the channel, and looks at the session. -/
def attempt : Stretch (Except Failure Unit) := solo obliging 2 2 (destroy committing 0).run claim.memory

/-- The first thread goes on meanwhile. -/
def creation : Stretch (Except Failure Unit) := solo obliging 1 4 claim.left attempt.memory

/-- The second thread is refused. -/
def refusal : Stretch (Except Failure Unit) := solo obliging 2 3 attempt.left creation.memory

/-- All turns in their order. -/
def turns : List Turn := attempt.turns ++ creation.turns ++ refusal.turns

theorem gathers : Gathers committing standoff where
  fresh := ⟨.empty, 0, rfl⟩
  clients _ := ⟨_, rfl⟩

theorem claims : Crowd.Runs (aroundChannel committing) standoff claim.turns claimed := by
  have creates : standoff.programs 1 = (create committing).run >>= fun _ => client committing [] := rfl
  exact runs_solo obliging 1 creates

theorem runs : ∃ aftermath, Crowd.Runs (aroundChannel committing) claimed turns aftermath := by
  have destroys : claimed.programs 2 = (destroy committing 0).run >>= fun _ => client committing [] := rfl
  have creates : claimed.programs 1 = claim.left >>= fun _ => client committing [] := rfl
  obtain ⟨aftermath, runs, -⟩ : ∃ later, Crowd.Runs (aroundChannel committing) claimed turns later ∧ _ :=
    runs_interrupted (by decide) rfl rfl rfl destroys creates
  exact ⟨aftermath, runs⟩

theorem carries : CarriesOut 2 (destroy committing 0).run (.error (contention Api.delete.name)) turns := by
  have ended : refusal.left = .done (.error (contention Api.delete.name)) := rfl
  have begun : attempt.turns.isEmpty = false := by decide +kernel
  have resumed : refusal.turns.isEmpty = false := by decide +kernel
  exact carriesOut_interrupted (by decide) rfl rfl rfl ended (by simpa using begun) (by simpa using resumed)

theorem besieged : Besieged committing 2 claimed turns := by
  have guarded : (List.range turns.length).all (fun k =>
      ((turns.take k).foldl Turn.leaves claimed.memory).state.guard.owner == some 1 &&
        !((turns.take k).foldl Turn.leaves claimed.memory).state.flags.running) = true := by
    decide +kernel
  intro past turn rest between same _ runs
  have within : past.length ∈ List.range turns.length := by simp [same]
  have now := List.all_eq_true.mp guarded past.length within
  rw [show turns.take past.length = past by simp [same], ← memory_of_turns runs, Bool.and_eq_true_iff] at now
  exact ⟨⟨1, beq_iff_eq.mp now.1, by decide⟩, by simpa using now.2⟩

end Standoff

/-- The thread that is kept out is refused, whether it wishes to run a loop or to destroy the channel. -/
theorem standoff_refuses_loop_and_destruction :
    Gathers committing standoff ∧
      Crowd.Runs (aroundChannel committing) standoff Standoff.claim.turns Standoff.claimed ∧
      Standoff.claimed.memory.state.guard.ClosedTo 2 ∧
      (∃ later, Standoff.claimed.memory.SameToAll later ∧
        solo obliging 2 1 ((Move.run 3 none (.many [.int 1] none)).operation committing).run
            Standoff.claimed.memory =
          ⟨[⟨2, .step (.acquire (some runName)), .error (contention runName)⟩], later,
            .done (.error (contention runName))⟩) ∧
      ∃ aftermath, Crowd.Runs (aroundChannel committing) Standoff.claimed Standoff.turns aftermath ∧
        CarriesOut 2 (destroy committing 0).run (.error (contention Api.delete.name)) Standoff.turns ∧
        Besieged committing 2 Standoff.claimed Standoff.turns ∧
        aftermath.memory.state.session.active = true ∧ aftermath.memory.state.destroying = false := by
  have closed : Standoff.claimed.memory.state.guard.ClosedTo 2 := ⟨1, rfl, by decide⟩
  obtain ⟨refuses, attempts⟩ := contended_calls_leave_no_trace Standoff.gathers Standoff.claims closed obliging
  obtain ⟨aftermath, runs⟩ := Standoff.runs
  obtain ⟨-, active, free, -⟩ := (attempts 0 rfl rfl rfl).2 _ _ _ runs Standoff.carries Standoff.besieged
  exact ⟨Standoff.gathers, Standoff.claims, closed, refuses _ _ rfl, aftermath, runs, Standoff.carries,
    Standoff.besieged, active, free⟩

end Channel

end ConsumerChannel
