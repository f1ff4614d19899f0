import ConsumerChannel.Proofs.Conduct
import ConsumerChannel.Proofs.Stopping

/-! How a loop winds down once it is asked to stop. A loop looks at the request in two places only, and the request
may come during any of its calls. Here the loop is unrolled into its calls, one after another, each of them the very
execution that it is in the run: what it comes to says which is next, so that what a request leaves to be done is read
off the call that it comes in. -/
namespace ConsumerChannel.Channel
open Operation

/-! ## Calls of a loop -/

/-- The call that a loop is about to make, or what it has come to. -/
inductive Phase where
  | subscribing
  | pulling
  | handing (batch : Batch) (consumer : Option String)
  | committing (goOn : Bool)
  /-- The session is about to be built anew, after a failure. -/
  | recreating (goOn : Bool) (e : Failure)
  /-- The consumer is about to be deleted, after a failure. -/
  | cleaning (e : Failure)
  | settled (r : Except Failure Unit)

namespace Phase

/-- Where a cycle begins. -/
def asking (subscribed : Bool) : Phase := if subscribed then pulling else subscribing

/-- Where a loop goes after it has looked at its flags. -/
def onward (state : LoopState) (flags : RunFlags) : Phase :=
  if state.goOn && !flags.stopRequested then asking state.subscribed else settled (.ok ())

/-- Where a loop goes after a failure. -/
def failed (goOn : Bool) (e : Failure) : Phase :=
  match e.class? with
  | some .sessionLost => recreating goOn e
  | some .permanent => cleaning e
  | some .transient => cleaning e
  | _ => settled (.error e)

/-- Where a loop goes once a cycle is through. -/
def landing (r : Except Failure LoopState) (flags : RunFlags) : Phase :=
  match r with
  | .ok state => onward state flags
  | .error e => settled (.error e)

/-- Where a loop goes after the first half of a cycle. -/
def fetched : Except Failure (Option Bool) → Phase
  | .ok none => settled (.ok ())
  | .ok (some goOn) => committing goOn
  | .error e => failed true e

/-- The loop is about to ask for more. -/
inductive Asks : Phase → Prop where
  | subscribing : Asks subscribing
  | pulling : Asks pulling

/-- The loop is about to raise a failure, at once or once it has cleaned up. -/
inductive Fails : Phase → Failure → Prop where
  | cleaning : Fails (cleaning e) e
  | settled : Fails (settled (.error e)) e

/-- A failure of the call is the loop's to deal with. -/
def Guarded : Phase → Prop
  | subscribing | pulling | handing _ _ | committing _ => True
  | recreating _ _ | cleaning _ | settled _ => False

end Phase

/-- A call that a loop made, how it failed if it did, and where the loop went from there. -/
structure Stride where
  phase : Phase
  before : Chronicle
  failure : Option Failure
  next : Phase
  after : Chronicle

section
variable (surroundings : Surroundings) (caller : Thread) (settings : Settings)
  (nested : List Move → Chronicle → Chronicle) (callback : CallbackId) (topics : List Value)

/-- What a call of a loop comes to: the execution of the call, what that means, and where the loop goes by it. -/
inductive Deed (c : Chronicle) : Phase → Option Failure → Phase → Chronicle → Prop where
  | subscribed {left : Session String Value}
      (ran : exec (surroundings.host nested caller) (subscribe settings (.many topics none)) c = (.ok (), later))
      (subscribes : Subscribes surroundings caller settings (.many topics none) c.memory (.ok ()) left signals)
      (became : c.Becomes surroundings left c.memory.context signals later) :
      Deed c .subscribing none (.onward ⟨true, true⟩ later.memory.flags) later
  | unsubscribed {left : Session String Value}
      (ran : exec (surroundings.host nested caller) (subscribe settings (.many topics none)) c = (.error e, later))
      (subscribes : Subscribes surroundings caller settings (.many topics none) c.memory (.error e) left signals)
      (became : c.Becomes surroundings left c.memory.context signals later) :
      Deed c .subscribing (some e) (.failed true e) later
  | pulled {left : Session String Value}
      (ran : exec (surroundings.host nested caller) (consume settings settings.consumeTimeout) c = (.ok batch, later))
      (consumes : Consumes surroundings caller settings settings.consumeTimeout c.memory (.ok batch) left signals)
      (became : c.Becomes surroundings left c.memory.context signals later) :
      Deed c .pulling none (.handing batch left.consumer) later
  | unpulled {left : Session String Value}
      (ran : exec (surroundings.host nested caller) (consume settings settings.consumeTimeout) c = (.error e, later))
      (consumes : Consumes surroundings caller settings settings.consumeTimeout c.memory (.error e) left signals)
      (became : c.Becomes surroundings left c.memory.context signals later) :
      Deed c .pulling (some e) (.failed true e) later
  | handed (handed : surroundings.outside nested (.callback callback batch consumer) c = (.ok wish, later)) :
      Deed c (.handing batch consumer) none
        (if later.memory.session.active then .committing wish.truthy else .settled (.ok ())) later
  | raised (handed : surroundings.outside nested (.callback callback batch consumer) c = (.error e, later)) :
      Deed c (.handing batch consumer) (some e) (.failed true e) later
  | committed {left : Session String Value}
      (ran : exec (surroundings.host nested caller) (commit settings) c = (.ok (), later))
      (commits : Commits surroundings caller settings c.memory (.ok ()) left signals)
      (became : c.Becomes surroundings left c.memory.context signals later) :
      Deed c (.committing goOn) none (.onward ⟨true, goOn⟩ later.memory.flags) later
  | uncommitted {left : Session String Value}
      (ran : exec (surroundings.host nested caller) (commit settings) c = (.error e, later))
      (commits : Commits surroundings caller settings c.memory (.error e) left signals)
      (became : c.Becomes surroundings left c.memory.context signals later) :
      Deed c (.committing goOn) (some e) (.failed goOn e) later
  | recreated (ran : exec (surroundings.host nested caller) (recreate settings e) c = (.ok (), later))
      (recreates : Recreates surroundings caller settings c (.ok ()) later) :
      Deed c (.recreating goOn e) none
        (.onward ⟨false, goOn && settings.retryOnFail.truthy⟩ later.memory.flags) later
  | unrecreated (ran : exec (surroundings.host nested caller) (recreate settings e) c = (.error second, later))
      (recreates : Recreates surroundings caller settings c (.error second) later) :
      Deed c (.recreating goOn e) (some second) (.settled (.error second)) later
  | cleaned (ran : exec (surroundings.host nested caller) (deleteAfterFailure settings e) c = (.ok (), later))
      (cleans : Cleans surroundings caller settings c (.ok ()) later) :
      Deed c (.cleaning e) none (.settled (.error e)) later
  | uncleaned
      (ran : exec (surroundings.host nested caller) (deleteAfterFailure settings e) c = (.error second, later))
      (cleans : Cleans surroundings caller settings c (.error second) later) :
      Deed c (.cleaning e) (some second) (.settled (.error second)) later

/-- A loop makes its calls one after another until it is over. A loop that is given up makes no more. -/
inductive Unrolls : Phase → Chronicle → List Stride → Except Failure Unit → Chronicle → Prop where
  | settled : Unrolls (.settled r) c [] r c
  | unfinished (asks : phase.Asks) : Unrolls phase c [] (.error (.fault .unfinished)) c
  | call {next : Phase} {failure : Option Failure}
      (deed : Deed surroundings caller settings nested callback topics c phase failure next d)
      (rest : Unrolls next d strides r last) : Unrolls phase c (⟨phase, c, failure, next, d⟩ :: strides) r last

end

/-- How a loop winds down from the call on during which it was asked to stop. -/
structure WindsDown (surroundings : Surroundings) (caller : Thread) (settings : Settings) (r : Except Failure Unit)
    (asked : Stride) (rest : List Stride) : Prop where
  /-- No subscription and no pull is begun any more. -/
  begins : ∀ stride ∈ rest, ¬ stride.phase.Asks
  /-- A batch that was under way is handed to the callback. -/
  handed : asked.phase = .pulling → asked.failure = none → ∃ batch consumer,
    asked.next = .handing batch consumer ∧ rest.head?.map Stride.phase = some (.handing batch consumer)
  /-- A batch is committed if the callback comes back well and leaves the channel active. -/
  committed : ∀ past stride more batch consumer, asked :: rest = past ++ stride :: more →
    stride.phase = .handing batch consumer → stride.failure = none →
    stride.after.memory.session.active = true →
    ∃ goOn, more.head?.map Stride.phase = some (.committing goOn)
  /-- A session that is lost is built anew. -/
  recovered : ∀ past stride more e, asked :: rest = past ++ stride :: more → stride.phase.Guarded →
    stride.failure = some e → e.class? = some .sessionLost →
    ∃ goOn, more.head?.map Stride.phase = some (.recreating goOn e)
  /-- Building it anew takes all its requests, as at any other time. -/
  rebuilt : ∀ stride ∈ asked :: rest, ∀ goOn e, stride.phase = .recreating goOn e →
    Recreates surroundings caller settings stride.before (stride.failure.elim (.ok ()) .error) stride.after
  /-- The loop ends well unless one of these calls fails, or a failure was being cleaned up after. -/
  result : r = .ok () ∨ ∃ e, r = .error e ∧
    ((∃ stride ∈ asked :: rest, stride.failure = some e) ∨ asked.phase = .cleaning e)

/-! ## A loop is its calls -/

section
variable {surroundings : Surroundings} {nested : List Move → Chronicle → Chronicle} {caller : Thread}
  {c d last later : Chronicle} {settings : Settings} {callback : CallbackId} {topics : List Value}
  {subscribed goOn : Bool} {strides : List Stride} {result : Except Failure Unit} {e : Failure} {phase : Phase}

theorem onward_settled {state : LoopState} {flags : RunFlags}
    (ended : state.goOn = false ∨ flags.stopRequested = true) : Phase.onward state flags = .settled (.ok ()) := by
  unfold Phase.onward
  rcases ended with enough | asked
  · simp [enough]
  · simp [asked]

theorem onward_asking {state : LoopState} {flags : RunFlags} (going : state.goOn = true)
    (free : flags.stopRequested = false) : Phase.onward state flags = .asking state.subscribed := by
  simp [Phase.onward, going, free]

theorem asks_asking : (Phase.asking subscribed).Asks := by
  cases subscribed with
  | true => exact .pulling
  | false => exact .subscribing

theorem failed_of_lost (lost : e.class? = some .sessionLost) : Phase.failed goOn e = .recreating goOn e := by
  simp only [Phase.failed, lost]

theorem failed_of_fatal (fatal : e.class? = some .permanent ∨ e.class? = some .transient) :
    Phase.failed goOn e = .cleaning e := by
  rcases fatal with permanent | transient
  · simp only [Phase.failed, permanent]
  · simp only [Phase.failed, transient]

/-- Cleaning up after a failure, and raising it. -/
theorem unrolls_cleaning (quiet : surroundings.LogsQuietly) (opened : c.memory.guard.OpenTo caller)
    {r : Except Failure LoopState}
    (ran : exec (surroundings.host nested caller)
      (do
        deleteAfterFailure settings e
        throw e) c = (r, d))
    (rest : Unrolls surroundings caller settings nested callback topics (.landing r d.memory.flags) d strides
      result last) :
    ∃ all, Unrolls surroundings caller settings nested callback topics (.cleaning e) c all result last := by
  rcases exec_bind_cases ran with ⟨⟨⟩, k, deleted, raised⟩ | ⟨second, failed, rfl⟩
  · have cleans := (leads_iff _).mp (leads_deleteAfterFailure quiet opened e) _ _ deleted
    cases raised
    exact ⟨_, .call (.cleaned deleted cleans) rest⟩
  · have cleans := (leads_iff _).mp (leads_deleteAfterFailure quiet opened e) _ _ failed
    exact ⟨_, .call (.uncleaned failed cleans) rest⟩

theorem unrolls_recover (quiet : surroundings.LogsQuietly) (opened : c.memory.guard.OpenTo caller)
    {r : Except Failure LoopState}
    (ran : exec (surroundings.host nested caller) (recover settings goOn e) c = (r, d))
    (rest : Unrolls surroundings caller settings nested callback topics (.landing r d.memory.flags) d strides
      result last) :
    ∃ all, Unrolls surroundings caller settings nested callback topics (.failed goOn e) c all result last := by
  unfold recover at ran
  split at ran
  · rename_i lost
    rw [failed_of_lost lost]
    rcases exec_bind_cases ran with ⟨⟨⟩, k, rebuilt, goes⟩ | ⟨second, failed, rfl⟩
    · have recreates := (leads_iff _).mp (leads_recreate quiet opened e) _ _ rebuilt
      cases goes
      exact ⟨_, .call (.recreated rebuilt recreates) rest⟩
    · have recreates := (leads_iff _).mp (leads_recreate quiet opened e) _ _ failed
      exact ⟨_, .call (.unrecreated failed recreates) rest⟩
  · rename_i permanent
    rw [failed_of_fatal (.inl permanent)]
    exact unrolls_cleaning quiet opened ran rest
  · rename_i transient
    rw [failed_of_fatal (.inr transient)]
    exact unrolls_cleaning quiet opened ran rest
  · rename_i lost permanent transient
    cases ran
    have through : Phase.failed goOn e = .settled (.error e) := by
      unfold Phase.failed
      split <;> trivial
    rw [through]
    exact ⟨_, rest⟩

/-- The second half of fetching: a batch is pulled and handed to the callback. -/
theorem unrolls_pull (opened : c.memory.guard.OpenTo caller) (active : c.memory.session.active = true)
    {r : Except Failure (Option Bool)}
    (ran : exec (surroundings.host nested caller)
      (do
        let batch ← consume settings settings.consumeTimeout
        let s ← session
        let wish ← callBack callback batch s.consumer
        if (← session).active then return some wish.truthy else return none) c = (r, d))
    (rest : Unrolls surroundings caller settings nested callback topics (.fetched r) d strides result last) :
    ∃ all, Unrolls surroundings caller settings nested callback topics .pulling c all result last := by
  rcases exec_bind_cases ran with ⟨batch, k, pulled, goes⟩ | ⟨e, failed, rfl⟩
  · obtain ⟨left, signals, consumes, became⟩ :=
      (leads_iff _).mp (leads_consume opened active settings.consumeTimeout) _ _ pulled
    rw [exec_session_bind, became.state.session] at goes
    rcases exec_bind_cases goes with ⟨wish, later, handed, goes⟩ | ⟨e, handed, rfl⟩
    · have deed : Deed surroundings caller settings nested callback topics k _ _ _ later := .handed handed
      rw [exec_session_bind] at goes
      split at goes
      · rename_i active
        cases goes
        rw [if_pos active] at deed
        exact ⟨_, .call (.pulled pulled consumes became) (.call deed rest)⟩
      · rename_i destroyed
        cases goes
        rw [if_neg destroyed] at deed
        exact ⟨_, .call (.pulled pulled consumes became) (.call deed rest)⟩
    · exact ⟨_, .call (.pulled pulled consumes became) (.call (.raised handed) rest)⟩
  · obtain ⟨left, signals, consumes, became⟩ :=
      (leads_iff _).mp (leads_consume opened active settings.consumeTimeout) _ _ failed
    exact ⟨_, .call (.unpulled failed consumes became) rest⟩

theorem unrolls_fetch (opened : c.memory.guard.OpenTo caller) (active : c.memory.session.active = true)
    {r : Except Failure (Option Bool)}
    (ran : exec (surroundings.host nested caller) (fetch settings callback topics subscribed) c = (r, d))
    (rest : Unrolls surroundings caller settings nested callback topics (.fetched r) d strides result last) :
    ∃ all, Unrolls surroundings caller settings nested callback topics (.asking subscribed) c all result last := by
  unfold fetch at ran
  cases subscribed with
  | true => exact unrolls_pull opened active ran rest
  | false =>
    simp only [Bool.false_eq_true, ↓reduceIte] at ran
    rcases exec_bind_cases ran with ⟨⟨⟩, k, subscribed, goes⟩ | ⟨e, failed, rfl⟩
    · obtain ⟨left, signals, subscribes, became⟩ :=
        (leads_iff _).mp (leads_subscribe opened active (.many topics none)) _ _ subscribed
      have deed : Deed surroundings caller settings nested callback topics c _ _ _ k :=
        .subscribed subscribed subscribes became
      rw [exec_flags_bind, exec_bind_ok (exec_pure _)] at goes
      split at goes
      · rename_i asked
        cases goes
        rw [onward_settled (.inr asked)] at deed
        exact ⟨_, .call deed rest⟩
      · rename_i free
        rw [onward_asking rfl (by simpa using free)] at deed
        obtain ⟨all, onward⟩ := unrolls_pull (by rw [became.state.guard]; exact opened)
          (by rw [became.state.session]; exact subscribes.active active) goes rest
        exact ⟨_, .call deed onward⟩
    · obtain ⟨left, signals, subscribes, became⟩ :=
        (leads_iff _).mp (leads_subscribe opened active (.many topics none)) _ _ failed
      exact ⟨_, .call (.unsubscribed failed subscribes became) rest⟩

theorem unrolls_cycle (quiet : surroundings.LogsQuietly) (leaves : LeavesGuard surroundings nested caller)
    (opened : c.memory.guard.OpenTo caller) (active : c.memory.session.active = true) {r : Except Failure LoopState}
    (ran : exec (surroundings.host nested caller) (cycle settings callback topics subscribed) c = (r, d))
    (rest : Unrolls surroundings caller settings nested callback topics (.landing r d.memory.flags) d strides
      result last) :
    ∃ all, Unrolls surroundings caller settings nested callback topics (.asking subscribed) c all result last := by
  unfold cycle at ran
  rw [exec_bind, exec_outcome] at ran
  cases fetched : exec (surroundings.host nested caller) (fetch settings callback topics subscribed) c with
  | mk s k =>
    rw [fetched] at ran
    have fetches := (leads_iff _).mp (leads_fetch opened active) _ _ fetched
    have still : k.memory.guard.OpenTo caller := by rwa [fetches.guard leaves opened]
    cases s with
    | error e =>
      obtain ⟨more, onward⟩ := unrolls_recover quiet still ran rest
      exact unrolls_fetch opened active fetched onward
    | ok wish =>
      cases wish with
      | none =>
        cases ran
        rw [Phase.landing, onward_settled (.inl rfl)] at rest
        exact unrolls_fetch opened active fetched rest
      | some goOn =>
        have ran : exec (surroundings.host nested caller)
            (rescue (do commit settings; return ⟨true, goOn⟩) (recover settings goOn)) k = (r, d) := ran
        rw [exec_rescue, exec_bind] at ran
        cases committed : exec (surroundings.host nested caller) (commit settings) k with
        | mk s l =>
          rw [committed] at ran
          obtain ⟨left, signals, commits, became⟩ :=
            (leads_iff _).mp (leads_commit still fetches.active) _ _ committed
          cases s with
          | ok _ =>
            cases ran
            exact unrolls_fetch opened active fetched (.call (.committed committed commits became) rest)
          | error e =>
            obtain ⟨more, onward⟩ :=
              unrolls_recover quiet (by rw [became.state.guard]; exact still) ran rest
            exact unrolls_fetch opened active fetched (.call (.uncommitted committed commits became) onward)

theorem unrolls_loop (quiet : surroundings.LogsQuietly) (leaves : LeavesGuard surroundings nested caller)
    (opened : c.memory.guard.OpenTo caller) {state : LoopState}
    (active : state.goOn = true → c.memory.session.active = true) {rounds : Nat}
    (ran : exec (surroundings.host nested caller) (loop settings callback topics rounds state) c = (result, last)) :
    ∃ strides, Unrolls surroundings caller settings nested callback topics (.onward state c.memory.flags) c strides
      result last := by
  induction rounds generalizing c state with
  | zero =>
    unfold loop at ran
    rw [exec_bind_ok exec_goesOn] at ran
    unfold Phase.onward
    split at ran
    · rename_i going
      cases ran
      rw [if_pos going]
      exact ⟨_, .unfinished asks_asking⟩
    · rename_i ended
      cases ran
      rw [if_neg ended]
      exact ⟨_, .settled⟩
  | succ rounds ih =>
    unfold loop at ran
    rw [exec_bind_ok exec_goesOn] at ran
    unfold Phase.onward
    split at ran
    · rename_i going
      rw [if_pos going]
      have active := active (Bool.and_eq_true_iff.mp going).1
      rcases exec_bind_cases ran with ⟨next, d, cycled, looped⟩ | ⟨e, cycled, rfl⟩
      · have cycles := (leads_iff _).mp (leads_cycle quiet leaves opened active) _ _ cycled
        obtain ⟨more, onward⟩ := ih (by rw [cycles.guard leaves opened]; exact opened) cycles.active looped
        exact unrolls_cycle quiet leaves opened active cycled onward
      · exact unrolls_cycle quiet leaves opened active cycled .settled
    · rename_i ended
      cases ran
      rw [if_neg ended]
      exact ⟨_, .settled⟩

end

/-! ## One call -/

section
variable {surroundings : Surroundings} {nested : List Move → Chronicle → Chronicle} {caller : Thread}
  {c d last : Chronicle} {settings : Settings} {callback : CallbackId} {topics : List Value}
  {goOn : Bool} {past rest strides : List Stride} {asked : Stride} {r : Except Failure Unit} {e f : Failure}
  {phase next : Phase} {failure : Option Failure} {state : LoopState} {flags : RunFlags}

private theorem not_asks_onward (requested : flags.stopRequested = true) : ¬ (Phase.onward state flags).Asks := by
  rw [onward_settled (.inr requested)]
  exact nofun

private theorem not_asks_failed : ¬ (Phase.failed goOn e).Asks := by
  unfold Phase.failed
  split <;> exact nofun

/-- A call during which the loop was asked to stop is not followed by one that asks for more. -/
theorem Deed.not_asks (deed : Deed surroundings caller settings nested callback topics c phase failure next d)
    (requested : d.memory.flags.stopRequested = true) : ¬ next.Asks := by
  cases deed with
  | subscribed ran subscribes became => exact not_asks_onward requested
  | unsubscribed ran subscribes became => exact not_asks_failed
  | pulled ran consumes became => exact nofun
  | unpulled ran consumes became => exact not_asks_failed
  | handed handed => split <;> exact nofun
  | raised handed => exact not_asks_failed
  | committed ran commits became => exact not_asks_onward requested
  | uncommitted ran commits became => exact not_asks_failed
  | recreated ran recreates => exact not_asks_onward requested
  | unrecreated ran recreates => exact nofun
  | cleaned ran cleans => exact nofun
  | uncleaned ran cleans => exact nofun

private theorem not_fails_onward : ¬ (Phase.onward state flags).Fails e := by
  unfold Phase.onward Phase.asking
  split
  · split <;> exact nofun
  · exact nofun

private theorem eq_of_fails_failed (fails : (Phase.failed goOn e).Fails f) : e = f := by
  unfold Phase.failed at fails
  split at fails <;> cases fails <;> rfl

/-- A loop raises what one of its calls failed with. -/
theorem Deed.fails (deed : Deed surroundings caller settings nested callback topics c phase failure next d)
    (fails : next.Fails e) : failure = some e ∨ phase = .cleaning e := by
  cases deed with
  | subscribed ran subscribes became => exact absurd fails not_fails_onward
  | unsubscribed ran subscribes became => exact .inl (congrArg some (eq_of_fails_failed fails))
  | pulled ran consumes became => cases fails
  | unpulled ran consumes became => exact .inl (congrArg some (eq_of_fails_failed fails))
  | handed handed => split at fails <;> cases fails
  | raised handed => exact .inl (congrArg some (eq_of_fails_failed fails))
  | committed ran commits became => exact absurd fails not_fails_onward
  | uncommitted ran commits became => exact .inl (congrArg some (eq_of_fails_failed fails))
  | recreated ran recreates => exact absurd fails not_fails_onward
  | unrecreated ran recreates =>
    cases fails
    exact .inl rfl
  | cleaned ran cleans =>
    cases fails
    exact .inr rfl
  | uncleaned ran cleans =>
    cases fails
    exact .inl rfl

/-- A batch that was pulled goes to the callback. -/
theorem Deed.hands
    (deed : Deed surroundings caller settings nested callback topics c .pulling none next d) :
    ∃ batch consumer, next = .handing batch consumer := by
  cases deed with
  | pulled ran consumes became => exact ⟨_, _, rfl⟩

/-- A callback that comes back well and leaves the channel active is followed by a commit. -/
theorem Deed.commits {batch : Batch} {consumer : Option String}
    (deed : Deed surroundings caller settings nested callback topics c (.handing batch consumer) none next d)
    (active : d.memory.session.active = true) : ∃ goOn, next = .committing goOn := by
  cases deed with
  | handed handed =>
    rw [if_pos active]
    exact ⟨_, rfl⟩

/-- A lost session is followed by a new one. -/
theorem Deed.recovers
    (deed : Deed surroundings caller settings nested callback topics c phase (some e) next d)
    (guarded : phase.Guarded) (lost : e.class? = some .sessionLost) : ∃ goOn, next = .recreating goOn e := by
  cases deed with
  | unsubscribed ran subscribes became => exact ⟨true, failed_of_lost lost⟩
  | unpulled ran consumes became => exact ⟨true, failed_of_lost lost⟩
  | raised handed => exact ⟨true, failed_of_lost lost⟩
  | uncommitted ran commits became => exact ⟨_, failed_of_lost lost⟩
  | unrecreated ran recreates => exact guarded.elim
  | uncleaned ran cleans => exact guarded.elim

/-- A session is built anew by all the requests that this takes. -/
theorem Deed.rebuilds
    (deed : Deed surroundings caller settings nested callback topics c (.recreating goOn e) failure next d) :
    Recreates surroundings caller settings c (failure.elim (.ok ()) .error) d := by
  cases deed with
  | recreated ran recreates => exact recreates
  | unrecreated ran recreates => exact recreates

/-! ## All calls -/

theorem Unrolls.split
    (unrolls : Unrolls surroundings caller settings nested callback topics phase c (past ++ asked :: rest) r last) :
    Deed surroundings caller settings nested callback topics asked.before asked.phase asked.failure asked.next
        asked.after ∧
      Unrolls surroundings caller settings nested callback topics asked.next asked.after rest r last := by
  induction past generalizing phase c with
  | nil =>
    cases unrolls with
    | call deed onward => exact ⟨deed, onward⟩
  | cons stride past ih =>
    cases unrolls with
    | call deed onward => exact ih onward

/-- A loop that is over makes no call. -/
theorem Unrolls.of_settled {s : Except Failure Unit}
    (unrolls : Unrolls surroundings caller settings nested callback topics (.settled s) c strides r last) :
    strides = [] ∧ r = s ∧ last = c := by
  cases unrolls with
  | settled => exact ⟨rfl, rfl, rfl⟩
  | unfinished asks => cases asks
  | call deed onward => cases deed

/-- The call that a loop is about to make is its next one. -/
theorem Unrolls.first (unrolls : Unrolls surroundings caller settings nested callback topics phase c strides r last)
    (content : ¬ phase.Asks) (going : ∀ r, phase ≠ .settled r) :
    strides.head?.map Stride.phase = some phase := by
  cases unrolls with
  | settled => exact absurd rfl (going _)
  | unfinished asks => exact absurd asks content
  | call deed onward => rfl

theorem Unrolls.begins (unrolls : Unrolls surroundings caller settings nested callback topics phase c strides r last)
    (content : ¬ phase.Asks) (stays : ∀ stride ∈ strides, stride.after.memory.flags.stopRequested = true) :
    ∀ stride ∈ strides, ¬ stride.phase.Asks := by
  induction unrolls with
  | settled => exact List.forall_mem_nil _
  | unfinished asks => exact List.forall_mem_nil _
  | call deed onward ih =>
    obtain ⟨requested, later⟩ := List.forall_mem_cons.mp stays
    exact List.forall_mem_cons.mpr ⟨content, ih (deed.not_asks requested) later⟩

theorem Unrolls.result (unrolls : Unrolls surroundings caller settings nested callback topics phase c strides r last)
    (content : ¬ phase.Asks) (stays : ∀ stride ∈ strides, stride.after.memory.flags.stopRequested = true) :
    r = .ok () ∨ ∃ e, r = .error e ∧ ((∃ stride ∈ strides, stride.failure = some e) ∨ phase.Fails e) := by
  induction unrolls with
  | @settled r c =>
    cases r with
    | ok _ => exact .inl rfl
    | error e => exact .inr ⟨e, rfl, .inr .settled⟩
  | unfinished asks => exact absurd asks content
  | call deed onward ih =>
    obtain ⟨requested, later⟩ := List.forall_mem_cons.mp stays
    rcases ih (deed.not_asks requested) later with well | ⟨e, ill, ⟨stride, member, failed⟩ | fails⟩
    · exact .inl well
    · exact .inr ⟨e, ill, .inl ⟨stride, .tail _ member, failed⟩⟩
    · rcases deed.fails fails with failed | rfl
      · exact .inr ⟨e, ill, .inl ⟨_, .head _, failed⟩⟩
      · exact .inr ⟨e, ill, .inr .cleaning⟩

/-- A loop that was asked to stop during one of its calls, and not otherwise since, winds down. -/
theorem Unrolls.windsDown
    (unrolls : Unrolls surroundings caller settings nested callback topics phase c (past ++ asked :: rest) r last)
    (stays : ∀ stride ∈ asked :: rest, stride.after.memory.flags.stopRequested = true) :
    WindsDown surroundings caller settings r asked rest := by
  obtain ⟨deed, onward⟩ := unrolls.split
  obtain ⟨requested, later⟩ := List.forall_mem_cons.mp stays
  have content := deed.not_asks requested
  -- Whichever call of the rest is looked at, the next one is not one that asks for more.
  have follows {before more : List Stride} {stride : Stride} (same : asked :: rest = before ++ stride :: more) :
      Deed surroundings caller settings nested callback topics stride.before stride.phase stride.failure stride.next
          stride.after ∧
        ((∀ r, stride.next ≠ .settled r) → more.head?.map Stride.phase = some stride.next) := by
    rw [same, ← List.append_assoc] at unrolls
    obtain ⟨deed, onward⟩ := unrolls.split
    have member : stride ∈ asked :: rest := by
      rw [same]
      exact List.mem_append_right _ (.head _)
    exact ⟨deed, onward.first (deed.not_asks (stays stride member))⟩
  exact {
    begins := onward.begins content later
    handed := by
      intro pulling well
      rw [pulling, well] at deed
      obtain ⟨batch, consumer, hands⟩ := deed.hands
      have head := onward.first content (by rw [hands]; exact nofun)
      rw [hands] at head
      exact ⟨batch, consumer, hands, head⟩
    committed := by
      intro before stride more batch consumer same handing well active
      obtain ⟨deed, next⟩ := follows same
      rw [handing, well] at deed
      obtain ⟨goOn, commits⟩ := deed.commits active
      rw [commits] at next
      exact ⟨goOn, next nofun⟩
    recovered := by
      intro before stride more e same guarded ill lost
      obtain ⟨deed, next⟩ := follows same
      rw [ill] at deed
      obtain ⟨goOn, recreates⟩ := deed.recovers guarded lost
      rw [recreates] at next
      exact ⟨goOn, next nofun⟩
    rebuilt := by
      intro stride member goOn e recreating
      obtain ⟨before, more, same⟩ := List.append_of_mem member
      obtain ⟨deed, -⟩ := follows same
      rw [recreating] at deed
      exact deed.rebuilds
    result := by
      rcases onward.result content later with well | ⟨e, ill, ⟨stride, member, failed⟩ | fails⟩
      · exact .inl well
      · exact .inr ⟨e, ill, .inl ⟨stride, .tail _ member, failed⟩⟩
      · rcases deed.fails fails with failed | cleaning
        · exact .inr ⟨e, ill, .inl ⟨asked, .head _, failed⟩⟩
        · exact .inr ⟨e, ill, .inr cleaning⟩ }

end

/-! ## Runs -/

/-- What a run comes to, call by call: it is refused, or its loop makes its calls, winds down from any of them on
during which it was asked to stop, and leaves the flags cleared. A loop that is asked before its first call makes none.
-/
inductive CallByCall (surroundings : Surroundings) (caller : Thread) (settings : Settings)
    (nested : List Move → Chronicle → Chronicle) (rounds : Nat) (callback : Option CallbackId) (topics : Topics)
    (c : Chronicle) : Except Failure Unit → Chronicle → Prop where
  | refused (unready : ¬ (c.memory.session.active = true ∧ Ready settings callback topics c.memory))
      (signals : later.signals = c.signals) :
      CallByCall surroundings caller settings nested rounds callback topics c r later
  | looped {id : CallbackId} {names : List Value} {strides : List Stride} (chosen : callback = some id)
      (wanted : chosenTopics c.memory.session topics = .ok names) (begins : c.Begins surroundings caller first)
      (stages : Stages surroundings caller settings nested rounds callback topics id names c entry first r last later)
      (unrolls : Unrolls surroundings caller settings nested id names (.onward ⟨false, true⟩ first.memory.flags) first
        strides r last)
      (forestalled : first.memory.flags.stopRequested = true → strides = [] ∧ r = .ok ())
      (windsDown : ∀ past asked rest, strides = past ++ asked :: rest →
        (∀ stride ∈ asked :: rest, stride.after.memory.flags.stopRequested = true) →
          WindsDown surroundings caller settings r asked rest)
      (finishes : c.Finishes surroundings last later) (cleared : later.Cleared surroundings) :
      CallByCall surroundings caller settings nested rounds callback topics c r later

/-- A loop that is asked to stop during one of its calls begins no other subscription and no other pull, as long as
the request is not taken back. A batch under way is still handed out and committed, and a lost session built anew.
The loop ends well unless one of the calls that are left fails, or it was cleaning up after a failure when it was
asked; and the run clears both flags at its end. -/
theorem asked_run_winds_down {surroundings : Surroundings} {settings : Settings} {caller : Thread} {c : Chronicle}
    (opened : c.memory.guard.OpenTo caller) (quiet : surroundings.LogsQuietly) (depth rounds : Nat)
    (callback : Option CallbackId) (topics : Topics) :
    Leads (surroundings.hosting settings caller depth) (run settings rounds callback topics) c
      (CallByCall surroundings caller settings (perform surroundings settings caller depth) rounds callback topics
        c) := by
  have leaves : LeavesGuard surroundings (perform surroundings settings caller depth) caller :=
    leavesGuard quiet depth
  refine (leads_run quiet leaves opened rounds).weaken ?_
  intro r later runs
  cases runs with
  | inactive inactive => exact .refused (fun ready => nomatch inactive.symm.trans ready.1) rfl
  | refused passed unready =>
    exact .refused (fun ready => unready ready.2) (passed.signals.trans (List.append_nil _))
  | looped active grouped chosen wanted begins stages loops finishes cleared =>
    obtain ⟨strides, unrolls⟩ :=
      unrolls_loop quiet leaves begins.opened (fun _ => by rw [begins.session, active]) stages.looped
    refine .looped chosen wanted begins stages unrolls ?_ ?_ finishes cleared
    · intro asked
      rw [onward_settled (.inr asked)] at unrolls
      obtain ⟨none, well, -⟩ := unrolls.of_settled
      exact ⟨none, well⟩
    · rintro past asked rest rfl stays
      exact unrolls.windsDown stays

/-- A run whose callback stops the loop winds down. -/
theorem run_stopped_by_callback_winds_down :
    (Chronicle.start 0).memory.guard.OpenTo 0 ∧ (Surroundings.oneBatch (.stop 0)).LogsQuietly ∧
      ∃ later, exec ((Surroundings.oneBatch (.stop 0)).hosting committing 0 1)
          (run committing 2 (some 0) (.single "t")) (.start 0) = (.ok (), later) ∧
        later.memory.flags = .idle ∧
        CallByCall (.oneBatch (.stop 0)) 0 committing (perform (.oneBatch (.stop 0)) committing 0 1) 2 (some 0)
          (.single "t") (.start 0) (.ok ()) later := by
  have opened : (Chronicle.start 0).memory.guard.OpenTo 0 := .inl rfl
  have quiet : (Surroundings.oneBatch (.stop 0)).LogsQuietly := (Surroundings.scripted_dependable ..).logs
  have winds : Leads ((Surroundings.oneBatch (.stop 0)).hosting committing 0 1)
      (run committing 2 (some 0) (.single "t")) (.start 0) _ := asked_run_winds_down opened quiet 1 2 _ _
  have well : (exec ((Surroundings.oneBatch (.stop 0)).hosting committing 0 1)
      (run committing 2 (some 0) (.single "t")) (.start 0)).1.isOk = true := by decide +kernel
  have idle : (exec ((Surroundings.oneBatch (.stop 0)).hosting committing 0 1)
      (run committing 2 (some 0) (.single "t")) (.start 0)).2.memory.flags = .idle := by decide +kernel
  refine ⟨opened, quiet, ?_⟩
  cases ran : exec ((Surroundings.oneBatch (.stop 0)).hosting committing 0 1)
      (run committing 2 (some 0) (.single "t")) (.start 0) with
  | mk r later =>
    rw [ran] at well idle
    have winds := (leads_iff _).mp winds r later ran
    cases r with
    | ok _ => exact ⟨later, rfl, idle, winds⟩
    | error e => cases well

/-! ## Requests that come to nothing -/

/-- The service deletes a consumer. -/
def Event.deletes (e : Event) : Bool :=
  match e.happening with
  | .sent _ request (.ok _) => request.method == .delete
  | _ => false

/-- A loop that runs is asked to stop while a request is under way. -/
def Event.asks (surroundings : Surroundings) (before : List Event) (e : Event) : Bool :=
  match e.happening with
  | .sent n request _ => e.memory.flags.running && !e.memory.flags.stopRequested &&
    (surroundings.meanwhile before (.send n request) e.memory.flags).stopRequested
  | _ => false

/-- A run that is asked to stop while a consumer is deleted, and in which that goes well and is the last that is seen,
ends well. -/
def AskedRunsEndWell : Prop :=
  ∀ (surroundings : Surroundings) (settings : Settings) (caller : Thread) (depth rounds : Nat)
    (callback : Option CallbackId) (topics : Topics) (c later : Chronicle) (r : Except Failure Unit)
    (before after : List Event) (e : Event),
    c.memory.Attained settings caller → c.memory.guard.OpenTo caller → surroundings.Dependable →
    exec (surroundings.hosting settings caller depth) (run settings rounds callback topics) c = (r, later) →
    later.events = before ++ e :: after → (∃ past, before = c.events ++ past) → e.asks surroundings before = true →
    e.deletes = true → (∀ f ∈ after, f.memory.flags.running = true → f.memory.flags.stopRequested = true) →
    (∀ f ∈ after, f.isSignal = false) → r = .ok ()

/-- A request to stop a loop is granted. -/
def Turn.grantsStop : Turn → Bool
  | ⟨_, .step .tryRequestStop, granted⟩ => granted
  | _ => false

/-- A wait for the end of a loop fails, a loop ends, or a callback comes back. -/
def Turn.breaksOff : Turn → Bool
  | ⟨_, .outside (.sleep _), .error _⟩ => true
  | ⟨_, .outside (.callback _ _ _), _⟩ => true
  | ⟨_, .step .finish, _⟩ => true
  | _ => false

/-- A thread begins to pull. -/
def Turn.pulls (t : Thread) (turn : Turn) : Bool :=
  match turn.query with
  | .step (.acquire (some api)) => turn.thread == t && api == Api.consume.name
  | _ => false

/-- Among threads that only run and stop, a loop that is asked to stop begins no other pull as long as no wait fails.
-/
def AskedLoopsPullNoMore : Prop :=
  ∀ (settings : Settings) (start crowd : Crowd Shared) (before after : List Turn) (t : Thread),
    Gathers settings start → (∀ u, RunsOrStops settings (start.programs u)) →
    Crowd.Runs (aroundChannel settings) start (before ++ after) crowd → (holdings start before t).loops = true →
    after.head?.any Turn.grantsStop = true → (∀ turn ∈ after, turn.breaksOff = false) →
    ∀ turn ∈ after, turn.pulls t = false

/-- A service that has trouble with the first pull; while the consumer is deleted for that, another thread asks the
loop to stop. -/
def Surroundings.askedWhileCleaning : Surroundings :=
  { Surroundings.scripted
      [.ok (some "\x7b\"consumerInstanceId\": \"c\"\x7d"), .ok none, .error (.transient "trouble" none)] []
      (.ok (.bool true)) with
    meanwhile := fun _ call flags =>
      match call with
      | .send _ request => if request.method = .delete then flags.tryRequestStop.2 else flags
      | _ => flags }

/-- A run in these surroundings. -/
def askedRun : Except Failure Unit × Chronicle :=
  exec (Surroundings.askedWhileCleaning.hosting committing 0 1) (run committing 2 (some 0) (.single "t")) (.start 0)

/-- Four threads: two run, and two stop. -/
def contestMoves (t : Thread) : List Move :=
  if t = 1 ∨ t = 3 then [.run 2 (some 0) (.single "t")] else if t = 2 ∨ t = 4 then [.stop 1] else []

/-- Threads that run and stop a new channel. -/
def contest : Crowd Shared where
  memory := ⟨State.initial, fun _ => .empty⟩
  programs t := client committing (contestMoves t)

/-- The second thread asks the loop of the first one to stop and sees it end; the third thread's loop begins and has a
subscription under way, and the fourth is about to ask it to stop. -/
def contestBefore : List Turn × Crowd Shared :=
  drive obliging [(1, 5), (2, 6), (1, 7), (2, 1), (3, 33), (4, 1)] contest

/-- The fourth thread asks, the second takes its own request back, and the third goes on. -/
def contestAfter : List Turn × Crowd Shared := drive obliging [(4, 1), (2, 2), (3, 8)] contestBefore.2

private theorem runsOrStops_contest (t : Thread) : RunsOrStops committing (contest.programs t) := by
  refine ⟨contestMoves t, rfl, ?_⟩
  unfold contestMoves
  split
  · exact .inr (List.forall_mem_singleton.mpr ⟨2, some 0, .single "t", rfl⟩)
  · split
    · exact .inl (List.forall_mem_singleton.mpr trivial)
    · exact .inl (List.forall_mem_nil _)

/-- Two ways in which asking a loop to stop may come to less than it says. A loop that is cleaning up after a failure
raises that failure, although nothing fails any more. And whoever has waited for the end of an earlier loop may take
back what another thread has asked of this one. -/
theorem asked_loop_may_fail_or_go_on : ¬ AskedRunsEndWell ∧ ¬ AskedLoopsPullNoMore := by
  constructor
  · intro always
    have ill : askedRun.1.isOk = false := by decide +kernel
    have asked : (askedRun.2.events.drop 9).head?.any (fun e =>
        e.asks .askedWhileCleaning (askedRun.2.events.take 9) && e.deletes) = true := by decide +kernel
    have rest : (askedRun.2.events.drop 9).tail.all (fun f =>
        (!f.memory.flags.running || f.memory.flags.stopRequested) && !f.isSignal) = true := by decide +kernel
    cases dropped : askedRun.2.events.drop 9 with
    | nil =>
      rw [dropped] at asked
      cases asked
    | cons e after =>
      rw [dropped] at asked rest
      have split : askedRun.2.events = askedRun.2.events.take 9 ++ e :: after := by
        rw [← dropped, List.take_append_drop]
      have ran : exec (Surroundings.askedWhileCleaning.hosting committing 0 1)
          (run committing 2 (some 0) (.single "t")) (.start 0) = (askedRun.1, askedRun.2) := by
        unfold askedRun
        exact (Prod.eta _).symm
      rw [List.head?_cons, Option.any_some, Bool.and_eq_true] at asked
      have quiet := List.all_eq_true.mp rest
      have well := always .askedWhileCleaning committing 0 1 2 (some 0) (.single "t") (.start 0) askedRun.2
        askedRun.1 (askedRun.2.events.take 9) after e (attained_start committing 0 0) (.inl rfl)
        ⟨fun _ _ => rfl, fun _ _ => rfl, fun _ _ => rfl, fun _ _ => rfl, fun _ => ⟨_, rfl⟩⟩ ran split
        ⟨_, (List.nil_append _).symm⟩ asked.1 asked.2
        (fun f member running => by simpa [running] using (Bool.and_eq_true_iff.mp (quiet f member)).1)
        (fun f member => by simpa using (Bool.and_eq_true_iff.mp (quiet f member)).2)
      rw [well] at ill
      cases ill
  · intro always
    have gathers : Gathers committing contest := ⟨⟨.empty, 0, rfl⟩, fun t => ⟨contestMoves t, rfl⟩⟩
    have runs : Crowd.Runs (aroundChannel committing) contest (contestBefore.1 ++ contestAfter.1) contestAfter.2 :=
      (runs_drive obliging _ contest).trans (runs_drive obliging _ contestBefore.2)
    have loops : (holdings contest contestBefore.1 3).loops = true := by decide +kernel
    have granted : contestAfter.1.head?.any Turn.grantsStop = true := by decide +kernel
    have onward : contestAfter.1.all (fun turn => !turn.breaksOff) = true := by decide +kernel
    have pulls : contestAfter.1.any (Turn.pulls 3) = true := by decide +kernel
    obtain ⟨turn, taken, pulls⟩ := List.any_eq_true.mp pulls
    have idle := always committing contest contestAfter.2 contestBefore.1 contestAfter.1 3 gathers
      runsOrStops_contest runs loops granted
      (fun turn taken => by simpa using List.all_eq_true.mp onward turn taken) turn taken
    rw [pulls] at idle
    cases idle

end ConsumerChannel.Channel
