import ConsumerChannel.Proofs.Operations

/-! What the rounds of a loop come to. A round is one of its ways out, a loop is a chain of rounds, and a
law about every run goes by induction on that chain. Logging is taken to be quiet throughout. -/
namespace ConsumerChannel.Channel
open Operation

/-- A chronicle goes on with nothing but other threads touching the flags of the loop. -/
abbrev Chronicle.Passes (surroundings : Surroundings) (c later : Chronicle) : Prop :=
  c.Becomes surroundings c.memory.session c.memory.context [] later

/-- The memory with another transport in use. -/
def State.through (m : State) (transport : Nat) : State := { m with transport := transport }

/-- What remains of the result of a deletion after a failure: another channel failure is only logged. -/
def cleanupResult : Except Failure Unit → Except Failure Unit
  | .ok _ => .ok ()
  | .error second => if second.class?.isSome then .ok () else .error second

/-! ## Relations -/

section
variable (surroundings : Surroundings) (caller : Thread) (settings : Settings)

/-- What building the session anew comes to. -/
inductive Recreates (c : Chronicle) : Except Failure Unit → Chronicle → Prop where
  | destroyed (passed : c.Passes surroundings later) (inactive : c.memory.session.active = false) :
      Recreates c (.error (.permanent destroyedMessage (some Api.delete.name))) later
  | undeleted {left : Session String Value} (passed : c.Passes surroundings d)
      (active : c.memory.session.active = true)
      (deletes : Deletes surroundings caller settings d.memory (.error e) left signals)
      (deleted : d.Becomes surroundings left d.memory.context signals later) : Recreates c (.error e) later
  | unclosed {left : Session String Value} (passed : c.Passes surroundings d)
      (active : c.memory.session.active = true)
      (deletes : Deletes surroundings caller settings d.memory (.ok ()) left signals)
      (deleted : d.Becomes surroundings left d.memory.context signals k)
      (closed : k.Becomes surroundings k.memory.session k.memory.context
        [⟨k.memory, .closed k.memory.transport (.error e)⟩] later)
      (careless : ¬ surroundings.Dependable) : Recreates c (.error e) later
  | unopened {left : Session String Value} (passed : c.Passes surroundings d)
      (active : c.memory.session.active = true)
      (deletes : Deletes surroundings caller settings d.memory (.ok ()) left signals)
      (deleted : d.Becomes surroundings left d.memory.context signals k)
      (closed : k.Becomes surroundings k.memory.session k.memory.context
        [⟨k.memory, .closed k.memory.transport (.ok ())⟩] l)
      (opened : l.Becomes surroundings l.memory.session l.memory.context [⟨l.memory, .opened (.error e)⟩]
        later)
      (careless : ¬ surroundings.Dependable) : Recreates c (.error e) later
  | rebuilt {left fresh : Session String Value} (passed : c.Passes surroundings d)
      (active : c.memory.session.active = true)
      (deletes : Deletes surroundings caller settings d.memory (.ok ()) left signals)
      (deleted : d.Becomes surroundings left d.memory.context signals k)
      (closed : k.Becomes surroundings k.memory.session k.memory.context
        [⟨k.memory, .closed k.memory.transport (.ok ())⟩] l)
      (opened : l.Becomes surroundings l.memory.session l.memory.context [⟨l.memory, .opened (.ok n)⟩] o)
      (creates : Creates surroundings caller settings (o.memory.through n) r fresh more)
      (created : (o.remember (o.memory.through n)).Becomes surroundings fresh o.memory.context more later) :
      Recreates c r later

/-- What deleting the consumer after a failure comes to. -/
inductive Cleans (c : Chronicle) : Except Failure Unit → Chronicle → Prop where
  | destroyed (passed : c.Passes surroundings later) (inactive : c.memory.session.active = false) :
      Cleans c (.ok ()) later
  | deleted {left : Session String Value} (passed : c.Passes surroundings d)
      (active : c.memory.session.active = true)
      (deletes : Deletes surroundings caller settings d.memory r left signals)
      (deleted : d.Becomes surroundings left d.memory.context signals k)
      (last : k.Passes surroundings later) :
      Cleans c (cleanupResult r) later

/-- What a loop makes of a failure. -/
inductive Recovers (goOn : Bool) (e : Failure) (c : Chronicle) :
    Except Failure LoopState → Chronicle → Prop where
  | foreign (other : e.class? = none ∨ e.class? = some .general) : Recovers goOn e c (.error e) c
  | lost (lost : e.class? = some .sessionLost)
      (recreates : Recreates surroundings caller settings c r later) :
      Recovers goOn e c (r.map fun _ => ⟨false, goOn && settings.retryOnFail.truthy⟩) later
  | fatal (fatal : e.class? = some .permanent ∨ e.class? = some .transient)
      (cleans : Cleans surroundings caller settings c r later) :
      Recovers goOn e c (r.bind fun _ => .error e) later

variable (nested : List Move → Chronicle → Chronicle) (callback : CallbackId) (topics : List Value)

/-- How the topics of a loop get subscribed, unless they are. -/
inductive Readies (c : Chronicle) : Bool → Except Failure Unit → Chronicle → Prop where
  | already : Readies c true (.ok ()) c
  | subscribing {left : Session String Value}
      (subscribes : Subscribes surroundings caller settings (.many topics none) c.memory r left signals)
      (became : c.Becomes surroundings left c.memory.context signals later) : Readies c false r later

/-- What the first half of a cycle comes to. -/
inductive Fetches (c : Chronicle) (subscribed : Bool) : Except Failure (Option Bool) → Chronicle → Prop where
  | unready (readies : Readies surroundings caller settings topics c subscribed (.error e) later) :
      Fetches c subscribed (.error e) later
  | stopped (readies : Readies surroundings caller settings topics c subscribed (.ok ()) later)
      (asked : later.memory.flags.stopRequested = true) : Fetches c subscribed (.ok none) later
  | unpulled {left : Session String Value}
      (readies : Readies surroundings caller settings topics c subscribed (.ok ()) d)
      (consumes : Consumes surroundings caller settings settings.consumeTimeout d.memory (.error e) left
        signals)
      (pulled : d.Becomes surroundings left d.memory.context signals later)
      (free : subscribed = false → d.memory.flags.stopRequested = false) :
      Fetches c subscribed (.error e) later
  | raised {left : Session String Value}
      (readies : Readies surroundings caller settings topics c subscribed (.ok ()) d)
      (consumes : Consumes surroundings caller settings settings.consumeTimeout d.memory (.ok batch) left
        signals)
      (pulled : d.Becomes surroundings left d.memory.context signals k)
      (handed : surroundings.outside nested (.callback callback batch left.consumer) k = (.error e, later))
      (free : subscribed = false → d.memory.flags.stopRequested = false) :
      Fetches c subscribed (.error e) later
  | handled {left : Session String Value}
      (readies : Readies surroundings caller settings topics c subscribed (.ok ()) d)
      (consumes : Consumes surroundings caller settings settings.consumeTimeout d.memory (.ok batch) left
        signals)
      (pulled : d.Becomes surroundings left d.memory.context signals k)
      (handed : surroundings.outside nested (.callback callback batch left.consumer) k = (.ok wish, later))
      (free : subscribed = false → d.memory.flags.stopRequested = false) :
      Fetches c subscribed (.ok (if later.memory.session.active then some wish.truthy else none)) later

/-- What a cycle comes to. -/
inductive Cycles (c : Chronicle) (subscribed : Bool) : Except Failure LoopState → Chronicle → Prop where
  | failed (fetches : Fetches surroundings caller settings nested callback topics c subscribed (.error e) d)
      (recovers : Recovers surroundings caller settings true e d r later) : Cycles c subscribed r later
  | ended (fetches : Fetches surroundings caller settings nested callback topics c subscribed (.ok none) later) :
      Cycles c subscribed (.ok ⟨true, false⟩) later
  | committed {left : Session String Value}
      (fetches : Fetches surroundings caller settings nested callback topics c subscribed (.ok (some goOn)) d)
      (commits : Commits surroundings caller settings d.memory (.ok ()) left signals)
      (became : d.Becomes surroundings left d.memory.context signals later) :
      Cycles c subscribed (.ok ⟨true, goOn⟩) later
  | uncommitted {left : Session String Value}
      (fetches : Fetches surroundings caller settings nested callback topics c subscribed (.ok (some goOn)) d)
      (commits : Commits surroundings caller settings d.memory (.error e) left signals)
      (became : d.Becomes surroundings left d.memory.context signals k)
      (recovers : Recovers surroundings caller settings goOn e k r later) : Cycles c subscribed r later

/-- What a loop comes to: it ends before a round, is given up, breaks off in a round, or goes on. -/
inductive Loops : Nat → LoopState → Chronicle → Except Failure Unit → Chronicle → Prop where
  | done (ended : state.goOn = false ∨ c.memory.flags.stopRequested = true) :
      Loops rounds state c (.ok ()) c
  | exhausted (going : state.goOn = true) (free : c.memory.flags.stopRequested = false) :
      Loops 0 state c (.error (.fault .unfinished)) c
  | broken (going : state.goOn = true) (free : c.memory.flags.stopRequested = false)
      (cycles : Cycles surroundings caller settings nested callback topics c state.subscribed (.error e) later) :
      Loops (rounds + 1) state c (.error e) later
  | next (going : state.goOn = true) (free : c.memory.flags.stopRequested = false)
      (cycles : Cycles surroundings caller settings nested callback topics c state.subscribed (.ok after) d)
      (loops : Loops rounds after d r later) : Loops (rounds + 1) state c r later

end

/-! ## Every run of a part is one of its ways out -/

section
variable {surroundings : Surroundings} {nested : List Move → Chronicle → Chronicle} {caller : Thread}
  {c : Chronicle} {settings : Settings}

/-- A record is logged, and time passes. -/
theorem leads_log_bind (quiet : surroundings.LogsQuietly) {level : Level} {message : String}
    {extras : List (String × Value)} {next : Unit → Operation α}
    {post : Except Failure α → Chronicle → Prop}
    (led : ∀ d, c.Passes surroundings d → Leads (surroundings.host nested caller) (next ()) d post) :
    Leads (surroundings.host nested caller) (log level message extras >>= next) c post := by
  refine (leads_log _ _ _).bind ?_ ?_
  · rintro - d ⟨-, passed⟩
    exact led d passed
  · rintro e d ⟨granted, passed⟩
    exact nomatch granted quiet

theorem leads_recreate (quiet : surroundings.LogsQuietly) (opened : c.memory.guard.OpenTo caller)
    (e : Failure) :
    Leads (surroundings.host nested caller) (recreate settings e) c
      (Recreates surroundings caller settings c) := by
  unfold recreate
  apply leads_step_bind
  apply leads_log_bind quiet
  intro d (passed : c.Passes surroundings d)
  have opened : d.memory.guard.OpenTo caller := by
    rw [passed.state.guard]
    exact opened
  cases active : c.memory.session.active with
  | false =>
    have inactive : d.memory.session.active = false := by rw [passed.state.session, active]
    refine leads_bind_of_exec (exec_named_inactive opened inactive .delete _) nofun ?_
    rintro e ⟨⟩
    exact .destroyed passed active
  | true =>
    refine (leads_delete opened (by rw [passed.state.session, active])).bind ?_ ?_
    · rintro ⟨⟩ k ⟨left, signals, deletes, deleted⟩
      refine leads_closeTransport.bind ?_ ?_
      · rintro ⟨⟩ l ⟨-, closed⟩
        refine leads_openTransport.bind ?_ ?_
        · rintro ⟨⟩ t ⟨answer, o, taken, -, result⟩
          cases answer with
          | error e => exact nomatch result.1
          | ok n =>
            obtain ⟨-, rfl⟩ := result
            refine (leads_create ?_ ?_).weaken ?_
            · show o.memory.guard.OpenTo caller
              rw [taken.state.guard, closed.state.guard, deleted.state.guard]
              exact opened
            · show o.memory.session.active = true
              rw [taken.state.session, closed.state.session, deleted.state.session]
              exact deletes.active (by rw [passed.state.session, active])
            · rintro r later ⟨fresh, more, creates, created⟩
              exact .rebuilt passed active deletes deleted closed taken creates created
        · rintro e t ⟨answer, o, taken, built, result⟩
          cases answer with
          | ok n => exact nomatch result.1
          | error f =>
            obtain ⟨⟨⟩, rfl⟩ := result
            exact .unopened passed active deletes deleted closed taken fun dependable =>
              nomatch built dependable
      · rintro e l ⟨granted, closed⟩
        exact .unclosed passed active deletes deleted closed fun dependable => (nomatch granted dependable)
    · rintro e k ⟨left, signals, deletes, deleted⟩
      exact .undeleted passed active deletes deleted

theorem leads_deleteAfterFailure (quiet : surroundings.LogsQuietly)
    (opened : c.memory.guard.OpenTo caller) (e : Failure) :
    Leads (surroundings.host nested caller) (deleteAfterFailure settings e) c
      (Cleans surroundings caller settings c) := by
  unfold deleteAfterFailure
  apply leads_step_bind
  apply leads_log_bind quiet
  intro d (passed : c.Passes surroundings d)
  apply leads_step_bind
  show Leads _ (if d.memory.session.active then _ else _) _ _
  rw [passed.state.session]
  cases active : c.memory.session.active with
  | false => exact .destroyed passed active
  | true =>
    have opened : d.memory.guard.OpenTo caller := by
      rw [passed.state.guard]
      exact opened
    refine (leads_delete opened (by rw [passed.state.session, active])).rescue ?_ ?_
    · rintro ⟨⟩ k ⟨left, signals, deletes, deleted⟩
      exact .deleted passed active deletes deleted .refl
    · rintro second k ⟨left, signals, deletes, deleted⟩
      cases kind : second.class? with
      | some class? =>
        refine (leads_log _ _ _).weaken ?_
        rintro r later ⟨granted, last⟩
        rw [granted quiet, show (.ok () : Except Failure Unit) = cleanupResult (.error second) by
          simp [cleanupResult, kind]]
        exact .deleted passed active deletes deleted last
      | none =>
        show Cleans _ _ _ _ (.error second) k
        rw [show (.error second : Except Failure Unit) = cleanupResult (.error second) by
          simp [cleanupResult, kind]]
        exact .deleted passed active deletes deleted .refl

theorem leads_recover (quiet : surroundings.LogsQuietly) (opened : c.memory.guard.OpenTo caller)
    (goOn : Bool) (e : Failure) :
    Leads (surroundings.host nested caller) (recover settings goOn e) c
      (Recovers surroundings caller settings goOn e c) := by
  unfold recover
  split
  · rename_i lost
    refine (leads_recreate quiet opened e).bind ?_ ?_
    · intro a later recreates
      exact .lost lost recreates
    · intro second later recreates
      exact .lost lost recreates
  · rename_i permanent
    refine (leads_deleteAfterFailure quiet opened e).bind ?_ ?_
    · intro a later cleans
      exact .fatal (.inl permanent) cleans
    · intro second later cleans
      exact .fatal (.inl permanent) cleans
  · rename_i transient
    refine (leads_deleteAfterFailure quiet opened e).bind ?_ ?_
    · intro a later cleans
      exact .fatal (.inr transient) cleans
    · intro second later cleans
      exact .fatal (.inr transient) cleans
  · rename_i lost permanent transient
    refine .foreign ?_
    cases kind : e.class? with
    | none => exact .inl rfl
    | some other =>
      cases other with
      | general => exact .inr rfl
      | permanent => exact absurd kind permanent
      | transient => exact absurd kind transient
      | sessionLost => exact absurd kind lost

/-! ## Cycles -/

theorem Recreates.guard {r : Except Failure Unit} {later : Chronicle}
    (recreates : Recreates surroundings caller settings c r later) :
    later.memory.guard = c.memory.guard := by
  cases recreates with
  | destroyed passed inactive => exact passed.state.guard
  | undeleted passed active deletes deleted => rw [deleted.state.guard, passed.state.guard]
  | unclosed passed active deletes deleted closed careless =>
    rw [closed.state.guard, deleted.state.guard, passed.state.guard]
  | unopened passed active deletes deleted closed opened careless =>
    rw [opened.state.guard, closed.state.guard, deleted.state.guard, passed.state.guard]
  | rebuilt passed active deletes deleted closed opened creates created =>
    have through := opened.state.guard.trans (closed.state.guard.trans
      (deleted.state.guard.trans passed.state.guard))
    exact created.state.guard.trans through

theorem Cleans.guard {r : Except Failure Unit} {later : Chronicle}
    (cleans : Cleans surroundings caller settings c r later) : later.memory.guard = c.memory.guard := by
  cases cleans with
  | destroyed passed inactive => exact passed.state.guard
  | deleted passed active deletes deleted last =>
    rw [last.state.guard, deleted.state.guard, passed.state.guard]

theorem Recovers.guard {goOn : Bool} {e : Failure} {r : Except Failure LoopState} {later : Chronicle}
    (recovers : Recovers surroundings caller settings goOn e c r later) :
    later.memory.guard = c.memory.guard := by
  cases recovers with
  | foreign other => rfl
  | lost lost recreates => exact recreates.guard
  | fatal fatal cleans => exact cleans.guard

/-- A rebuilt session is active. -/
theorem Recreates.active {later : Chronicle}
    (recreates : Recreates surroundings caller settings c (.ok ()) later) :
    later.memory.session.active = true := by
  cases recreates with
  | rebuilt passed active deletes deleted closed opened creates created =>
    rw [created.state.session]
    exact creates.held.1

variable {callback : CallbackId} {topics : List Value} {subscribed : Bool}

/-- A callback leaves the guard as it finds it. -/
def LeavesGuard (surroundings : Surroundings) (nested : List Move → Chronicle → Chronicle)
    (caller : Thread) : Prop :=
  ∀ id batch consumer c, c.memory.guard.OpenTo caller →
    (surroundings.outside nested (.callback id batch consumer) c).2.memory.guard = c.memory.guard

theorem Readies.guard {r : Except Failure Unit} {later : Chronicle}
    (readies : Readies surroundings caller settings topics c subscribed r later) :
    later.memory.guard = c.memory.guard := by
  cases readies with
  | already => rfl
  | subscribing subscribes became => exact became.state.guard

theorem Readies.active {r : Except Failure Unit} {later : Chronicle}
    (readies : Readies surroundings caller settings topics c subscribed r later)
    (active : c.memory.session.active = true) : later.memory.session.active = true := by
  cases readies with
  | already => exact active
  | subscribing subscribes became =>
    rw [became.state.session]
    exact subscribes.active active

theorem Fetches.guard {r : Except Failure (Option Bool)} {later : Chronicle}
    (fetches : Fetches surroundings caller settings nested callback topics c subscribed r later)
    (leaves : LeavesGuard surroundings nested caller) (opened : c.memory.guard.OpenTo caller) :
    later.memory.guard = c.memory.guard := by
  have handed {d k later : Chronicle} {batch : Batch} {consumer : Option String}
      {answer : Except Failure Value} (before : d.memory.guard = c.memory.guard)
      (pulled : k.memory.guard = d.memory.guard)
      (handed : surroundings.outside nested (.callback callback batch consumer) k = (answer, later)) :
      later.memory.guard = c.memory.guard := by
    have kept := leaves callback batch consumer k (by rwa [pulled, before])
    rwa [handed, pulled, before] at kept
  cases fetches with
  | unready readies => exact readies.guard
  | stopped readies asked => exact readies.guard
  | unpulled readies consumes pulled => rw [pulled.state.guard, readies.guard]
  | raised readies consumes pulled hands => exact handed readies.guard pulled.state.guard hands
  | handled readies consumes pulled hands => exact handed readies.guard pulled.state.guard hands

theorem leads_fetch (opened : c.memory.guard.OpenTo caller) (active : c.memory.session.active = true) :
    Leads (surroundings.host nested caller) (fetch settings callback topics subscribed) c
      (Fetches surroundings caller settings nested callback topics c subscribed) := by
  have rest (stopped : Bool) (d : Chronicle)
      (readies : Readies surroundings caller settings topics c subscribed (.ok ()) d)
      (asked : stopped = true → d.memory.flags.stopRequested = true)
      (unasked : stopped = false → subscribed = false → d.memory.flags.stopRequested = false) :
      Leads (surroundings.host nested caller) (do
        if stopped then return none
        let batch ← consume settings settings.consumeTimeout
        let s ← session
        let wish ← callBack callback batch s.consumer
        if (← session).active then return some wish.truthy else return none) d
        (Fetches surroundings caller settings nested callback topics c subscribed) := by
    cases stopped with
    | true => exact .stopped readies (asked rfl)
    | false =>
      simp only [Bool.false_eq_true, ↓reduceIte]
      refine (leads_consume (by rwa [readies.guard]) (readies.active active) _).bind ?_ ?_
      · rintro batch k ⟨left, signals, consumes, pulled⟩
        apply leads_step_bind
        show Leads _ (callBack callback batch k.memory.session.consumer >>= _) k _
        rw [pulled.state.session]
        cases handed : surroundings.outside nested (.callback callback batch left.consumer) k with
        | mk answer later =>
          refine leads_bind_of_exec handed ?_ ?_
          · rintro wish rfl
            apply leads_step_bind
            have handled := Fetches.handled readies consumes pulled handed (unasked rfl)
            show Leads _ (if later.memory.session.active then pure (some wish.truthy) else pure none) later _
            cases still : later.memory.session.active with
            | true =>
              rw [still] at handled
              exact handled
            | false =>
              rw [still] at handled
              exact handled
          · rintro e rfl
            exact .raised readies consumes pulled handed (unasked rfl)
      · rintro e k ⟨left, signals, consumes, pulled⟩
        exact .unpulled readies consumes pulled (unasked rfl)
  unfold fetch
  cases subscribed with
  | true => exact rest false c .already nofun fun _ => nofun
  | false =>
    simp only [Bool.false_eq_true, ↓reduceIte]
    refine (leads_subscribe opened active _).bind ?_ ?_
    · rintro ⟨⟩ d ⟨left, signals, subscribes, became⟩
      apply leads_step_bind
      exact rest _ d (.subscribing subscribes became) id fun free _ => free
    · rintro e d ⟨left, signals, subscribes, became⟩
      exact .unready (.subscribing subscribes became)

/-- Only a callback that leaves the channel active lets a cycle go on to its commit. -/
theorem Fetches.active {goOn : Bool} {later : Chronicle}
    (fetches : Fetches surroundings caller settings nested callback topics c subscribed (.ok (some goOn))
      later) : later.memory.session.active = true := by
  generalize same : (Except.ok (some goOn) : Except Failure (Option Bool)) = r at fetches
  cases fetches with
  | handled readies consumes pulled handed =>
    by_cases active : later.memory.session.active = true
    · exact active
    · simp [active] at same
  | _ => cases same

theorem leads_cycle (quiet : surroundings.LogsQuietly) (leaves : LeavesGuard surroundings nested caller)
    (opened : c.memory.guard.OpenTo caller) (active : c.memory.session.active = true) :
    Leads (surroundings.host nested caller) (cycle settings callback topics subscribed) c
      (Cycles surroundings caller settings nested callback topics c subscribed) := by
  unfold cycle
  refine (leads_fetch opened active).outcome_bind ?_
  intro r d fetches
  have still : d.memory.guard.OpenTo caller := by rwa [fetches.guard leaves opened]
  split
  · rename_i e
    refine (leads_recover quiet still true e).weaken ?_
    intro r later recovers
    exact .failed fetches recovers
  · exact .ended fetches
  · rename_i goOn
    have committing : Leads (surroundings.host nested caller)
        (do commit settings; return ⟨true, goOn⟩ : Operation LoopState) d fun r k =>
        ∃ left signals, d.Becomes surroundings left d.memory.context signals k ∧
          match r with
          | .ok next => next = ⟨true, goOn⟩ ∧ Commits surroundings caller settings d.memory (.ok ()) left signals
          | .error e => Commits surroundings caller settings d.memory (.error e) left signals := by
      refine (leads_commit still fetches.active).bind ?_ ?_
      · rintro ⟨⟩ k ⟨left, signals, commits, became⟩
        exact ⟨left, signals, became, rfl, commits⟩
      · rintro e k ⟨left, signals, commits, became⟩
        exact ⟨left, signals, became, commits⟩
    refine committing.rescue ?_ ?_
    · rintro a k ⟨left, signals, became, rfl, commits⟩
      exact .committed fetches commits became
    · rintro e k ⟨left, signals, became, commits⟩
      have again : k.memory.guard.OpenTo caller := by rwa [became.state.guard]
      refine (leads_recover quiet again goOn e).weaken ?_
      intro r later recovers
      exact .uncommitted fetches commits became recovers

theorem Cycles.guard {r : Except Failure LoopState} {later : Chronicle}
    (cycles : Cycles surroundings caller settings nested callback topics c subscribed r later)
    (leaves : LeavesGuard surroundings nested caller) (opened : c.memory.guard.OpenTo caller) :
    later.memory.guard = c.memory.guard := by
  cases cycles with
  | failed fetches recovers => rw [recovers.guard, fetches.guard leaves opened]
  | ended fetches => exact fetches.guard leaves opened
  | committed fetches commits became => rw [became.state.guard, fetches.guard leaves opened]
  | uncommitted fetches commits became recovers =>
    rw [recovers.guard, became.state.guard, fetches.guard leaves opened]

theorem Recovers.active {goOn : Bool} {e : Failure} {next : LoopState} {later : Chronicle}
    (recovers : Recovers surroundings caller settings goOn e c (.ok next) later) :
    later.memory.session.active = true := by
  generalize same : (Except.ok next : Except Failure LoopState) = r at recovers
  cases recovers with
  | foreign other => cases same
  | @lost r _ lost recreates =>
    cases r with
    | ok _ => exact recreates.active
    | error e => cases same
  | @fatal r _ fatal cleans => cases r <;> cases same

/-- A loop that goes on has an active channel. -/
theorem Cycles.active {next : LoopState} {later : Chronicle}
    (cycles : Cycles surroundings caller settings nested callback topics c subscribed (.ok next) later)
    (going : next.goOn = true) : later.memory.session.active = true := by
  cases cycles with
  | failed fetches recovers => exact recovers.active
  | ended fetches => cases going
  | committed fetches commits became =>
    rw [became.state.session, commits.session_eq]
    exact fetches.active
  | uncommitted fetches commits became recovers => exact recovers.active

/-! ## The loop -/

theorem exec_goesOn {state : LoopState} :
    exec (surroundings.host nested caller) (goesOn state) c =
      (.ok (state.goOn && !c.memory.flags.stopRequested), c) := by
  unfold goesOn
  cases state.goOn <;> rfl

theorem leads_goesOn_bind {state : LoopState} {next : Bool → Operation α}
    {post : Except Failure α → Chronicle → Prop}
    (ended : state.goOn = false ∨ c.memory.flags.stopRequested = true →
      Leads (surroundings.host nested caller) (next false) c post)
    (going : state.goOn = true → c.memory.flags.stopRequested = false →
      Leads (surroundings.host nested caller) (next true) c post) :
    Leads (surroundings.host nested caller) (goesOn state >>= next) c post := by
  refine leads_bind_of_exec exec_goesOn ?_ nofun
  rintro more ⟨⟩
  cases goOn : state.goOn with
  | false => exact ended (.inl goOn)
  | true =>
    cases asked : c.memory.flags.stopRequested with
    | false => exact going goOn asked
    | true => exact ended (.inr asked)

theorem leads_loop (quiet : surroundings.LogsQuietly) (leaves : LeavesGuard surroundings nested caller)
    (opened : c.memory.guard.OpenTo caller) {state : LoopState}
    (active : state.goOn = true → c.memory.session.active = true) (rounds : Nat) :
    Leads (surroundings.host nested caller) (loop settings callback topics rounds state) c
      (Loops surroundings caller settings nested callback topics rounds state c) := by
  induction rounds generalizing c state with
  | zero =>
    unfold loop
    apply leads_goesOn_bind
    · exact fun ended => .done ended
    · exact fun going free => .exhausted going free
  | succ rounds ih =>
    unfold loop
    apply leads_goesOn_bind
    · exact fun ended => .done ended
    · intro going free
      refine (leads_cycle quiet leaves opened (active going)).bind ?_ ?_
      · intro next d cycles
        have still : d.memory.guard.OpenTo caller := by rwa [cycles.guard leaves opened]
        refine (ih still cycles.active).weaken ?_
        intro r later loops
        exact .next going free cycles loops
      · intro e later cycles
        exact .broken going free cycles

end

/-! ## What is seen of rounds -/

/-- An event of getting rid of a consumer or of getting a new one. -/
inductive Event.Repairs (settings : Settings) (e : Event) : Prop where
  | creation (sends : e.Sends (.creation settings body) answer)
  | deletion {consumer : String} (sends : e.Sends (.deletion settings consumer) answer)
  | closed (closed : e.happening = .closed n answer)
  | opened (opened : e.happening = .opened answer)

/-- An event of getting topics subscribed. -/
inductive Event.Builds (settings : Settings) (topics : Topics) (e : Event) : Prop where
  | repairs (repairs : e.Repairs settings)
  | subscription {consumer : String} {names : List String}
      (wanted : wantedTopics topics = .ok chosen) (texts : Arguments.Texts chosen names)
      (sends : e.Sends (.subscription settings consumer names) answer)

section
variable {surroundings : Surroundings} {caller : Thread} {settings : Settings} {c later : Chronicle}
  {m : State} {left : Session String Value} {signals : List Event}

theorem Creates.repairs {r : Except Failure Unit}
    (creates : Creates surroundings caller settings m r left signals) :
    ∀ e ∈ signals, e.Repairs settings := by
  have asks {within : State} {n : Nat} {body : String} {answer : Except Failure (Option String)} :
      Event.Repairs settings ⟨within, .sent n (.creation settings body) answer⟩ := .creation ⟨n, rfl⟩
  cases creates with
  | groupless missing => exact List.forall_mem_nil _
  | unsent e reason => exact List.forall_mem_nil _
  | failed written amid e => exact List.forall_mem_singleton.mpr asks
  | unread written amid meaningless misread => exact List.forall_mem_singleton.mpr asks
  | made written amid named quiet => exact List.forall_mem_singleton.mpr asks

theorem Equips.repairs (equips : Equips surroundings caller settings m left signals) :
    ∀ e ∈ signals, e.Repairs settings := by
  cases equips with
  | held holding => exact List.forall_mem_nil _
  | created lacking creates => exact creates.repairs

theorem Subscribes.builds {topics : Topics} {r : Except Failure Unit}
    (subscribes : Subscribes surroundings caller settings topics m r left signals) :
    ∀ e ∈ signals, e.Builds settings topics := by
  cases subscribes with
  | topicless refused => exact List.forall_mem_nil _
  | uncreated wanted lacking creates => exact fun e member => .repairs (creates.repairs e member)
  | unwritten wanted equips refused => exact fun e member => .repairs (equips.repairs e member)
  | failed wanted texts equips held amid e =>
    refine List.forall_mem_append.mpr ⟨fun e member => .repairs (equips.repairs e member), ?_⟩
    exact List.forall_mem_singleton.mpr (.subscription wanted texts ⟨_, rfl⟩)
  | done wanted texts equips held amid quiet =>
    refine List.forall_mem_append.mpr ⟨fun e member => .repairs (equips.repairs e member), ?_⟩
    exact List.forall_mem_singleton.mpr (.subscription wanted texts ⟨_, rfl⟩)

theorem Deletes.repairs {r : Except Failure Unit}
    (deletes : Deletes surroundings caller settings m r left signals) :
    ∀ e ∈ signals, e.Repairs settings := by
  cases deletes with
  | unheld absent => exact List.forall_mem_nil _
  | sent held amid settled => exact List.forall_mem_singleton.mpr (.deletion ⟨_, rfl⟩)

theorem Recreates.repairs {r : Except Failure Unit}
    (recreates : Recreates surroundings caller settings c r later) :
    c.Adds (Event.Repairs settings) later := by
  have passes {d : Chronicle} (passed : c.Passes surroundings d) : c.Adds (Event.Repairs settings) d :=
    passed.adds (List.forall_mem_nil _)
  cases recreates with
  | destroyed passed inactive => exact passes passed
  | undeleted passed active deletes deleted => exact (passes passed).trans (deleted.adds deletes.repairs)
  | unclosed passed active deletes deleted closed careless =>
    exact ((passes passed).trans (deleted.adds deletes.repairs)).trans (.one closed.signals (.closed rfl))
  | unopened passed active deletes deleted closed opened careless =>
    have before := ((passes passed).trans (deleted.adds deletes.repairs)).trans
      (.one closed.signals (.closed rfl))
    exact before.trans (.one opened.signals (.opened rfl))
  | rebuilt passed active deletes deleted closed opened creates created =>
    have before := ((passes passed).trans (deleted.adds deletes.repairs)).trans
      (.one closed.signals (.closed rfl))
    exact (before.trans (.one opened.signals (.opened rfl))).trans (created.adds creates.repairs)

theorem Cleans.repairs {r : Except Failure Unit} (cleans : Cleans surroundings caller settings c r later) :
    c.Adds (Event.Repairs settings) later := by
  cases cleans with
  | destroyed passed inactive => exact passed.adds (List.forall_mem_nil _)
  | deleted passed active deletes deleted last =>
    exact ((passed.adds (List.forall_mem_nil _)).trans (deleted.adds deletes.repairs)).trans
      (last.adds (List.forall_mem_nil _))

theorem Recovers.repairs {goOn : Bool} {e : Failure} {r : Except Failure LoopState}
    (recovers : Recovers surroundings caller settings goOn e c r later) :
    c.Adds (Event.Repairs settings) later := by
  cases recovers with
  | foreign other => exact .none rfl
  | lost lost recreates => exact recreates.repairs
  | fatal fatal cleans => exact cleans.repairs

theorem Readies.builds {topics : List Value} {subscribed : Bool} {r : Except Failure Unit}
    (readies : Readies surroundings caller settings topics c subscribed r later) :
    c.Adds (Event.Builds settings (.many topics none)) later := by
  cases readies with
  | already => exact .none rfl
  | subscribing subscribes became => exact became.adds subscribes.builds

end

end ConsumerChannel.Channel
