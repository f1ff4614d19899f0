import ConsumerChannel.Proofs.Chronicle

/-! Who is let in. An operation of a thread that may claim the guard of an active channel runs inside it,
with its log records attributed, and leaves guard and log context as it found them. A destroyed channel
refuses every operation without a trace. -/
namespace ConsumerChannel

namespace Guard
variable {g : Guard} {caller : Thread}

/-- The thread may claim the guard: nobody has it, or the thread itself. -/
def OpenTo (g : Guard) (caller : Thread) : Prop := g = .free ∨ ∃ depth, g = ⟨some caller, depth + 1⟩

/-- The guard with one more claim of the thread. -/
def claimed (g : Guard) (caller : Thread) : Guard := ⟨some caller, g.depth + 1⟩

theorem openTo_claimed : (g.claimed caller).OpenTo caller := .inr ⟨g.depth, rfl⟩

theorem OpenTo.acquire (opened : g.OpenTo caller) (api : Option String) :
    g.acquire caller api = .ok (g.claimed caller) := by
  obtain rfl | ⟨depth, rfl⟩ := opened
  · rfl
  · simp [Guard.acquire, claimed]

theorem OpenTo.release (opened : g.OpenTo caller) : (g.claimed caller).release = .ok g := by
  obtain rfl | ⟨depth, rfl⟩ := opened <;> rfl

end Guard

namespace Channel
open Operation

/-- The change of log context that an operation makes for its length. -/
def attribution (settings : Settings) (api : Api) (session : Session String Value) : LogContext.Change :=
  ⟨match settings.group with
    | .null => none
    | given => some given, session.consumer.map .text, some (.text api.name)⟩

/-- The memory inside an operation. -/
def State.inside (m : State) (caller : Thread) (settings : Settings) (api : Api) : State :=
  { m with
    guard := m.guard.claimed caller
    context := m.context.apply (attribution settings api m.session) }

/-- A memory with another guard. -/
def State.guarded (m : State) (guard : Guard) : State := { m with guard := guard }

/-- A memory with another log context. -/
def State.attributed (m : State) (context : LogContext) : State := { m with context := context }

section
variable {surroundings : Surroundings} {nested : List Move → Chronicle → Chronicle} {caller : Thread}
  {c : Chronicle} {settings : Settings} {post : Except Failure α → Chronicle → Prop}

theorem leads_acquire (opened : c.memory.guard.OpenTo caller) (api : String) :
    Leads (surroundings.host nested caller) (acquire api) c fun r later =>
      r = .ok () ∧ later = c.remember (c.memory.guarded (c.memory.guard.claimed caller)) := by
  have taken : Step.apply caller (.acquire (some api)) c.memory =
      (.ok (), c.memory.guarded (c.memory.guard.claimed caller)) := by
    simp only [Step.apply, opened.acquire, Step.attempt]
    rfl
  show (Step.apply caller (.acquire (some api)) c.memory).1 = .ok () ∧
    c.remember (Step.apply caller (.acquire (some api)) c.memory).2 = _
  rw [taken]
  exact ⟨rfl, rfl⟩

theorem leads_release {g : Guard} (opened : g.OpenTo caller) (held : c.memory.guard = g.claimed caller) :
    Leads (surroundings.host nested caller) release c fun r later =>
      r = .ok () ∧ later = c.remember (c.memory.guarded g) := by
  have taken : Step.apply caller .release c.memory = (.ok (), c.memory.guarded g) := by
    simp only [Step.apply, held, opened.release, Step.attempt]
    rfl
  show (Step.apply caller .release c.memory).1 = .ok () ∧
    c.remember (Step.apply caller .release c.memory).2 = _
  rw [taken]
  exact ⟨rfl, rfl⟩

theorem leads_acquireActive (opened : c.memory.guard.OpenTo caller)
    (active : c.memory.session.active = true) (api : String) :
    Leads (surroundings.host nested caller) (acquireActive api) c fun r later =>
      r = .ok () ∧ later = c.remember (c.memory.guarded (c.memory.guard.claimed caller)) := by
  unfold acquireActive
  refine (leads_acquire opened api).bind ?_ (by simp)
  rintro - t ⟨-, rfl⟩
  apply leads_step_bind
  simp only [Step.apply, State.guarded, memory_remember, active, Bool.not_true, Bool.false_eq_true,
    ↓reduceIte]
  exact ⟨rfl, rfl⟩

theorem leads_acquireActive_inactive (opened : c.memory.guard.OpenTo caller)
    (inactive : c.memory.session.active = false) (api : String) :
    Leads (surroundings.host nested caller) (acquireActive api) c fun r later =>
      r = .error (.permanent destroyedMessage (some api)) ∧ later = c := by
  unfold acquireActive
  refine (leads_acquire opened api).bind ?_ (by simp)
  rintro - t ⟨-, rfl⟩
  apply leads_step_bind
  simp only [Step.apply, State.guarded, memory_remember, inactive, Bool.not_false, ↓reduceIte]
  refine (leads_release opened rfl).bind ?_ (by simp)
  rintro - t ⟨-, rfl⟩
  exact ⟨rfl, rfl⟩

/-- A block under the guard, which claims and releases in between as it likes. -/
theorem leads_holding (opened : c.memory.guard.OpenTo caller) (active : c.memory.session.active = true)
    {api : String} {body : Operation α}
    (led : Leads (surroundings.host nested caller) body
      (c.remember (c.memory.guarded (c.memory.guard.claimed caller))) fun r later =>
        later.memory.guard = c.memory.guard.claimed caller ∧
          post r (later.remember (later.memory.guarded c.memory.guard))) :
    Leads (surroundings.host nested caller) (holding api body) c post := by
  unfold holding
  refine (leads_acquireActive opened active api).bind ?_ (by simp)
  rintro - t ⟨-, rfl⟩
  refine led.ensuring ?_
  rintro r t ⟨held, holds⟩
  refine (leads_release opened held).weaken ?_
  rintro - u ⟨rfl, rfl⟩
  exact ⟨rfl, holds⟩

theorem leads_inContext {change : LogContext.Change} {body : Operation α}
    (led : Leads (surroundings.host nested caller) body
      (c.remember (c.memory.attributed (c.memory.context.apply change))) fun r later =>
        post r (later.remember (later.memory.attributed c.memory.context))) :
    Leads (surroundings.host nested caller) (inContext change body) c post := by
  unfold inContext
  apply leads_step_bind
  apply leads_step_bind
  refine led.ensuring ?_
  intro r t holds
  exact ⟨rfl, holds⟩

/-- What an operation comes to is what its block comes to inside. -/
theorem leads_named (opened : c.memory.guard.OpenTo caller) (active : c.memory.session.active = true)
    {api : Api} {body : Operation α} {outcome : Except Failure α → Session String Value → List Event → Prop}
    (led : Leads (surroundings.host nested caller) body (c.remember (c.memory.inside caller settings api))
      fun r later => ∃ session context signals, outcome r session signals ∧
        (c.remember (c.memory.inside caller settings api)).Becomes surroundings session context signals
          later) :
    Leads (surroundings.host nested caller) (named settings api body) c fun r later =>
      ∃ session signals, outcome r session signals ∧
        c.Becomes surroundings session c.memory.context signals later := by
  unfold named
  apply leads_holding opened active
  apply leads_step_bind
  apply leads_inContext
  refine led.weaken ?_
  rintro r later ⟨session, context, signals, holds, became⟩
  refine ⟨became.state.guard, session, signals, holds, ?_, became.signals⟩
  exact ⟨rfl, became.state.session, rfl, became.state.destroying, became.state.transport,
    became.state.flags⟩

/-- A destroyed channel refuses an operation without a trace. -/
theorem exec_named_inactive (opened : c.memory.guard.OpenTo caller)
    (inactive : c.memory.session.active = false) (api : Api) (body : Operation α) :
    exec (surroundings.host nested caller) (named settings api body) c =
      (.error (.permanent destroyedMessage (some api.name)), c) := by
  have led : Leads (surroundings.host nested caller) (named settings api body) c fun r later =>
      r = .error (.permanent destroyedMessage (some api.name)) ∧ later = c := by
    unfold named holding
    refine (leads_acquireActive_inactive opened inactive api.name).bind (by simp) ?_
    rintro e t ⟨failed, rfl⟩
    cases failed
    exact ⟨rfl, rfl⟩
  exact Prod.ext led.1 led.2

end

end Channel

end ConsumerChannel
