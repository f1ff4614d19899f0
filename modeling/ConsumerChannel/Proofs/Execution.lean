import ConsumerChannel.Channel.Operation

/-! Operations run on a host. What a composed operation leads to follows from what its parts lead to,
and what every part keeps is kept by the whole. -/
namespace ConsumerChannel.Channel.Operation
variable {σ α β : Type} {host : (q : Query) → σ → q.Answer × σ} {s : σ}
  {post : Except Failure α → σ → Prop} {last : Except Failure β → σ → Prop}

/-- The result of an operation on a host, and the state that it leaves. -/
def exec (host : (q : Query) → σ → q.Answer × σ) (operation : Operation α) (s : σ) :
    Except Failure α × σ :=
  operation.run.execute host s

/-- The result of an operation and the state that it leaves are related as stated. -/
def Leads (host : (q : Query) → σ → q.Answer × σ) (operation : Operation α) (s : σ)
    (post : Except Failure α → σ → Prop) : Prop :=
  post (exec host operation s).1 (exec host operation s).2

/-! ## Results of composed operations -/

@[simp] theorem exec_pure (a : α) : exec host (pure a) s = (.ok a, s) := rfl

@[simp] theorem exec_throw (e : Failure) :
    exec host (throw e : Operation α) s = (.error e, s) := rfl

theorem exec_bind (first : Operation α) (next : α → Operation β) :
    exec host (first >>= next) s =
      match exec host first s with
      | (.ok a, t) => exec host (next a) t
      | (.error e, t) => (.error e, t) := by
  show Program.execute host (ExceptT.run first >>= ExceptT.bindCont next) s = _
  rw [Program.execute_bind]
  cases ran : exec host first s with
  | mk result t =>
    rw [show Program.execute host first.run s = (result, t) from ran]
    cases result <;> rfl

theorem exec_bind_ok {first : Operation α} {next : α → Operation β} {a : α} {t : σ}
    (ran : exec host first s = (.ok a, t)) : exec host (first >>= next) s = exec host (next a) t := by
  rw [exec_bind, ran]

theorem exec_bind_error {first : Operation α} {next : α → Operation β} {e : Failure} {t : σ}
    (ran : exec host first s = (.error e, t)) : exec host (first >>= next) s = (.error e, t) := by
  rw [exec_bind, ran]

/-- A sequence comes to its end through both parts, or fails in the first. -/
theorem exec_bind_cases {first : Operation α} {next : α → Operation β} {r : Except Failure β} {u : σ}
    (ran : exec host (first >>= next) s = (r, u)) :
    (∃ a t, exec host first s = (.ok a, t) ∧ exec host (next a) t = (r, u)) ∨
      ∃ e, exec host first s = (.error e, u) ∧ r = .error e := by
  rw [exec_bind] at ran
  cases head : exec host first s with
  | mk result t =>
    rw [head] at ran
    cases result with
    | ok a => exact .inl ⟨a, t, rfl, ran⟩
    | error e =>
      cases ran
      exact .inr ⟨e, rfl, rfl⟩

@[simp] theorem exec_settle (result : Except Failure α) : exec host (settle result) s = (result, s) := by
  cases result <;> rfl

theorem mapError_eq_ok {ε δ : Type} {result : Except ε α} {f : ε → δ} {a : α}
    (well : result.mapError f = .ok a) :
    result = .ok a := by
  cases result with
  | ok b =>
    cases well
    rfl
  | error e => cases well

theorem mapError_eq_error {ε δ : Type} {result : Except ε α} {f : ε → δ} {d : δ}
    (ill : result.mapError f = .error d) :
    ∃ e, result = .error e ∧ d = f e := by
  cases result with
  | ok b => cases ill
  | error e =>
    cases ill
    exact ⟨e, rfl, rfl⟩

@[simp] theorem exec_ofFault (result : Except Fault α) :
    exec host (ofFault result) s = (result.mapError .fault, s) := by
  cases result <;> rfl

@[simp] theorem exec_lift (program : Program Query Query.Answer α) :
    exec host (ExceptT.lift program) s = (.ok (program.execute host s).1, (program.execute host s).2) := by
  show Program.execute host (program >>= fun a => Program.done (Except.ok a)) s = _
  rw [Program.execute_bind]
  rfl

@[simp] theorem exec_outcome (body : Operation α) :
    exec host (outcome body) s = (.ok (exec host body s).1, (exec host body s).2) := by
  rw [outcome, exec_lift]
  rfl

theorem exec_ensuring (body : Operation α) (closing : Operation Unit) :
    exec host (ensuring body closing) s =
      match exec host closing (exec host body s).2 with
      | (.ok _, t) => ((exec host body s).1, t)
      | (.error e, t) => (.error e, t) := by
  simp only [ensuring, exec_bind, exec_outcome, exec_settle]
  cases ran : exec host closing (exec host body s).2 with
  | mk result t => cases result <;> rfl

theorem exec_rescue (body : Operation α) (repair : Failure → Operation α) :
    exec host (rescue body repair) s =
      match exec host body s with
      | (.ok a, t) => (.ok a, t)
      | (.error e, t) => exec host (repair e) t := by
  simp only [rescue, exec_bind, exec_outcome]
  cases ran : exec host body s with
  | mk result t => cases result <;> rfl

/-! ## Rules -/

theorem leads_iff (operation : Operation α) :
    Leads host operation s post ↔ ∀ r t, exec host operation s = (r, t) → post r t :=
  ⟨fun led r t ran => by simpa [Leads, ran] using led, fun all => all _ _ rfl⟩

theorem Leads.weaken {weaker : Except Failure α → σ → Prop} {operation : Operation α}
    (led : Leads host operation s post) (weaken : ∀ r t, post r t → weaker r t) :
    Leads host operation s weaker :=
  weaken _ _ led

/-- What is known of an execution may be used beside the execution itself. -/
theorem Leads.traced {operation : Operation α} (led : Leads host operation s post) :
    Leads host operation s fun r t => exec host operation s = (r, t) ∧ post r t :=
  ⟨rfl, led⟩

/-- A sequence: what holds after a failure of the first part holds in the end. -/
theorem Leads.bind {first : Operation α} {next : α → Operation β} (led : Leads host first s post)
    (passed : ∀ a t, post (.ok a) t → Leads host (next a) t last)
    (failed : ∀ e t, post (.error e) t → last (.error e) t) :
    Leads host (first >>= next) s last := by
  unfold Leads at led ⊢
  rw [exec_bind]
  cases ran : exec host first s with
  | mk result t =>
    rw [ran] at led
    cases result with
    | ok a => exact passed a t led
    | error e => exact failed e t led

/-- A sequence whose first part is known. -/
theorem leads_bind_of_exec {first : Operation α} {next : α → Operation β} {r : Except Failure α} {t : σ}
    (ran : exec host first s = (r, t)) (passed : ∀ a, r = .ok a → Leads host (next a) t last)
    (failed : ∀ e, r = .error e → last (.error e) t) : Leads host (first >>= next) s last := by
  unfold Leads
  rw [exec_bind, ran]
  cases r with
  | ok a => exact passed a rfl
  | error e => exact failed e rfl

/-- A sequence of three parts may be taken apart anywhere. -/
theorem Leads.assoc {γ : Type} {first : Operation α} {second : α → Operation β} {third : β → Operation γ}
    {last : Except Failure γ → σ → Prop} (led : Leads host (first >>= second >>= third) s last) :
    Leads host (first >>= fun a => second a >>= third) s last := by
  unfold Leads at led ⊢
  rw [exec_bind, exec_bind] at led
  rw [exec_bind]
  cases ran : exec host first s with
  | mk result t =>
    rw [ran] at led
    cases result with
    | ok a =>
      show last (exec host (second a >>= third) t).1 (exec host (second a >>= third) t).2
      rwa [exec_bind]
    | error e => exact led

/-- A block and its last part, whose failure takes the place of the result. -/
theorem Leads.lastly {body : Operation α} {closing : Operation Unit} (led : Leads host body s post)
    (closed : ∀ r t, post r t → Leads host closing t fun c u =>
      (c = .ok () → after r u) ∧ ∀ e, c = .error e → after (.error e) u) :
    Leads host (ensuring body closing) s after := by
  unfold Leads
  rw [exec_ensuring]
  have ended := closed _ _ led
  unfold Leads at ended
  cases ran : exec host closing (exec host body s).2 with
  | mk c u =>
    rw [ran] at ended
    cases c with
    | ok _ => exact ended.1 rfl
    | error e => exact ended.2 e rfl

/-- A block and its last part, which never fails where the block may leave it. -/
theorem Leads.ensuring {body : Operation α} {closing : Operation Unit}
    (led : Leads host body s post)
    (closed : ∀ r t, post r t → Leads host closing t fun c u => c = .ok () ∧ after r u) :
    Leads host (ensuring body closing) s after := by
  refine led.lastly ?_
  intro r t held
  refine (closed r t held).weaken ?_
  rintro c u ⟨rfl, holds⟩
  exact ⟨fun _ => holds, nofun⟩

theorem Leads.rescue {body : Operation α} {repair : Failure → Operation α}
    (led : Leads host body s post) (passed : ∀ a t, post (.ok a) t → after (.ok a) t)
    (repaired : ∀ e t, post (.error e) t → Leads host (repair e) t after) :
    Leads host (rescue body repair) s after := by
  unfold Leads at led ⊢
  rw [exec_rescue]
  cases ran : exec host body s with
  | mk result t =>
    rw [ran] at led
    cases result with
    | ok a => exact passed a t led
    | error e => exact repaired e t led

theorem Leads.outcome {body : Operation α} {after : Except Failure (Except Failure α) → σ → Prop}
    (led : Leads host body s fun r t => after (.ok r) t) : Leads host (outcome body) s after := by
  unfold Leads
  rw [exec_outcome]
  exact led

/-- A sequence that goes on from whichever result of the first part. -/
theorem Leads.outcome_bind {body : Operation α} {next : Except Failure α → Operation β}
    (led : Leads host body s post) (going : ∀ r t, post r t → Leads host (next r) t last) :
    Leads host (Operation.outcome body >>= next) s last := by
  unfold Leads
  rw [exec_bind, exec_outcome]
  exact going _ _ led

/-! ## What operations keep -/

/-- An operation never leaves the states of an invariant. -/
def Keeps (host : (q : Query) → σ → q.Answer × σ) (invariant : σ → Prop) (operation : Operation α) :
    Prop :=
  ∀ s, invariant s → Leads host operation s fun _ t => invariant t

variable {invariant : σ → Prop}

theorem keeps_pure (a : α) : Keeps host invariant (pure a) := fun _ held => held

theorem keeps_throw (e : Failure) : Keeps host invariant (throw e : Operation α) := fun _ held => held

theorem keeps_throw_bind (e : Failure) (next : α → Operation β) :
    Keeps host invariant ((throw e : Operation α) >>= next) := fun _ held => held

theorem keeps_settle (result : Except Failure α) : Keeps host invariant (settle result) := by
  cases result with
  | ok a => exact keeps_pure a
  | error e => exact keeps_throw e

theorem Keeps.bind {first : Operation α} {next : α → Operation β} (head : Keeps host invariant first)
    (tail : ∀ a, Keeps host invariant (next a)) : Keeps host invariant (first >>= next) :=
  fun s held => (head s held).bind (fun a t => tail a t) fun _ _ => id

theorem Keeps.outcome {body : Operation α} (kept : Keeps host invariant body) :
    Keeps host invariant (outcome body) := fun s held => (kept s held).outcome

theorem Keeps.rescue {body : Operation α} {repair : Failure → Operation α}
    (kept : Keeps host invariant body) (repaired : ∀ e, Keeps host invariant (repair e)) :
    Keeps host invariant (rescue body repair) :=
  fun s held => (kept s held).rescue (fun _ _ => id) fun e t => repaired e t

theorem Keeps.ensuring {body : Operation α} {closing : Operation Unit}
    (kept : Keeps host invariant body) (closed : Keeps host invariant closing) :
    Keeps host invariant (ensuring body closing) :=
  Keeps.bind kept.outcome fun r => Keeps.bind closed fun _ => keeps_settle r

end ConsumerChannel.Channel.Operation
