import ConsumerChannel.Channel.Operation

/-! Disciplines of programs. An account says what a program has asked and been answered so far; it settles
what the program may ask next and which answers are possible. Obedience is a matter of the program alone,
whichever host answers it and whoever else the host answers in between. -/
namespace ConsumerChannel.Channel
open Operation

/-- What programs are held to by their accounts. -/
structure Discipline (σ : Type) where
  /-- What may be asked. -/
  permits : σ → Query → Prop
  /-- What can be answered. -/
  allows : σ → (q : Query) → q.Answer → Prop
  /-- The account once a question is answered. -/
  after : σ → (q : Query) → q.Answer → σ

/-- A program asks only what is permitted, whatever it is answered, and result and account are related in the
end as stated. -/
def Obeys (d : Discipline σ) : Program Query Query.Answer α → σ → (α → σ → Prop) → Prop
  | .done a, account, post => post a account
  | .ask q next, account, post => d.permits account q ∧ ∀ answer, d.allows account q answer →
      Obeys d (next answer) (d.after account q answer) post

section
variable {d : Discipline σ} {account : σ} {calm calmer : σ → Prop}

theorem Obeys.weaken {p : Program Query Query.Answer α} {post weaker : α → σ → Prop}
    (obeys : Obeys d p account post) (weaken : ∀ a later, post a later → weaker a later) :
    Obeys d p account weaker := by
  induction p generalizing account with
  | done a => exact weaken a account obeys
  | ask q next ih => exact ⟨obeys.1, fun answer allowed => ih answer (obeys.2 answer allowed)⟩

/-- One program after another. -/
theorem Obeys.andThen {p : Program Query Query.Answer α} {f : α → Program Query Query.Answer β}
    {post : α → σ → Prop} {last : β → σ → Prop} (obeys : Obeys d p account post)
    (goes : ∀ a later, post a later → Obeys d (f a) later last) : Obeys d (p >>= f) account last := by
  show Obeys d (p.andThen f) account last
  induction p generalizing account with
  | done a => exact goes a account obeys
  | ask q next ih => exact ⟨obeys.1, fun answer allowed => ih answer (obeys.2 answer allowed)⟩

/-! ## Operations -/

/-- A sequence: what holds after a failure of the first part holds in the end. -/
theorem Obeys.bind {first : Operation α} {next : α → Operation β} {post : Except Failure α → σ → Prop}
    {last : Except Failure β → σ → Prop} (obeys : Obeys d first.run account post)
    (passed : ∀ a later, post (.ok a) later → Obeys d (next a).run later last)
    (failed : ∀ e later, post (.error e) later → last (.error e) later) :
    Obeys d (first >>= next).run account last := by
  show Obeys d (first.run >>= ExceptT.bindCont next) account last
  refine obeys.andThen ?_
  intro r later holds
  cases r with
  | ok a => exact passed a later holds
  | error e => exact failed e later holds

/-- A step is answered without a failure of its own. -/
theorem Obeys.step_bind {s : Step} {next : s.Reply → Operation β} {last : Except Failure β → σ → Prop}
    (permitted : d.permits account (.step s))
    (goes : ∀ answer : s.Reply, d.allows account (.step s) answer →
      Obeys d (next answer).run (d.after account (.step s) answer) last) :
    Obeys d (step s >>= next).run account last := ⟨permitted, goes⟩

/-- A sequence that goes on from whichever result of the first part. -/
theorem Obeys.outcome_bind {body : Operation α} {next : Except Failure α → Operation β}
    {post : Except Failure α → σ → Prop} {last : Except Failure β → σ → Prop}
    (obeys : Obeys d body.run account post)
    (going : ∀ r later, post r later → Obeys d (next r).run later last) :
    Obeys d (outcome body >>= next).run account last := by
  have settled : Obeys d (outcome body).run account fun r later => ∃ s, r = .ok s ∧ post s later :=
    obeys.andThen fun r later holds => ⟨r, rfl, holds⟩
  refine settled.bind ?_ ?_
  · rintro r later ⟨_, ⟨⟩, holds⟩
    exact going r later holds
  · rintro e later ⟨_, ⟨⟩, -⟩

theorem Obeys.rescue {body : Operation α} {repair : Failure → Operation α}
    {post last : Except Failure α → σ → Prop} (obeys : Obeys d body.run account post)
    (passed : ∀ a later, post (.ok a) later → last (.ok a) later)
    (repaired : ∀ e later, post (.error e) later → Obeys d (repair e).run later last) :
    Obeys d (rescue body repair).run account last := by
  refine obeys.outcome_bind ?_
  intro r later holds
  cases r with
  | ok a => exact passed a later holds
  | error e => exact repaired e later holds

/-- A block and its last part, whose failure takes the place of the result. -/
theorem Obeys.ensuring {body : Operation α} {closing : Operation Unit}
    {post last : Except Failure α → σ → Prop} (obeys : Obeys d body.run account post)
    (closed : ∀ r later, post r later → Obeys d closing.run later fun c after =>
      (c = .ok () → last r after) ∧ ∀ e, c = .error e → last (.error e) after) :
    Obeys d (ensuring body closing).run account last := by
  refine obeys.outcome_bind ?_
  intro r later holds
  refine (closed r later holds).bind ?_ ?_
  · intro _ after ended
    cases r with
    | ok a => exact ended.1 rfl
    | error e => exact ended.1 rfl
  · exact fun e after ended => ended.2 e rfl

/-! ## What operations leave as it was -/

/-- An operation that starts on a calm account leaves it as it was, whichever way it ends. -/
def Balances (d : Discipline σ) (calm : σ → Prop) (operation : Operation α) : Prop :=
  ∀ account, calm account → Obeys d operation.run account fun _ later => later = account

theorem balances_pure (a : α) : Balances d calm (pure a) := fun _ _ => rfl

theorem balances_throw (e : Failure) : Balances d calm (throw e : Operation α) := fun _ _ => rfl

theorem balances_throw_bind (e : Failure) (next : α → Operation β) :
    Balances d calm ((throw e : Operation α) >>= next) := fun _ _ => rfl

theorem balances_settle (result : Except Failure α) : Balances d calm (settle result) := by
  cases result with
  | ok a => exact balances_pure a
  | error e => exact balances_throw e

theorem balances_ofFault (result : Except Fault α) : Balances d calm (ofFault result) := by
  cases result with
  | ok a => exact balances_pure a
  | error f => exact balances_throw _

theorem Balances.bind {first : Operation α} {next : α → Operation β} (head : Balances d calm first)
    (tail : ∀ a, Balances d calm (next a)) : Balances d calm (first >>= next) := by
  intro account holds
  refine (head account holds).bind ?_ fun _ _ same => same
  rintro a later rfl
  exact tail a later holds

/-- A first part that leaves the account as it was, and whatever comes after it. -/
theorem Balances.obeys_bind {first : Operation α} {next : α → Operation β}
    {last : Except Failure β → σ → Prop} (head : Balances d calm first) (holds : calm account)
    (passed : ∀ a, Obeys d (next a).run account last) (failed : ∀ e, last (.error e) account) :
    Obeys d (first >>= next).run account last := by
  refine (head account holds).bind ?_ ?_
  · rintro a later rfl
    exact passed a
  · rintro e later rfl
    exact failed e

/-- An operation that leaves every account as it was, from one of them. -/
theorem Balances.anywhere {operation : Operation α} (balances : Balances d (fun _ => True) operation)
    (account : σ) : Obeys d operation.run account fun _ later => later = account :=
  balances account trivial

/-- A first part that leaves every account as it was, and whatever comes after it. -/
theorem Balances.anywhere_bind {first : Operation α} {next : α → Operation β}
    {last : Except Failure β → σ → Prop} (head : Balances d (fun _ => True) first)
    (passed : ∀ a, Obeys d (next a).run account last) (failed : ∀ e, last (.error e) account) :
    Obeys d (first >>= next).run account last := head.obeys_bind trivial passed failed

theorem Balances.rescue {body : Operation α} {repair : Failure → Operation α}
    (balances : Balances d calm body) (repaired : ∀ e, Balances d calm (repair e)) :
    Balances d calm (rescue body repair) := by
  intro account holds
  refine (balances account holds).rescue (fun _ _ same => same) ?_
  rintro e later rfl
  exact repaired e later holds

theorem Balances.ensuring {body : Operation α} {closing : Operation Unit}
    (balances : Balances d calm body) (closed : Balances d calm closing) :
    Balances d calm (ensuring body closing) := by
  intro account holds
  refine (balances account holds).ensuring ?_
  rintro r later rfl
  exact (closed later holds).weaken fun c after same => ⟨fun _ => same, fun _ _ => same⟩

theorem Balances.outcome {body : Operation α} (balances : Balances d calm body) :
    Balances d calm (outcome body) := fun account holds =>
  (balances account holds).andThen fun _ _ same => same

theorem Balances.strengthen {operation : Operation α} (balances : Balances d calm operation)
    (calms : ∀ account, calmer account → calm account) : Balances d calmer operation :=
  fun account holds => balances account (calms account holds)

/-! ## What operations keep true -/

/-- An operation that keeps something true of the account, whichever way it ends. -/
def Maintains (d : Discipline σ) (kept : σ → Prop) (operation : Operation α) : Prop :=
  ∀ account, kept account → Obeys d operation.run account fun _ later => kept later

variable {kept : σ → Prop}

theorem Balances.maintains {operation : Operation α} (balances : Balances d calm operation)
    (calms : ∀ account, kept account → calm account) : Maintains d kept operation := by
  intro account holds
  refine (balances account (calms account holds)).weaken ?_
  rintro r later rfl
  exact holds

theorem Maintains.bind {first : Operation α} {next : α → Operation β} (head : Maintains d kept first)
    (tail : ∀ a, Maintains d kept (next a)) : Maintains d kept (first >>= next) := fun account holds =>
  (head account holds).bind (fun a later kept => tail a later kept) fun _ _ kept => kept

theorem Maintains.rescue {body : Operation α} {repair : Failure → Operation α} (maintains : Maintains d kept body)
    (repaired : ∀ e, Maintains d kept (repair e)) : Maintains d kept (rescue body repair) := fun account holds =>
  (maintains account holds).rescue (fun _ _ kept => kept) fun e later kept => repaired e later kept

/-! ## Two disciplines at once -/

/-- What two disciplines hold programs to, each by an account of its own. -/
def Discipline.and {τ : Type} (d : Discipline σ) (e : Discipline τ) : Discipline (σ × τ) where
  permits account q := d.permits account.1 q ∧ e.permits account.2 q
  allows account q answer := d.allows account.1 q answer ∧ e.allows account.2 q answer
  after account q answer := (d.after account.1 q answer, e.after account.2 q answer)

theorem Obeys.and {τ : Type} {e : Discipline τ} {other : τ} {p : Program Query Query.Answer α}
    {post : α → σ → Prop} {last : α → τ → Prop} (first : Obeys d p account post) (second : Obeys e p other last) :
    Obeys (d.and e) p (account, other) fun a later => post a later.1 ∧ last a later.2 := by
  induction p generalizing account other with
  | done a => exact ⟨first, second⟩
  | ask q next ih =>
    refine ⟨⟨first.1, second.1⟩, fun answer allowed => ?_⟩
    exact ih answer (first.2 answer allowed.1) (second.2 answer allowed.2)

end

end ConsumerChannel.Channel
