import ConsumerChannel.Proofs.Crowd
import ConsumerChannel.Proofs.Parts

/-! Who has the guard. Whatever threads do around it, and in whichever order they come to it, the guard stands
as the claims that each has made and not given up: at most one thread has any, and the guard is then that
thread's to exactly their number. -/
namespace ConsumerChannel

namespace Guard

/-- The guard is as the claims of the threads have it. -/
inductive Counts (claims : Thread → Nat) : Guard → Prop where
  /-- Nobody has a claim. -/
  | free (nobody : ∀ t, claims t = 0) : Counts claims .free
  /-- One thread has claims, and no other one has. -/
  | owned {t : Thread} {depth : Nat} (counted : claims t = depth + 1) (alone : ∀ u, u ≠ t → claims u = 0) :
      Counts claims ⟨some t, depth + 1⟩

namespace Counts
variable {g other : Guard} {claims : Thread → Nat} {t : Thread}

theorem alone (counts : Counts claims g) {u : Thread} (first : 0 < claims t) (second : 0 < claims u) :
    t = u := by
  cases counts with
  | free nobody => exact absurd (nobody t) (Nat.ne_of_gt first)
  | owned counted alone =>
    have mine (v : Thread) (has : 0 < claims v) : v = _ :=
      Decidable.byContradiction fun other => Nat.ne_of_gt has (alone v other)
    rw [mine t first, mine u second]

theorem others (counts : Counts claims g) (claimed : 0 < claims t) {u : Thread} (different : u ≠ t) :
    claims u = 0 :=
  Nat.eq_zero_of_not_pos fun has => different (counts.alone has claimed)

theorem is_owned (counts : Counts claims g) (claimed : 0 < claims t) : g = ⟨some t, claims t⟩ := by
  cases counts with
  | free nobody => exact absurd (nobody t) (Nat.ne_of_gt claimed)
  | @owned owner depth counted alone =>
    have owns : 0 < claims owner := by omega
    rw [← Counts.alone (.owned counted alone) owns claimed, counted]

theorem is_free (counts : Counts claims g) (nobody : ∀ t, claims t = 0) : g = .free := by
  cases counts with
  | free _ => rfl
  | owned counted _ => exact absurd ((nobody _).symm.trans counted) (Nat.succ_ne_zero _).symm

/-- Claims leave the guard no choice. -/
theorem unique (first : Counts claims g) (second : Counts claims other) : g = other := by
  cases first with
  | free nobody => exact (second.is_free nobody).symm
  | @owned owner depth counted _ =>
    have owns : 0 < claims owner := by omega
    rw [second.is_owned owns, counted]

/-- A claim is granted exactly if no other thread has one, and is then counted. -/
theorem acquire (counts : Counts claims g) (t : Thread) (api : Option String) :
    (∃ later, g.acquire t api = .ok later ∧ (∀ u, u ≠ t → claims u = 0) ∧
        Counts (Channel.assign claims t (claims t + 1)) later) ∨
      g.acquire t api = .error (.transient contentionMessage api) ∧ ∃ u, u ≠ t ∧ 0 < claims u := by
  have granted (alone : ∀ u, u ≠ t → claims u = 0) :
      Counts (Channel.assign claims t (claims t + 1)) ⟨some t, claims t + 1⟩ := by
    refine .owned (Channel.assign_self ..) fun u different => ?_
    rw [Channel.assign_other _ _ different, alone u different]
  cases counts with
  | free nobody =>
    have first := granted fun u _ => nobody u
    rw [nobody t] at first ⊢
    exact .inl ⟨_, rfl, fun u _ => nobody u, first⟩
  | @owned owner depth counted alone =>
    by_cases same : owner = t
    · subst same
      rw [counted] at granted ⊢
      exact .inl ⟨_, by simp [Guard.acquire], alone, granted alone⟩
    · exact .inr ⟨by simp [Guard.acquire, same], owner, same, by omega⟩

/-- A claim that a thread has can be given up, and counts no more. -/
theorem release (counts : Counts claims g) (claimed : 0 < claims t) :
    ∃ later, g.release = .ok later ∧ Counts (Channel.assign claims t (claims t - 1)) later := by
  have alone (u : Thread) (different : u ≠ t) : Channel.assign claims t (claims t - 1) u = 0 := by
    rw [Channel.assign_other _ _ different]
    exact counts.others claimed different
  rw [counts.is_owned claimed]
  match count : claims t with
  | 0 => omega
  | 1 =>
    refine ⟨.free, rfl, .free fun u => ?_⟩
    by_cases same : u = t
    · subst same
      exact Channel.assign_self ..
    · simpa [count] using alone u same
  | depth + 2 =>
    refine ⟨⟨some t, depth + 1⟩, rfl, .owned (Channel.assign_self ..) fun u different => ?_⟩
    simpa [count] using alone u different

theorem heldBy_iff (counts : Counts claims g) : g.heldBy t = true ↔ 0 < claims t := by
  constructor
  · intro held
    cases counts with
    | free _ => cases held
    | owned counted _ =>
      rw [← Option.some.inj (eq_of_beq held), counted]
      exact Nat.succ_pos _
  · intro claimed
    rw [counts.is_owned claimed]
    exact beq_self_eq_true _

end Counts

end Guard

namespace Channel
open Operation

/-- Threads around a guard. Steps are taken on it as on the memory of a channel, of which everything else may
be anything. -/
def aroundGuard : World Guard where
  answers t q g answer later :=
    match q, answer with
    | .step s, answer => ∃ m : State, m.guard = g ∧ (s.apply t m).1 = answer ∧ (s.apply t m).2.guard = later
    | .outside _, _ => later = g
  aside _ _ := False

/-- Threads give up only claims that they have. -/
def releasing : Discipline Nat where
  permits claims
    | .step .release => 0 < claims
    | _ => True
  allows _ _ _ := True
  after claims
    | .step (.acquire _), .ok _ => claims + 1
    | .step .release, _ => claims - 1
    | _, _ => claims

/-- A program that gives up only claims that it has made, whatever it is answered. -/
def Releases (program : Program Query Query.Answer α) : Prop := Obeys releasing program 0 fun _ _ => True

/-- The claims that each thread has made and not given up. -/
def claims (turns : List Turn) : Thread → Nat := releasing.accounts (fun _ => 0) turns

/-- A claim of the guard for an operation that need not have a name, which is given up again unless the channel
is active. -/
def claimActive (api : Option String) : Operation Unit := do
  ExceptT.mk (ask (.step (.acquire api)))
  if !(← session).active then
    release
    throw (.permanent destroyedMessage api)

/-- An operation of a channel claims the guard by its name. -/
theorem acquireActive_eq (api : String) : acquireActive api = claimActive (some api) := rfl

/-- A claim for an active channel gives up only what it has claimed, and keeps it only if it is granted. -/
theorem obeys_claimActive (api : Option String) (before : Nat) :
    Obeys releasing (claimActive api).run before fun r later =>
      (r = .ok () → later = before + 1) ∧ ∀ e, r = .error e → later = before := by
  refine ⟨trivial, fun answer _ => ?_⟩
  cases answer with
  | error e => exact ⟨nofun, fun _ _ => rfl⟩
  | ok _ =>
    refine ⟨trivial, fun (s : Session String Value) _ => ?_⟩
    show Obeys releasing (if !s.active then release >>= fun _ => throw _ else pure ()).run (before + 1) _
    split
    · refine ⟨Nat.succ_pos _, fun answer _ => ?_⟩
      cases answer with
      | ok _ => exact ⟨nofun, fun _ _ => rfl⟩
      | error e => exact ⟨nofun, fun _ _ => rfl⟩
    · exact ⟨fun _ => rfl, nofun⟩

/-! ## The guard as it stands -/

/-- The guard goes on to stand as the claims have it. -/
theorem releasing_governs : releasing.Governs aroundGuard Guard.Counts where
  aside _ may := may.elim
  turn := by
    intro claims t q g answer later counts permitted answers
    refine ⟨trivial, ?_⟩
    cases q with
    | outside call =>
      cases answers
      exact (assign_same claims t).symm ▸ counts
    | step s =>
      obtain ⟨m, rfl, rfl, rfl⟩ := answers
      by_cases writes : s.part = some .guard
      · cases s with
        | acquire api =>
          rcases counts.acquire t api with ⟨claimed, granted, -, counted⟩ | ⟨refused, -⟩
          · simp only [Step.apply, granted, Step.attempt]
            exact counted
          · simp only [Step.apply, refused, Step.attempt]
            exact (assign_same claims t).symm ▸ counts
        | release =>
          obtain ⟨freed, released, counted⟩ := counts.release permitted
          simp only [Step.apply, released, Step.attempt]
          exact counted
        | _ => cases writes
      · have uncounted : releasing.after (claims t) (.step s) (s.apply t m).1 = claims t := by
          cases s with
          | acquire api => exact absurd rfl writes
          | release => exact absurd rfl writes
          | _ => rfl
        have same : (s.apply t m).2.guard = m.guard := s.apply_leaves writes t m
        rw [uncounted, assign_same, same]
        exact counts

/-! ## Exclusion -/

/-- What a guard owes to the claims that threads have made, and how it goes on from there. -/
structure Excludes (turns : List Turn) (crowd : Crowd Guard) : Prop where
  /-- At most one thread has claims. -/
  alone : ∀ t u, 0 < claims turns t → 0 < claims turns u → t = u
  /-- A thread that has claims owns the guard, to exactly their number. -/
  owned : ∀ t, 0 < claims turns t → crowd.memory = ⟨some t, claims turns t⟩
  /-- Where nobody has a claim, nobody owns the guard. -/
  free : (∀ t, claims turns t = 0) → crowd.memory = .free
  /-- A claim is granted exactly if no other thread has one. -/
  granted : ∀ t api answer later, crowd.Takes aroundGuard ⟨t, .step (.acquire api), answer⟩ later →
    (answer = .ok () ↔ ∀ u, u ≠ t → claims turns u = 0)
  /-- A claim is refused only because another thread has one, and leaves the guard as it is. -/
  refused : ∀ t api e later, crowd.Takes aroundGuard ⟨t, .step (.acquire api), .error e⟩ later →
    e = .transient contentionMessage api ∧ later.memory = crowd.memory
  /-- A claim that is given up again for an inactive channel leaves the guard as it was. -/
  inactive : ∀ t api between later, Crowd.Runs aroundGuard crowd between later →
    CarriesOut t (claimActive api).run (.error (.permanent destroyedMessage api)) between →
      later.memory = crowd.memory
  /-- A claim is never given up in vain. -/
  released : ∀ t answer later, crowd.Takes aroundGuard ⟨t, .step .release, answer⟩ later → answer = .ok ()

/-- A claim that ends with an inactive channel was granted, or refused for that very reason. -/
theorem leaves_inactive {api : Option String} {turns : List Turn}
    (leaves : Leaves turns (claimActive api).run (.done (.error (.permanent destroyedMessage api)))) :
    (∃ t, turns = [⟨t, .step (.acquire api), .error (.permanent destroyedMessage api)⟩]) ∨
      ∃ t u v s answer, turns =
        [⟨t, .step (.acquire api), .ok ()⟩, ⟨u, .step .session, s⟩, ⟨v, .step .release, answer⟩] := by
  obtain _ | ⟨acquired, turns⟩ := turns
  · cases leaves
  obtain ⟨t, granted, rfl, leaves⟩ := leaves
  cases granted with
  | error e =>
    obtain _ | ⟨looked, turns⟩ := turns
    · cases leaves
      exact .inl ⟨t, rfl⟩
    · cases leaves
  | ok _ =>
    obtain _ | ⟨looked, turns⟩ := turns
    · cases leaves
    obtain ⟨u, (s : Session String Value), rfl, leaves⟩ := leaves
    change Leaves turns (if !s.active then release >>= fun _ => throw _ else pure ()).run _ at leaves
    split at leaves
    · obtain _ | ⟨gaveUp, turns⟩ := turns
      · cases leaves
      obtain ⟨v, answer, rfl, leaves⟩ := leaves
      obtain _ | ⟨more, turns⟩ := turns
      · exact .inr ⟨t, u, v, s, answer, rfl⟩
      · cases answer <;> cases leaves
    · cases turns <;> cases leaves

section
variable {start crowd later : Crowd Guard} {turns : List Turn} {t u : Thread}

theorem claims_other (q : Query) (answer : q.Answer) (different : u ≠ t) :
    claims (turns ++ [⟨t, q, answer⟩]) u = claims turns u := by
  rw [claims, accounts_snoc, assign_other _ _ different]
  rfl

theorem claims_append (more : List Turn) :
    claims (turns ++ more) t = releasing.account (claims turns t) (own t more) := by
  rw [claims, accounts_append]
  rfl

theorem counts_nothing (free : start.memory = .free) : Guard.Counts (fun _ => 0) start.memory := by
  rw [free]
  exact .free fun _ => rfl

/-- A guard that was free at first stands as the claims have it at every moment. -/
theorem counts_claims (free : start.memory = .free) (releases : ∀ t, Releases (start.programs t))
    (runs : Crowd.Runs aroundGuard start turns crowd) : Guard.Counts (claims turns) crowd.memory :=
  (releasing_governs.runs (counts_nothing free) releases runs).1

/-- The thread that asks to give a claim up has one. -/
private theorem claims_pos_of_release (free : start.memory = .free) (releases : ∀ t, Releases (start.programs t))
    (runs : Crowd.Runs aroundGuard start turns crowd) {answer : Except Failure Unit}
    (takes : crowd.Takes aroundGuard ⟨t, .step .release, answer⟩ later) : 0 < claims turns t :=
  releasing_governs.permitted (counts_nothing free) releases runs takes

/-- A claim is granted if no other thread has one, and refused otherwise. -/
theorem attempts (counts : Guard.Counts (claims turns) crowd.memory) {api : Option String}
    {answer : Except Failure Unit}
    (takes : crowd.Takes aroundGuard ⟨t, .step (.acquire api), answer⟩ later) :
    (answer = .ok () ∧ ∀ u, u ≠ t → claims turns u = 0) ∨
      answer = .error (.transient contentionMessage api) ∧ later.memory = crowd.memory ∧
        ∃ u, u ≠ t ∧ 0 < claims turns u := by
  obtain ⟨m, guard, (answered : (Step.apply t (.acquire api) m).1 = answer),
    (left : (Step.apply t (.acquire api) m).2.guard = later.memory)⟩ := takes.answers
  rw [← answered, ← left]
  rcases counts.acquire t api with ⟨claimed, granted, alone, -⟩ | ⟨refused, other⟩
  · simp only [Step.apply, guard, granted, Step.attempt]
    exact .inl ⟨trivial, alone⟩
  · simp only [Step.apply, guard, refused, Step.attempt]
    exact .inr ⟨trivial, trivial, other⟩

/-- A thread that carries a claim out to find the channel inactive leaves everybody's claims as they were. -/
private theorem claims_of_inactive (free : start.memory = .free) (releases : ∀ t, Releases (start.programs t))
    (runs : Crowd.Runs aroundGuard start turns crowd) {api : Option String} {between : List Turn}
    (goes : Crowd.Runs aroundGuard crowd between later)
    (carries : CarriesOut t (claimActive api).run (.error (.permanent destroyedMessage api)) between) :
    claims (turns ++ between) = claims turns := by
  obtain ⟨q, answer, rest, first⟩ := carries.first
  have begun : own t between = ⟨t, q, answer⟩ :: own t rest := by rw [first, own_first]
  -- The first turn asks for the guard, in a crowd whose claims are those at the start.
  have asked : ∃ (before : Crowd Guard) (next : Crowd Guard), before.Takes aroundGuard ⟨t, q, answer⟩ next ∧
      Guard.Counts (claims turns) before.memory := by
    have whole := runs.trans goes
    rw [first, List.append_cons] at whole
    obtain ⟨between, early, -⟩ := whole.split
    obtain ⟨before, next, earlier, takes, -⟩ := early.last
    exact ⟨before, next, takes, counts_claims free releases earlier⟩
  obtain ⟨before, next, takes, counts⟩ := asked
  rcases leaves_inactive carries.leaves with ⟨u, refused⟩ | ⟨u, v, w, s, released, three⟩
  · obtain ⟨⟨⟩, -⟩ := List.cons.inj (begun.symm.trans refused)
    rcases attempts counts takes with ⟨⟨⟩, -⟩ | ⟨⟨⟩, -⟩
  · obtain ⟨⟨⟩, -⟩ := List.cons.inj (begun.symm.trans three)
    have alone : ∀ u, u ≠ t → claims turns u = 0 := by
      rcases attempts counts takes with ⟨-, alone⟩ | ⟨⟨⟩, -⟩
      exact alone
    -- Before the last turn, the thread has one more claim, so nobody else has any.
    obtain ⟨q, answer, past, ended⟩ := carries.last
    have inside : own t past = [⟨t, .step (.acquire api), .ok ()⟩, ⟨v, .step .session, s⟩] := by
      have both : own t past ++ [⟨t, q, answer⟩] =
          [⟨t, .step (.acquire api), .ok ()⟩, ⟨v, .step .session, s⟩] ++ [⟨w, .step .release, released⟩] := by
        rw [← own_mine, ← own_append, ← ended]
        exact three
      exact (List.append_inj' both rfl).1
    have held : claims (turns ++ past) t = claims turns t + 1 := by
      rw [claims_append, inside]
      rfl
    have others (u : Thread) (different : u ≠ t) : claims (turns ++ past) u = 0 := by
      have whole := runs.trans goes
      rw [ended, ← List.append_assoc] at whole
      obtain ⟨last, early, -⟩ := whole.split
      exact (counts_claims free releases early).others (by omega) different
    funext u
    by_cases same : u = t
    · subst same
      rw [claims_append, three]
      rfl
    · rw [ended, ← List.append_assoc, claims_other _ _ same, others u same, alone u same]

/-- Whatever threads do that give up only claims of their own, the guard excludes. -/
theorem guard_excludes (free : start.memory = .free) (releases : ∀ t, Releases (start.programs t))
    (runs : Crowd.Runs aroundGuard start turns crowd) : Excludes turns crowd := by
  have counts := counts_claims free releases runs
  exact {
    alone := fun t u => counts.alone
    owned := fun t => counts.is_owned
    free := counts.is_free
    granted := fun t api answer later takes => by
      rcases attempts counts takes with ⟨granted, alone⟩ | ⟨refused, -, u, different, claimed⟩
      · exact ⟨fun _ => alone, fun _ => granted⟩
      · refine ⟨fun granted => ?_, fun alone => ?_⟩
        · rw [granted] at refused
          cases refused
        · exact absurd (alone u different) (Nat.ne_of_gt claimed)
    refused := fun t api e later takes => by
      rcases attempts counts takes with ⟨⟨⟩, -⟩ | ⟨refused, same, -⟩
      exact ⟨Except.error.inj refused, same⟩
    inactive := fun t api between later goes carries => by
      have after := counts_claims free releases (runs.trans goes)
      rw [claims_of_inactive free releases runs goes carries] at after
      exact after.unique counts
    released := fun t answer later takes => by
      obtain ⟨m, guard, (answered : (Step.apply t .release m).1 = answer), -⟩ := takes.answers
      obtain ⟨freed, released, -⟩ := counts.release (claims_pos_of_release free releases runs takes)
      rw [← answered]
      simp only [Step.apply, guard, released, Step.attempt]
      rfl }

/-- Two threads that both claim the guard for an operation of a channel, of which one gives it up again. -/
def rivals : Crowd Guard where
  memory := .free
  programs t :=
    if t = 1 then (do acquireActive Api.create.name; release).run >>= fun _ => .done ()
    else if t = 2 then (acquireActive Api.delete.name).run >>= fun _ => .done ()
    else .done ()

theorem releases_rivals (t : Thread) : Releases (rivals.programs t) := by
  unfold rivals
  simp only
  rw [acquireActive_eq, acquireActive_eq]
  split
  · have both : Obeys releasing (do claimActive (some Api.create.name); release).run 0 fun _ _ => True := by
      refine (obeys_claimActive _ 0).bind ?_ fun _ _ _ => trivial
      rintro _ later ⟨claimed, -⟩
      cases claimed rfl
      exact ⟨Nat.one_pos, fun _ _ => trivial⟩
    exact both.andThen fun _ _ _ => trivial
  · split
    · exact (obeys_claimActive _ 0).andThen fun _ _ _ => trivial
    · exact trivial

/-- The guard excludes the second of two rivals. -/
theorem guard_excludes_rivals :
    rivals.memory = .free ∧ (∀ t, Releases (rivals.programs t)) ∧ ∃ turns crowd,
      Crowd.Runs aroundGuard rivals turns crowd ∧ claims turns 1 = 1 ∧ turns.length = 2 ∧
        Excludes turns crowd := by
  have first : Crowd.Runs aroundGuard rivals ([] ++ [⟨1, .step (.acquire (some "create")), .ok ()⟩])
      ⟨⟨some 1, 1⟩, _⟩ :=
    .turn .start ⟨⟨_, rfl, rfl⟩, State.initial, rfl, rfl, rfl⟩
  have second : Crowd.Runs aroundGuard rivals
      ([] ++ [⟨1, .step (.acquire (some "create")), .ok ()⟩] ++ [⟨2, .step (.acquire (some "delete")),
        .error (.transient contentionMessage (some "delete"))⟩]) ⟨⟨some 1, 1⟩, _⟩ :=
    .turn first ⟨⟨_, rfl, rfl⟩, { State.initial with guard := ⟨some 1, 1⟩ }, rfl, rfl, rfl⟩
  exact ⟨rfl, releases_rivals, _, _, second, rfl, rfl, guard_excludes rfl releases_rivals second⟩

end

end Channel

end ConsumerChannel
