import ConsumerChannel.Proofs.Discipline

/-! Threads in turn. Each thread goes on with its own program; what the threads share changes one question at
a time, and any thread may be next. What a discipline holds every program to, and what its accounts say about
the memory, last over every interleaving. -/
namespace ConsumerChannel.Channel

/-- A question of a thread and its answer. -/
structure Turn where
  thread : Thread
  query : Query
  answer : query.Answer

/-- The turns that one thread took. -/
def own (t : Thread) (turns : List Turn) : List Turn := turns.filter fun turn => turn.thread == t

/-- No other thread takes a turn. -/
def Undivided (t : Thread) (turns : List Turn) : Prop := ∀ turn ∈ turns, turn.thread = t

/-- Threads that share a memory, each with what is left of its program. -/
structure Crowd (μ : Type) where
  memory : μ
  programs : Thread → Program Query Query.Answer Unit

/-- A choice for every thread, with another one for one of them. -/
def assign (choice : Thread → α) (t : Thread) (a : α) : Thread → α :=
  fun u => if u = t then a else choice u

/-- How threads are answered from what they share. -/
structure World (μ : Type) where
  /-- A question of a thread, the memory that it meets, the answer, and the memory that it leaves. -/
  answers : Thread → (q : Query) → μ → q.Answer → μ → Prop
  /-- What a thread may do before its question is answered. -/
  aside : Query → Program Query Query.Answer Unit → Prop

/-- A thread asks the next question of its program and goes on with the answer. -/
structure Crowd.Takes (world : World μ) (crowd : Crowd μ) (turn : Turn) (later : Crowd μ) : Prop where
  asks : ∃ next, crowd.programs turn.thread = .ask turn.query next ∧
    later.programs = assign crowd.programs turn.thread (next turn.answer)
  answers : world.answers turn.thread turn.query crowd.memory turn.answer later.memory

/-- A thread does something else before its question is answered. -/
structure Crowd.Digresses (world : World μ) (crowd : Crowd μ) (t : Thread) (later : Crowd μ) : Prop where
  asks : ∃ q next program, crowd.programs t = .ask q next ∧ world.aside q program ∧
    later.programs = assign crowd.programs t (program >>= fun _ => .ask q next)
  memory : later.memory = crowd.memory

/-- The turns that lead from a crowd to another one. -/
inductive Crowd.Runs (world : World μ) (start : Crowd μ) : List Turn → Crowd μ → Prop where
  | start : Runs world start [] start
  | turn (runs : Runs world start turns crowd) (takes : crowd.Takes world turn later) :
      Runs world start (turns ++ [turn]) later
  | aside (runs : Runs world start turns crowd) (digresses : crowd.Digresses world t later) :
      Runs world start turns later

/-- Turns that answer the questions of a program leave the rest of it. -/
def Leaves : List Turn → Program Query Query.Answer α → Program Query Query.Answer α → Prop
  | [], program, left => program = left
  | _ :: _, .done _, _ => False
  | turn :: rest, .ask q next, left => ∃ t answer, turn = ⟨t, q, answer⟩ ∧ Leaves rest (next answer) left

/-- A thread carries a program out, from its first turn to its last, while others may take turns of theirs. -/
structure CarriesOut (t : Thread) (program : Program Query Query.Answer α) (a : α) (turns : List Turn) :
    Prop where
  begins : turns.head?.map Turn.thread = some t
  ends : turns.getLast?.map Turn.thread = some t
  leaves : Leaves (own t turns) program (.done a)

section
variable {world : World μ} {start crowd later : Crowd μ} {turns past : List Turn} {t u : Thread}

@[simp] theorem assign_self (choice : Thread → α) (a : α) : assign choice t a t = a := if_pos rfl

theorem assign_other (choice : Thread → α) (a : α) (other : u ≠ t) : assign choice t a u = choice u :=
  if_neg other

theorem assign_same (choice : Thread → α) (t : Thread) : assign choice t (choice t) = choice := by
  funext u
  by_cases same : u = t
  · subst same
    exact assign_self ..
  · exact assign_other _ _ same

theorem assign_assign (choice : Thread → α) (t : Thread) (a b : α) :
    assign (assign choice t a) t b = assign choice t b := by
  funext u
  by_cases same : u = t
  · subst same
    simp
  · simp [assign_other, same]

/-- What is the same of a choice for all threads, is the same of it with another one for one of them. -/
theorem assign_project (f : α → β) (choice : Thread → α) (t : Thread) (a : α) :
    (fun u => f (assign choice t a u)) = assign (fun u => f (choice u)) t (f a) := by
  funext u
  by_cases same : u = t
  · subst same
    simp
  · simp [assign_other, same]

@[simp] theorem own_append (first second : List Turn) :
    own t (first ++ second) = own t first ++ own t second := List.filter_append ..

theorem own_mine (q : Query) (answer : q.Answer) : own t [⟨t, q, answer⟩] = [⟨t, q, answer⟩] := by
  simp [own]

theorem own_first (q : Query) (answer : q.Answer) (rest : List Turn) :
    own t (⟨t, q, answer⟩ :: rest) = ⟨t, q, answer⟩ :: own t rest := by
  simp [own]

theorem own_other {turn : Turn} (other : turn.thread ≠ t) : own t [turn] = [] := by
  simp [own, other]

theorem own_of_undivided (undivided : Undivided t turns) : own t turns = turns :=
  List.filter_eq_self.mpr fun turn taken => beq_iff_eq.mpr (undivided turn taken)

theorem own_of_undivided_other {u : Thread} (undivided : Undivided t turns) (other : u ≠ t) :
    own u turns = [] :=
  List.filter_eq_nil_iff.mpr fun turn taken same =>
    other ((beq_iff_eq.mp same).symm.trans (undivided turn taken))

theorem head_of_mine (mine : ∀ turn ∈ turns, turn.thread = t) (begun : turns ≠ []) :
    turns.head?.map Turn.thread = some t := by
  obtain ⟨turn, rest, same⟩ := List.exists_cons_of_ne_nil begun
  have taken : turn ∈ turns := by simp [same]
  simp [same, mine turn taken]

theorem last_of_mine (mine : ∀ turn ∈ turns, turn.thread = t) (begun : turns ≠ []) :
    turns.getLast?.map Turn.thread = some t := by
  obtain ⟨past, turn, same⟩ := (List.eq_nil_or_concat turns).resolve_left begun
  have taken : turn ∈ turns := by simp [same]
  simp [same, mine turn taken]

/-- Turns of one run after turns of another. -/
theorem Crowd.Runs.trans (first : Crowd.Runs world start past crowd)
    (second : Crowd.Runs world crowd turns later) : Crowd.Runs world start (past ++ turns) later := by
  induction second with
  | start => simpa using first
  | turn runs takes ih =>
    rw [← List.append_assoc]
    exact ih.turn takes
  | aside runs digresses ih => exact ih.aside digresses

/-- A run stops at every moment between two of its turns. -/
theorem Crowd.Runs.split {rest : List Turn} (runs : Crowd.Runs world start (past ++ rest) later) :
    ∃ between, Crowd.Runs world start past between ∧ Crowd.Runs world between rest later := by
  generalize same : past ++ rest = turns at runs
  induction runs generalizing rest with
  | start =>
    obtain ⟨rfl, rfl⟩ := List.append_eq_nil_iff.mp same
    exact ⟨_, .start, .start⟩
  | turn runs takes ih =>
    rcases List.eq_nil_or_concat rest with rfl | ⟨front, last, rfl⟩
    · rw [List.append_nil] at same
      subst same
      exact ⟨_, .turn runs takes, .start⟩
    · rw [List.concat_eq_append, ← List.append_assoc] at same
      obtain ⟨earlier, ⟨⟩⟩ := List.append_inj' same rfl
      obtain ⟨between, before, after⟩ := ih earlier
      rw [List.concat_eq_append]
      exact ⟨between, before, after.turn takes⟩
  | aside runs digresses ih =>
    obtain ⟨between, before, after⟩ := ih same
    exact ⟨between, before, after.aside digresses⟩

/-- The last turn of a run was taken in a crowd that the turns before it lead to. -/
theorem Crowd.Runs.last {turn : Turn} (runs : Crowd.Runs world start (turns ++ [turn]) later) :
    ∃ crowd next, Crowd.Runs world start turns crowd ∧ crowd.Takes world turn next ∧
      next.memory = later.memory := by
  generalize same : turns ++ [turn] = all at runs
  induction runs with
  | start => simp at same
  | turn runs takes ih =>
    obtain ⟨rfl, ⟨⟩⟩ := List.append_inj' same rfl
    exact ⟨_, _, runs, takes, rfl⟩
  | aside runs digresses ih =>
    obtain ⟨crowd, next, earlier, takes, memory⟩ := ih same
    exact ⟨crowd, next, earlier, takes, memory.trans digresses.memory.symm⟩

/-- Every turn of a run was taken in a crowd that the turns before it lead to. -/
theorem Crowd.Runs.at_turn {turn : Turn} {rest : List Turn}
    (runs : Crowd.Runs world start (past ++ turn :: rest) later) :
    ∃ before after, Crowd.Runs world start past before ∧ before.Takes world turn after ∧
      Crowd.Runs world after rest later := by
  generalize same : past ++ turn :: rest = turns at runs
  induction runs generalizing rest with
  | start => simp at same
  | turn runs takes ih =>
    rcases List.eq_nil_or_concat rest with rfl | ⟨front, last, rfl⟩
    · obtain ⟨rfl, ⟨⟩⟩ := List.append_inj' same rfl
      exact ⟨_, _, runs, takes, .start⟩
    · rw [List.concat_eq_append, ← List.cons_append, ← List.append_assoc] at same
      obtain ⟨earlier, ⟨⟩⟩ := List.append_inj' same rfl
      obtain ⟨before, after, reached, taken, onward⟩ := ih earlier
      rw [List.concat_eq_append]
      exact ⟨before, after, reached, taken, onward.turn takes⟩
  | aside runs digresses ih =>
    obtain ⟨before, after, reached, taken, onward⟩ := ih same
    exact ⟨before, after, reached, taken, onward.aside digresses⟩

/-- No turn, no other memory. -/
theorem Crowd.Runs.memory_of_none (runs : Crowd.Runs world start turns crowd) (none : turns = []) :
    crowd.memory = start.memory := by
  induction runs with
  | start => rfl
  | turn runs takes ih => simp at none
  | aside runs digresses ih => exact digresses.memory.trans (ih none)

/-- Turns that answer a program answer it up to each moment. -/
theorem Leaves.split {more : List Turn} {program left : Program Query Query.Answer α}
    (leaves : Leaves (turns ++ more) program left) :
    ∃ between, Leaves turns program between ∧ Leaves more between left := by
  induction turns generalizing program with
  | nil => exact ⟨program, rfl, leaves⟩
  | cons turn rest ih =>
    cases program with
    | done a => exact leaves.elim
    | ask q next =>
      obtain ⟨u, answer, rfl, leaves⟩ := leaves
      obtain ⟨between, first, second⟩ := ih leaves
      exact ⟨between, ⟨u, answer, rfl, first⟩, second⟩

theorem Leaves.trans {program between left : Program Query Query.Answer α} {more : List Turn}
    (first : Leaves turns program between) (second : Leaves more between left) :
    Leaves (turns ++ more) program left := by
  induction turns generalizing program with
  | nil =>
    cases first
    exact second
  | cons turn rest ih =>
    cases program with
    | done a => exact first.elim
    | ask q next =>
      obtain ⟨t, answer, rfl, first⟩ := first
      exact ⟨t, answer, rfl, ih first⟩

/-- The first turn of what a thread carries out is its own. -/
theorem CarriesOut.first {program : Program Query Query.Answer α} {a : α}
    (carries : CarriesOut t program a turns) : ∃ q answer rest, turns = ⟨t, q, answer⟩ :: rest := by
  obtain ⟨⟨u, q, answer⟩, head, rfl⟩ := Option.map_eq_some_iff.mp carries.begins
  obtain ⟨rest, same⟩ := List.head?_eq_some_iff.mp head
  exact ⟨q, answer, rest, same⟩

/-- The last turn of what a thread carries out is its own. -/
theorem CarriesOut.last {program : Program Query Query.Answer α} {a : α}
    (carries : CarriesOut t program a turns) : ∃ q answer past, turns = past ++ [⟨t, q, answer⟩] := by
  obtain ⟨⟨u, q, answer⟩, last, rfl⟩ := Option.map_eq_some_iff.mp carries.ends
  obtain ⟨past, same⟩ := List.getLast?_eq_some_iff.mp last
  exact ⟨q, answer, past, same⟩

/-! ## Accounts -/

/-- The account once a thread has taken turns. -/
def Discipline.account (d : Discipline σ) (before : σ) (turns : List Turn) : σ :=
  turns.foldl (fun account turn => d.after account turn.query turn.answer) before

/-- The account of every thread, each over the turns of its own. -/
def Discipline.accounts (d : Discipline σ) (before : Thread → σ) (turns : List Turn) : Thread → σ :=
  fun t => d.account (before t) (own t turns)

variable {d : Discipline σ} {before : Thread → σ}

theorem accounts_snoc (q : Query) (answer : q.Answer) :
    d.accounts before (turns ++ [⟨t, q, answer⟩]) =
      assign (d.accounts before turns) t (d.after (d.accounts before turns t) q answer) := by
  funext u
  by_cases same : u = t
  · subst same
    simp [Discipline.accounts, own_mine, Discipline.account]
  · have other : own u [(⟨t, q, answer⟩ : Turn)] = [] := own_other (Ne.symm same)
    simp [Discipline.accounts, other, assign_other, same]

theorem accounts_append (more : List Turn) :
    d.accounts before (turns ++ more) = d.accounts (d.accounts before turns) more := by
  funext u
  simp [Discipline.accounts, Discipline.account]

/-- Two disciplines at once keep each an account of its own. -/
theorem account_and {τ : Type} {e : Discipline τ} {a : σ} {b : τ} :
    (d.and e).account (a, b) turns = (d.account a turns, e.account b turns) := by
  induction turns generalizing a b with
  | nil => rfl
  | cons turn rest ih => exact ih

/-- Accounts and memory bear each other out, and every turn that is permitted keeps it so. -/
structure Discipline.Governs (d : Discipline σ) (world : World μ) (sound : (Thread → σ) → μ → Prop) :
    Prop where
  turn : ∀ {accounts t q m answer later}, sound accounts m → d.permits (accounts t) q →
    world.answers t q m answer later →
      d.allows (accounts t) q answer ∧ sound (assign accounts t (d.after (accounts t) q answer)) later
  aside : ∀ {account q program}, d.permits account q → world.aside q program →
    Obeys d program account fun _ later => later = account

/-- Programs that obey go on to obey, and accounts and memory bear each other out at every moment. -/
theorem Discipline.Governs.runs {sound : (Thread → σ) → μ → Prop} (governs : d.Governs world sound)
    (sounds : sound before start.memory)
    (obey : ∀ t, Obeys d (start.programs t) (before t) fun _ _ => True)
    (runs : Crowd.Runs world start turns crowd) :
    sound (d.accounts before turns) crowd.memory ∧
      ∀ t, Obeys d (crowd.programs t) (d.accounts before turns t) fun _ _ => True := by
  induction runs with
  | start => exact ⟨sounds, obey⟩
  | @turn turns crowd turn later runs takes ih =>
    obtain ⟨t, q, answer⟩ := turn
    obtain ⟨⟨next, asks, programs⟩, answers⟩ := takes
    obtain ⟨sounds, obey⟩ := ih
    have obeys := obey t
    rw [asks] at obeys
    obtain ⟨permitted, goes⟩ := obeys
    obtain ⟨allowed, sounds⟩ := governs.turn sounds permitted answers
    rw [accounts_snoc]
    refine ⟨sounds, fun u => ?_⟩
    rw [programs]
    by_cases same : u = t
    · subst same
      rw [assign_self, assign_self]
      exact goes answer allowed
    · rw [assign_other _ _ same, assign_other _ _ same]
      exact obey u
  | @aside turns crowd t later runs digresses ih =>
    obtain ⟨⟨q, next, program, asks, may, programs⟩, memory⟩ := digresses
    obtain ⟨sounds, obey⟩ := ih
    refine ⟨by rwa [memory], fun u => ?_⟩
    rw [programs]
    by_cases same : u = t
    · subst same
      have obeys := obey u
      rw [asks] at obeys
      rw [assign_self]
      refine (governs.aside obeys.1 may).andThen ?_
      rintro - later rfl
      exact obeys
    · rw [assign_other _ _ same]
      exact obey u

/-- A thread takes only turns that its account permits. -/
theorem Discipline.Governs.permitted {sound : (Thread → σ) → μ → Prop} (governs : d.Governs world sound)
    (sounds : sound before start.memory)
    (obey : ∀ t, Obeys d (start.programs t) (before t) fun _ _ => True)
    (runs : Crowd.Runs world start turns crowd) {turn : Turn} (takes : crowd.Takes world turn later) :
    d.permits (d.accounts before turns turn.thread) turn.query := by
  obtain ⟨next, asks, -⟩ := takes.asks
  have obeys := (governs.runs sounds obey runs).2 turn.thread
  rw [asks] at obeys
  exact obeys.1

/-- Every turn of a program that obeys is permitted when it is taken, if every answer is allowed. -/
theorem Obeys.permitted {program left : Program Query Query.Answer α} {account : σ} {post : α → σ → Prop}
    (lenient : ∀ account q answer, d.allows account q answer) (obeys : Obeys d program account post)
    {q : Query} {answer : q.Answer} {rest : List Turn}
    (leaves : Leaves (past ++ ⟨t, q, answer⟩ :: rest) program left) : d.permits (d.account account past) q := by
  induction past generalizing program account with
  | nil =>
    cases program with
    | done a => exact leaves.elim
    | ask asked next =>
      obtain ⟨u, reply, ⟨⟩, -⟩ := leaves
      exact obeys.1
  | cons turn past ih =>
    cases program with
    | done a => exact leaves.elim
    | ask asked next =>
      obtain ⟨u, reply, rfl, leaves⟩ := leaves
      exact ih (obeys.2 reply (lenient ..)) leaves

end

end ConsumerChannel.Channel
