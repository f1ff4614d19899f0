import ConsumerChannel.Proofs.Sharing

/-! Calls. Whoever calls an operation takes the turns that the operation asks for, and those of the moves that a
callback makes before it comes back. A thread calls while it makes no move, or from inside a callback, and every
call leaves it with what it had. -/
namespace ConsumerChannel

namespace Program
variable {Query : Type} {Answer : Query → Type} {α β γ : Type}

theorem bind_assoc (program : Program Query Answer α) (f : α → Program Query Answer β)
    (g : β → Program Query Answer γ) : program >>= f >>= g = program >>= fun a => f a >>= g := by
  show (program.andThen f).andThen g = program.andThen fun a => (f a).andThen g
  induction program with
  | done a => rfl
  | ask q next ih => exact congrArg (ask q) (funext ih)

end Program

namespace Channel
open Operation

/-- Turns of a thread answer the questions of a program, and of what the thread does before they are answered,
and leave the rest of the program. -/
inductive Advances (world : World μ) (t : Thread) :
    List Turn → Program Query Query.Answer α → Program Query Query.Answer α → Prop where
  | stay : Advances world t [] program program
  | turn {q : Query} {next : q.Answer → Program Query Query.Answer α} (answer : q.Answer)
      (goes : Advances world t turns (next answer) left) :
      Advances world t (⟨t, q, answer⟩ :: turns) (.ask q next) left
  | aside {q : Query} {next : q.Answer → Program Query Query.Answer α} (may : world.aside q program)
      (goes : Advances world t turns (program >>= fun _ => .ask q next) left) :
      Advances world t turns (.ask q next) left

section
variable {world : World μ} {t : Thread} {turns more : List Turn}
  {program left last : Program Query Query.Answer α}

namespace Advances

theorem trans (first : Advances world t turns program left) (second : Advances world t more left last) :
    Advances world t (turns ++ more) program last := by
  induction first with
  | stay => exact second
  | turn answer goes ih => exact .turn answer (ih second)
  | aside may goes ih => exact .aside may (ih second)

/-- A program goes on with another one as it goes by itself. -/
theorem followed (advances : Advances world t turns program left) (next : α → Program Query Query.Answer β) :
    Advances world t turns (program >>= next) (left >>= next) := by
  induction advances with
  | stay => exact .stay
  | turn answer goes ih => exact .turn answer ih
  | aside may goes ih =>
    rw [Program.bind_assoc] at ih
    exact .aside may ih

/-- A program that ends does its first part and then its second one. -/
theorem split {first : Program Query Query.Answer α} {next : α → Program Query Query.Answer β} {b : β}
    (advances : Advances world t turns (first >>= next) (.done b)) :
    ∃ a past rest, turns = past ++ rest ∧ Advances world t past first (.done a) ∧
      Advances world t rest (next a) (.done b) := by
  -- By induction on the way through the whole; the first part is done once the whole is what comes after it.
  generalize whole : first >>= next = program at advances
  generalize ending : Program.done b = left at advances
  induction advances generalizing first with
  | stay =>
    cases first with
    | done a =>
      have same : next a = _ := whole
      exact ⟨a, [], [], rfl, .stay, same ▸ .stay⟩
    | ask q rest => exact nomatch whole.trans ending.symm
  | @turn turns left q rest answer goes ih =>
    cases first with
    | done a =>
      have same : next a = .ask q rest := whole
      refine ⟨a, [], _, rfl, .stay, ?_⟩
      rw [same]
      exact .turn answer goes
    | ask asked further =>
      cases whole
      obtain ⟨a, past, later, rfl, before, after⟩ := ih rfl ending
      exact ⟨a, _ :: past, later, rfl, .turn answer before, after⟩
  | @aside program turns left q rest may goes ih =>
    cases first with
    | done a =>
      have same : next a = .ask q rest := whole
      refine ⟨a, [], _, rfl, .stay, ?_⟩
      rw [same]
      exact .aside may goes
    | ask asked further =>
      cases whole
      have onward : (program >>= fun _ => Program.ask q further) >>= next =
          program >>= fun _ => .ask q fun answer => further answer >>= next := Program.bind_assoc ..
      obtain ⟨a, past, later, rfl, before, after⟩ := ih onward ending
      exact ⟨a, past, later, rfl, .aside may before, after⟩

end Advances

/-- Turns of one thread that answer the questions of a program advance it. -/
theorem Leaves.advances (leaves : Leaves turns program left) (mine : ∀ turn ∈ turns, turn.thread = t) :
    Advances world t turns program left := by
  induction turns generalizing program with
  | nil =>
    cases leaves
    exact .stay
  | cons turn rest ih =>
    cases program with
    | done a => exact leaves.elim
    | ask q next =>
      obtain ⟨u, answer, rfl, leaves⟩ := leaves
      obtain ⟨⟨⟩, others⟩ := List.forall_mem_cons.mp mine
      exact .turn answer (ih leaves others)

/-! ## What calls are answered -/

/-- Every answer is one that the account allows by then. -/
def Discipline.Allowed (d : Discipline σ) : σ → List Turn → Prop
  | _, [] => True
  | account, turn :: rest =>
    d.allows account turn.query turn.answer ∧ d.Allowed (d.after account turn.query turn.answer) rest

variable {d : Discipline σ} {account : σ}

theorem account_append (more : List Turn) :
    d.account account (turns ++ more) = d.account (d.account account turns) more := List.foldl_append

theorem allowed_append : d.Allowed account (turns ++ more) ↔
    d.Allowed account turns ∧ d.Allowed (d.account account turns) more := by
  induction turns generalizing account with
  | nil => simp [Discipline.Allowed, Discipline.account]
  | cons turn rest ih =>
    simp only [List.cons_append, Discipline.Allowed, ih, and_assoc]
    rfl

/-- A program that obeys goes on to obey, whatever the thread does aside. -/
theorem Obeys.advances {post : α → σ → Prop}
    (asides : ∀ account q program, d.permits account q → world.aside q program →
      Obeys d program account fun _ later => later = account)
    (obeys : Obeys d program account post) (advances : Advances world t turns program left)
    (allowed : d.Allowed account turns) : Obeys d left (d.account account turns) post := by
  induction advances generalizing account with
  | stay => exact obeys
  | turn answer goes ih => exact ih (obeys.2 answer allowed.1) allowed.2
  | aside may goes ih =>
    refine ih ?_ allowed
    refine (asides account _ _ obeys.1 may).andThen ?_
    rintro - later rfl
    exact obeys

/-- Every turn of a program that obeys is permitted by an account. -/
theorem Obeys.permits_turns {post : α → σ → Prop}
    (asides : ∀ account q program, d.permits account q → ¬ world.aside q program)
    (obeys : Obeys d program account post) (advances : Advances world t turns program left)
    (allowed : d.Allowed account turns) : ∀ turn ∈ turns, ∃ account, d.permits account turn.query := by
  induction advances generalizing account with
  | stay => exact List.forall_mem_nil _
  | turn answer goes ih =>
    exact List.forall_mem_cons.mpr ⟨⟨account, obeys.1⟩, ih (obeys.2 answer allowed.1) allowed.2⟩
  | aside may goes ih => exact absurd may (asides account _ _ obeys.1)

/-- What is governed is answered only as it is allowed. -/
theorem Discipline.Governs.allowed {before : Thread → σ} {start crowd : Crowd μ}
    {sound : (Thread → σ) → μ → Prop} (governs : d.Governs world sound) (sounds : sound before start.memory)
    (obey : ∀ t, Obeys d (start.programs t) (before t) fun _ _ => True)
    (runs : Crowd.Runs world start turns crowd) (t : Thread) : d.Allowed (before t) (own t turns) := by
  induction runs with
  | start => trivial
  | aside runs digresses ih => exact ih
  | @turn turns crowd turn later runs takes ih =>
    obtain ⟨u, q, answer⟩ := turn
    rw [own_append]
    by_cases same : u = t
    · subst same
      have permitted := governs.permitted sounds obey runs takes
      have allows := (governs.turn (governs.runs sounds obey runs).1 permitted takes.answers).1
      rw [own_mine]
      exact allowed_append.mpr ⟨ih, allows, trivial⟩
    · rw [own_other same, List.append_nil]
      exact ih

end

/-! ## Calls of a thread -/

section
variable {settings : Settings}

/-- After turns of its own a thread may call: it has made its moves, or it is in a callback that has made
some. -/
inductive AtLiberty (settings : Settings) (t : Thread) : List Turn → Prop where
  | outside (made : Advances (aroundChannel settings) t turns (client settings moves) (.done ())) :
      AtLiberty settings t turns
  | inside {id : CallbackId} {batch : Batch} {consumer : Option String}
      {next : Except Failure Value → Program Query Query.Answer (Except Failure Unit)}
      (free : AtLiberty settings t turns)
      (calls : Advances (aroundChannel settings) t called (Move.operation settings move).run
        (.ask (.outside (.callback id batch consumer)) next))
      (made : Advances (aroundChannel settings) t past (client settings moves) (.done ())) :
      AtLiberty settings t (turns ++ called ++ past)

/-- A thread calls an operation, and takes the turns of the call, which comes to a result. Other threads may take
turns meanwhile. -/
structure Calls (settings : Settings) (t : Thread) (before : List Turn) (move : Move) (r : Except Failure Unit)
    (turns : List Turn) : Prop where
  free : AtLiberty settings t (own t before)
  advances : Advances (aroundChannel settings) t (own t turns) (move.operation settings).run (.done r)

variable {t : Thread} {account : Holdings} {turns before : List Turn} {start middle crowd : Crowd Shared}
  {move : Move} {r : Except Failure Unit}

/-- What a callback does leaves its thread with what it had. -/
theorem obeys_aside {account : Holdings} {q : Query} {program : Program Query Query.Answer Unit}
    (permitted : Holdings.discipline.permits account q) (may : (aroundChannel settings).aside q program) :
    Obeys Holdings.discipline program account fun _ later => later = account :=
  (holdings_govern settings).aside permitted may

/-- A thread that may call has asked no loop to stop. -/
theorem AtLiberty.calm (free : AtLiberty settings t turns) (calm : account.Calm)
    (allowed : Holdings.discipline.Allowed account turns) : (Holdings.discipline.account account turns).Calm := by
  have made {moves : List Move} {account : Holdings} {past : List Turn} (calm : account.Calm)
      (made : Advances (aroundChannel settings) t past (client settings moves) (.done ()))
      (allowed : Holdings.discipline.Allowed account past) :
      (Holdings.discipline.account account past).Calm := by
    have same : Holdings.discipline.account account past = account :=
      (obeys_client moves calm).advances (fun _ _ _ => obeys_aside) made allowed
    rw [same]
    exact calm
  induction free with
  | outside goes => exact made calm goes allowed
  | inside free calls goes ih =>
    -- A callback is called only by a thread that asks no loop to stop, and its moves leave that as it was.
    obtain ⟨early, late⟩ := allowed_append.mp allowed
    obtain ⟨first, second⟩ := allowed_append.mp early
    have called := (Move.balances _ _ (ih first)).advances (fun _ _ _ => obeys_aside) calls second
    rw [account_append, account_append] at *
    exact made called.1.2.2 goes late

/-- In a gathering, a thread is answered only what it can be answered by what it has. -/
theorem Gathers.allowed (gathers : Gathers settings start)
    (runs : Crowd.Runs (aroundChannel settings) start turns crowd) (t : Thread) :
    Holdings.discipline.Allowed (.none (start.memory.contexts t)) (own t turns) :=
  (holdings_govern settings).allowed gathers.tallies_nothing gathers.obeys runs t

theorem holdings_append (turns : List Turn) :
    holdings start (before ++ turns) t = Holdings.discipline.account (holdings start before t) (own t turns) :=
  congrFun (accounts_append turns) t

theorem Gathers.allowed_since (gathers : Gathers settings start)
    (runs : Crowd.Runs (aroundChannel settings) start (before ++ turns) crowd) (t : Thread) :
    Holdings.discipline.Allowed (holdings start before t) (own t turns) := by
  have all := gathers.allowed runs t
  rw [own_append] at all
  exact (allowed_append.mp all).2

namespace Calls
variable (calls : Calls settings t before move r turns) (gathers : Gathers settings start)
  (runs : Crowd.Runs (aroundChannel settings) start (before ++ turns) crowd)
include calls gathers runs

/-- Whoever calls has asked no loop to stop. -/
theorem calm : (holdings start before t).Calm := by
  have all := gathers.allowed runs t
  rw [own_append] at all
  have nothing : (Holdings.none (start.memory.contexts t)).Calm := rfl
  exact calls.free.calm nothing (allowed_append.mp all).1

/-- A call leaves its thread with what it had. -/
theorem restores : holdings start (before ++ turns) t = holdings start before t := by
  rw [holdings_append]
  exact (move.balances _ (calls.calm gathers runs)).advances (fun _ _ _ => obeys_aside) calls.advances
    (gathers.allowed_since runs t)

end Calls

/-! ## Calls taken apart -/

/-- A question that is no callback is answered at once. -/
theorem Advances.ask_inv {q : Query} {next : q.Answer → Program Query Query.Answer α} {a : α}
    (plain : ∀ id batch consumer, q ≠ .outside (.callback id batch consumer))
    (advances : Advances (aroundChannel settings) t turns (.ask q next) (.done a)) :
    ∃ answer rest, turns = ⟨t, q, answer⟩ :: rest ∧
      Advances (aroundChannel settings) t rest (next answer) (.done a) := by
  cases advances with
  | turn answer goes => exact ⟨answer, _, rfl, goes⟩
  | aside may goes =>
    obtain ⟨⟨id, batch, consumer, same⟩, -⟩ := may
    exact absurd same (plain id batch consumer)

/-- A sequence ends with its first part, which fails, or goes on after it. -/
theorem Advances.bind_inv {first : Operation α} {next : α → Operation β} {r : Except Failure β}
    (advances : Advances (aroundChannel settings) t turns (first >>= next).run (.done r)) :
    ∃ result past rest, turns = past ++ rest ∧ Advances (aroundChannel settings) t past first.run (.done result) ∧
      match result with
      | .ok a => Advances (aroundChannel settings) t rest (next a).run (.done r)
      | .error e => rest = [] ∧ r = .error e := by
  obtain ⟨result, past, rest, same, before, after⟩ := Advances.split advances
  refine ⟨result, past, rest, same, before, ?_⟩
  cases result with
  | ok a => exact after
  | error e =>
    cases after
    exact ⟨rfl, rfl⟩

theorem run_outcome_bind (body : Operation α) (next : Except Failure α → Operation β) :
    (outcome body >>= next).run = body.run >>= fun result => (next result).run :=
  Program.bind_assoc body.run (fun result => Program.done (Except.ok result)) (ExceptT.bindCont next)

/-- A sequence that goes on from whichever result of its first part. -/
theorem Advances.outcome_inv {body : Operation α} {next : Except Failure α → Operation β} {r : Except Failure β}
    (advances : Advances (aroundChannel settings) t turns (outcome body >>= next).run (.done r)) :
    ∃ result past rest, turns = past ++ rest ∧ Advances (aroundChannel settings) t past body.run (.done result) ∧
      Advances (aroundChannel settings) t rest (next result).run (.done r) := by
  rw [run_outcome_bind] at advances
  exact Advances.split advances

theorem Advances.after_outcome {more : List Turn} {body : Operation α} {next : Except Failure α → Operation β}
    {result : Except Failure α} {r : Except Failure β}
    (blocks : Advances (aroundChannel settings) t turns body.run (.done result))
    (onward : Advances (aroundChannel settings) t more (next result).run (.done r)) :
    Advances (aroundChannel settings) t (turns ++ more) (outcome body >>= next).run (.done r) := by
  rw [run_outcome_bind]
  exact (blocks.followed _).trans onward

/-- What is done takes no turn. -/
theorem Advances.done_inv {a b : α} (advances : Advances (aroundChannel settings) t turns (.done a) (.done b)) :
    turns = [] ∧ a = b := by
  cases advances
  exact ⟨rfl, rfl⟩

/-- A step is taken, and its answer gone on with. -/
theorem Advances.step_inv {s : Step} {next : s.Reply → Operation β} {r : Except Failure β}
    (advances : Advances (aroundChannel settings) t turns (step s >>= next).run (.done r)) :
    ∃ answer rest, turns = ⟨t, .step s, answer⟩ :: rest ∧
      Advances (aroundChannel settings) t rest (next answer).run (.done r) :=
  Advances.ask_inv (q := .step s) nofun advances

/-- A block comes to its good end, or what is done about its failure ends it. -/
theorem Advances.rescue_inv {body : Operation α} {repair : Failure → Operation α} {r : Except Failure α}
    (advances : Advances (aroundChannel settings) t turns (rescue body repair).run (.done r)) :
    ∃ result past rest, turns = past ++ rest ∧ Advances (aroundChannel settings) t past body.run (.done result) ∧
      match result with
      | .ok a => rest = [] ∧ r = .ok a
      | .error e => Advances (aroundChannel settings) t rest (repair e).run (.done r) := by
  obtain ⟨result, past, rest, same, blocks, onward⟩ := Advances.outcome_inv advances
  refine ⟨result, past, rest, same, blocks, ?_⟩
  cases result with
  | ok a =>
    obtain ⟨nothing, ended⟩ := onward.done_inv
    exact ⟨nothing, ended.symm⟩
  | error e => exact onward

/-- A block comes to its end, and then what runs on every way out of it, whose failure takes the place of the
result. -/
theorem Advances.ensuring_inv {body : Operation α} {closing : Operation Unit} {r : Except Failure α}
    (advances : Advances (aroundChannel settings) t turns (ensuring body closing).run (.done r)) :
    ∃ result closed past rest, turns = past ++ rest ∧
      Advances (aroundChannel settings) t past body.run (.done result) ∧
      Advances (aroundChannel settings) t rest closing.run (.done closed) ∧ r = closed.bind fun _ => result := by
  obtain ⟨result, past, rest, same, blocks, onward⟩ := Advances.outcome_inv advances
  obtain ⟨closed, after, more, rfl, closes, settles⟩ := Advances.bind_inv onward
  cases closed with
  | error e =>
    obtain ⟨rfl, rfl⟩ := settles
    exact ⟨result, .error e, past, after, by rw [same, List.append_nil], blocks, closes, rfl⟩
  | ok _ =>
    have settled : more = [] ∧ result = r := by
      cases result with
      | ok a => exact settles.done_inv
      | error e => exact settles.done_inv
    obtain ⟨rfl, rfl⟩ := settled
    exact ⟨result, .ok (), past, after, by rw [same, List.append_nil], blocks, closes, rfl⟩

end

/-! ## Calls in schedules -/

section
variable {settings : Settings} {reply : (call : Outside) → call.Reply} {t : Thread} {k l n : Nat}
  {crowd : Crowd Shared} {program : Program Query Query.Answer α} {first last : Stretch α}
  {aside : Stretch (Except Failure Unit)} {move : Move} {id : CallbackId} {batch : Batch}
  {consumer : Option String} {further : Except Failure Value → Program Query Query.Answer α}

/-- A thread takes turns until it waits for a callback, which makes a move, and then goes on. -/
theorem runs_called_back {r : Except Failure Unit} {next : α → Program Query Query.Answer Unit}
    (begins : first = solo reply t k program crowd.memory)
    (waits : first.left = .ask (.outside (.callback id batch consumer)) further)
    (calls : aside = solo reply t l (move.operation settings).run first.memory) (ended : aside.left = .done r)
    (resumes : last = solo reply t n first.left aside.memory) (mine : crowd.programs t = program >>= next) :
    ∃ middle later finished : Crowd Shared,
      (Crowd.Runs (aroundChannel settings) crowd first.turns middle ∧ middle.memory = first.memory) ∧
      (Crowd.Runs (aroundChannel settings) middle aside.turns later ∧ later.memory = aside.memory) ∧
      (Crowd.Runs (aroundChannel settings) later last.turns finished ∧ finished.memory = last.memory) := by
  let goesOn : Program Query Query.Answer Unit := first.left >>= next
  let waiting : Crowd Shared := ⟨first.memory, assign crowd.programs t goesOn⟩
  let moving : Program Query Query.Answer Unit := client settings [move] >>= fun _ => goesOn
  let middle : Crowd Shared := ⟨first.memory, assign waiting.programs t moving⟩
  have begun : Crowd.Runs (aroundChannel settings) crowd first.turns waiting := by
    have run : Crowd.Runs (aroundChannel settings) crowd _ _ := runs_solo reply k mine
    rwa [← begins] at run
  have asks : goesOn = .ask (.outside (.callback id batch consumer)) fun answer => further answer >>= next := by
    show first.left >>= next = _
    rw [waits]
    rfl
  have digresses : waiting.Digresses (aroundChannel settings) t middle :=
    ⟨⟨_, _, client settings [move], (assign_self ..).trans asks, ⟨⟨id, batch, consumer, rfl⟩, [move], rfl⟩,
      congrArg (fun rest => assign waiting.programs t (client settings [move] >>= fun _ => rest)) asks⟩, rfl⟩
  have moves : middle.programs t = (move.operation settings).run >>= fun _ => goesOn :=
    (assign_self ..).trans (Program.bind_assoc ..)
  let later : Crowd Shared := ⟨aside.memory, assign middle.programs t (aside.left >>= fun _ => goesOn)⟩
  have called : Crowd.Runs (aroundChannel settings) middle aside.turns later := by
    have run : Crowd.Runs (aroundChannel settings) middle _ _ := runs_solo reply l moves
    rwa [← calls] at run
  have returned : later.programs t = first.left >>= next := by
    refine (assign_self ..).trans ?_
    rw [ended]
    rfl
  have resumed : Crowd.Runs (aroundChannel settings) later last.turns
      ⟨last.memory, assign later.programs t (last.left >>= next)⟩ := by
    have run : Crowd.Runs (aroundChannel settings) later _ _ := runs_solo reply n returned
    have same : later.memory = aside.memory := rfl
    rwa [same, ← resumes] at run
  exact ⟨middle, later, _, ⟨begun.aside digresses, rfl⟩, ⟨called, rfl⟩, ⟨resumed, rfl⟩⟩

theorem advances_solo (program : Program Query Query.Answer α) (m : Shared) :
    Advances (aroundChannel settings) t (solo reply t k program m).turns program
      (solo reply t k program m).left :=
  (leaves_solo reply k program m).advances (thread_solo reply k program m)

/-- The turns of a callback's move are turns of the call that waits for the callback. -/
theorem advances_called_back {r : Except Failure Unit} {a : α} {m : Shared}
    (begins : first = solo reply t k program m)
    (waits : first.left = .ask (.outside (.callback id batch consumer)) further)
    (calls : aside = solo reply t l (move.operation settings).run first.memory) (ended : aside.left = .done r)
    (resumes : last = solo reply t n first.left aside.memory) (finished : last.left = .done a) :
    Advances (aroundChannel settings) t (first.turns ++ (aside.turns ++ last.turns)) program (.done a) := by
  have begun : Advances (aroundChannel settings) t first.turns program first.left := by
    rw [begins]
    exact advances_solo ..
  have called : Advances (aroundChannel settings) t aside.turns (move.operation settings).run (.done r) := by
    rw [← ended, calls]
    exact advances_solo ..
  have resumed : Advances (aroundChannel settings) t last.turns first.left (.done a) := by
    rw [← finished, resumes]
    exact advances_solo ..
  rw [waits] at begun resumed
  refine begun.trans (.aside ⟨⟨id, batch, consumer, rfl⟩, [move], rfl⟩ ?_)
  have moves :
      (client settings [move] >>= fun _ => Program.ask (.outside (.callback id batch consumer)) further) =
      (move.operation settings).run >>= fun _ => .ask (.outside (.callback id batch consumer)) further :=
    Program.bind_assoc ..
  rw [moves]
  exact (called.followed _).trans resumed

end

end Channel

end ConsumerChannel
