import ConsumerChannel.Proofs.Callbacks
import ConsumerChannel.Proofs.Running

/-! What any operation comes to, whoever calls it: a destroyed channel refuses it or lets it pass, and an active one
brings it to one of its outcomes. A thread leaves the guard as it found it, whatever its callbacks do, and a law
that one operation keeps is kept by every sequence of them. -/
namespace ConsumerChannel.Channel
open Operation

/-- The signals of a stretch, between the moments at which it begins and ends. -/
def Chronicle.moments (c : Chronicle) (signals : List Event) (later : Chronicle) : List Event :=
  ⟨c.memory, .ended⟩ :: signals ++ [⟨later.memory, .ended⟩]

/-- Threads call operations one after another: what each call comes to, and what becomes of the channel. -/
def inTurn (surroundings : Surroundings) (settings : Settings) (depth : Nat) :
    List (Thread × Move) → Chronicle → List (Except Failure Unit) × Chronicle
  | [], c => ([], c)
  | (caller, move) :: rest, c =>
    let called := exec (surroundings.hosting settings caller depth) (move.operation settings) c
    let further := inTurn surroundings settings depth rest called.2
    (called.1 :: further.1, further.2)

/-- A law of stretches holds of the moves that callbacks make. -/
def Nests (surroundings : Surroundings) (nested : List Move → Chronicle → Chronicle) (caller : Thread)
    (law : Chronicle → Chronicle → Prop) : Prop :=
  ∀ events (c : Chronicle), c.memory.guard.OpenTo caller → law c (nested (surroundings.moves events) c)

/-! ## Outcomes of moves -/

/-- The name by which a destroyed channel refuses a move; stopping and destroying are never refused. -/
def Move.refusedAs : Move → Option String
  | create => some Api.create.name
  | subscribe _ => some Api.subscribe.name
  | subscriptions => some Api.subscriptions.name
  | delete => some Api.delete.name
  | consume _ => some Api.consume.name
  | commit => some Api.commit.name
  | run _ _ _ => some runName
  | stop _ => none
  | destroy _ => none

section
variable (surroundings : Surroundings) (caller : Thread) (settings : Settings)

/-- What an operation on a consumer comes to on an active channel. -/
inductive Acts (m : State) : Move → Except Failure Unit → Session String Value → List Event → Prop where
  | create (creates : Creates surroundings caller settings m r left signals) : Acts m .create r left signals
  | subscribe (subscribes : Subscribes surroundings caller settings topics m r left signals) :
      Acts m (.subscribe topics) r left signals
  | subscriptions (inquires : Inquires surroundings caller settings m r left signals) :
      Acts m .subscriptions (r.map fun _ => ()) left signals
  | delete (deletes : Deletes surroundings caller settings m r left signals) : Acts m .delete r left signals
  | consume (consumes : Consumes surroundings caller settings timeout m r left signals) :
      Acts m (.consume timeout) (r.map fun _ => ()) left signals
  | commit (commits : Commits surroundings caller settings m r left signals) : Acts m .commit r left signals

/-- What a move comes to. -/
inductive Makes (nested : List Move → Chronicle → Chronicle) (c : Chronicle) :
    Move → Except Failure Unit → Chronicle → Prop where
  | refused (inactive : c.memory.session.active = false) (refused : move.refusedAs = some api) :
      Makes nested c move (.error (.permanent destroyedMessage (some api))) c
  | acted {left : Session String Value} (active : c.memory.session.active = true)
      (acts : Acts surroundings caller settings c.memory move r left signals)
      (became : c.Becomes surroundings left c.memory.context signals later) : Makes nested c move r later
  | ran (runs : Runs surroundings caller settings nested rounds callback topics c r later) :
      Makes nested c (.run rounds callback topics) r later
  | stopped (stops : Stops c r later) : Makes nested c (.stop rounds) r later
  | destroyed (destroys : Destroys surroundings caller settings c r later) :
      Makes nested c (.destroy rounds) r later

end

section
variable {surroundings : Surroundings} {nested : List Move → Chronicle → Chronicle} {caller : Thread}
  {c later : Chronicle} {settings : Settings}

/-- An operation on a consumer acts if the channel is active, and is refused otherwise. -/
theorem leads_admitted (opened : c.memory.guard.OpenTo caller) {api : Api} {body : Operation α}
    {outcome : Except Failure α → Session String Value → List Event → Prop}
    (led : c.memory.session.active = true →
      Leads (surroundings.host nested caller) (named settings api body) c fun r later =>
        ∃ left signals, outcome r left signals ∧ c.Becomes surroundings left c.memory.context signals later) :
    Leads (surroundings.host nested caller) (named settings api body) c fun r later =>
      (c.memory.session.active = true ∧ ∃ left signals, outcome r left signals ∧
          c.Becomes surroundings left c.memory.context signals later) ∨
        c.memory.session.active = false ∧ r = .error (.permanent destroyedMessage (some api.name)) ∧
          later = c := by
  cases active : c.memory.session.active with
  | true => exact (led active).weaken fun r later acted => .inl ⟨rfl, acted⟩
  | false =>
    unfold Leads
    rw [exec_named_inactive opened active]
    exact .inr ⟨rfl, rfl, rfl⟩

/-- An operation without a result of its own. -/
theorem leads_act (opened : c.memory.guard.OpenTo caller) {move : Move} {api : Api} {body : Operation Unit}
    {outcome : Except Failure Unit → Session String Value → List Event → Prop}
    (refused : move.refusedAs = some api.name)
    (led : c.memory.session.active = true →
      Leads (surroundings.host nested caller) (named settings api body) c fun r later =>
        ∃ left signals, outcome r left signals ∧ c.Becomes surroundings left c.memory.context signals later)
    (acts : ∀ r left signals, outcome r left signals →
      Acts surroundings caller settings c.memory move r left signals) :
    Leads (surroundings.host nested caller) (named settings api body) c
      (Makes surroundings caller settings nested c move) := by
  refine (leads_admitted opened led).weaken ?_
  rintro r later (⟨active, left, signals, holds, became⟩ | ⟨inactive, rfl, rfl⟩)
  · exact .acted active (acts r left signals holds) became
  · exact .refused inactive refused

/-- An operation whose result is dropped. -/
theorem leads_act_bind (opened : c.memory.guard.OpenTo caller) {move : Move} {api : Api} {body : Operation α}
    {outcome : Except Failure α → Session String Value → List Event → Prop}
    (refused : move.refusedAs = some api.name)
    (led : c.memory.session.active = true →
      Leads (surroundings.host nested caller) (named settings api body) c fun r later =>
        ∃ left signals, outcome r left signals ∧ c.Becomes surroundings left c.memory.context signals later)
    (acts : ∀ r left signals, outcome r left signals →
      Acts surroundings caller settings c.memory move (r.map fun _ => ()) left signals) :
    Leads (surroundings.host nested caller) (named settings api body >>= fun _ => pure ()) c
      (Makes surroundings caller settings nested c move) := by
  refine (leads_admitted opened led).bind ?_ ?_
  · rintro a later (⟨active, left, signals, holds, became⟩ | ⟨inactive, ⟨⟩, -⟩)
    exact .acted active (acts _ left signals holds) became
  · rintro e later (⟨active, left, signals, holds, became⟩ | ⟨inactive, ⟨⟩, rfl⟩)
    · exact .acted active (acts _ left signals holds) became
    · exact .refused inactive refused

/-- A move comes to one of its outcomes. -/
theorem leads_move (quiet : surroundings.LogsQuietly) (leaves : LeavesGuard surroundings nested caller)
    (opened : c.memory.guard.OpenTo caller) (move : Move) :
    Leads (surroundings.host nested caller) (move.operation settings) c
      (Makes surroundings caller settings nested c move) := by
  cases move with
  | create => exact leads_act opened rfl (leads_create opened) fun _ _ _ => .create
  | subscribe topics => exact leads_act opened rfl (leads_subscribe opened · topics) fun _ _ _ => .subscribe
  | subscriptions =>
    exact leads_act_bind opened rfl (leads_subscriptions opened) fun _ _ _ => .subscriptions
  | delete => exact leads_act opened rfl (leads_delete opened) fun _ _ _ => .delete
  | consume timeout =>
    exact leads_act_bind opened rfl (leads_consume opened · timeout) fun _ _ _ => .consume
  | commit => exact leads_act opened rfl (leads_commit opened) fun _ _ _ => .commit
  | run rounds callback topics =>
    exact (leads_run quiet leaves opened rounds).weaken fun _ _ => .ran
  | stop rounds => exact (leads_stop rounds).weaken fun _ _ => .stopped
  | destroy rounds => exact (leads_destroy opened rounds).weaken fun _ _ => .destroyed

/-! ## The guard -/

theorem Destroys.guard {r : Except Failure Unit}
    (destroys : Destroys surroundings caller settings c r later) :
    later.memory.guard = c.memory.guard := destroys.retreats.guard

theorem Runs.guard {rounds : Nat} {callback : Option CallbackId} {topics : Topics} {r : Except Failure Unit}
    (runs : Runs surroundings caller settings nested rounds callback topics c r later) :
    later.memory.guard = c.memory.guard := by
  cases runs with
  | inactive inactive => rfl
  | refused passed unready => exact passed.state.guard
  | looped active grouped chosen wanted begins stages loops finishes cleared => exact finishes.guard

theorem Makes.guard {move : Move} {r : Except Failure Unit}
    (makes : Makes surroundings caller settings nested c move r later) :
    later.memory.guard = c.memory.guard := by
  cases makes with
  | refused inactive refused => rfl
  | acted active acts became => exact became.state.guard
  | ran runs => exact runs.guard
  | stopped stops => exact stops.idles.guard
  | destroyed destroys => exact destroys.guard

/-- A law of stretches that holds of every move, and of a callback's moves if of theirs, holds of all moves that
a thread makes in turn. -/
theorem perform_relates (quiet : surroundings.LogsQuietly) {related : Chronicle → Chronicle → Prop}
    (still : ∀ c, related c c)
    (onward : ∀ c d e, related c d → related d e → related c e)
    {allowed : Move → Prop} (kept : ∀ events, ∀ move ∈ surroundings.moves events, allowed move)
    (makes : ∀ {nested move c r d}, LeavesGuard surroundings nested caller →
      Nests surroundings nested caller related → allowed move → c.memory.guard.OpenTo caller →
      Makes surroundings caller settings nested c move r d → related c (d.add .ended))
    (depth : Nat) (moves : List Move) (within : ∀ move ∈ moves, allowed move) (c : Chronicle)
    (opened : c.memory.guard.OpenTo caller) :
    (perform surroundings settings caller depth moves c).memory.guard = c.memory.guard ∧
      related c (perform surroundings settings caller depth moves c) := by
  induction depth generalizing moves c with
  | zero => exact ⟨rfl, still c⟩
  | succ depth ih =>
    have leaves : LeavesGuard surroundings (perform surroundings settings caller depth) caller :=
      fun id batch consumer d opened =>
        (ih _ (kept _) (d.add (.called id batch consumer)) opened).1
    unfold perform
    induction moves generalizing c with
    | nil => exact ⟨rfl, still c⟩
    | cons move rest next =>
      obtain ⟨r, d, ran⟩ : ∃ r d, exec (surroundings.hosting settings caller depth)
        (move.operation settings) c = (r, d) := ⟨_, _, rfl⟩
      have made : Makes surroundings caller settings (perform surroundings settings caller depth) c move r d :=
        (leads_iff _).mp (leads_move quiet leaves opened move) _ _ ran
      have first : related c (d.add .ended) :=
        makes leaves (fun events d opened => (ih _ (kept events) d opened).2) (within _ (.head rest)) opened
          made
      obtain ⟨guard, further⟩ := next (fun other member => within other (.tail move member)) (d.add .ended)
        (by rwa [memory_add, made.guard])
      rw [List.foldl_cons, ran]
      exact ⟨guard.trans made.guard, onward c _ _ first further⟩

/-- Callbacks leave the guard as they find it, whatever they do with the channel. -/
theorem leavesGuard (quiet : surroundings.LogsQuietly) (depth : Nat) :
    LeavesGuard surroundings (perform surroundings settings caller depth) caller := by
  intro id batch consumer c opened
  exact (@perform_relates surroundings caller settings quiet (fun _ _ => True) (fun _ => trivial)
    (fun _ _ _ _ _ => trivial) (fun _ => True) (fun _ _ _ => trivial) (fun _ _ _ _ _ => trivial) depth
    (surroundings.moves (c.add (.called id batch consumer)).events) (fun _ _ => trivial)
    (c.add (.called id batch consumer)) opened).1

end

/-! ## Laws of runs -/

/-- A law of stretches holds of nothing, of one stretch after another, and of each part of a run but the moves of its
callback. -/
structure Upholds (surroundings : Surroundings) (caller : Thread) (settings : Settings)
    (law : Chronicle → Chronicle → Prop) : Prop where
  refl : ∀ c, law c c
  trans : ∀ c d later, law c d → law d later → law c later
  /-- Nothing is seen, and the session stays as it is. -/
  unseen : ∀ c later, later.signals = c.signals → later.memory.session = c.memory.session → law c later
  called : ∀ c callback batch consumer, law c (c.add (.called callback batch consumer))
  returned : ∀ c answer, law c (c.add (.returned answer))
  subscribes : ∀ c r left signals later topics, c.memory.session.active = true →
    Subscribes surroundings caller settings topics c.memory r left signals →
    c.Becomes surroundings left c.memory.context signals later → law c later
  consumes : ∀ c r left signals later timeout, c.memory.session.active = true →
    Consumes surroundings caller settings timeout c.memory r left signals →
    c.Becomes surroundings left c.memory.context signals later → law c later
  commits : ∀ c r left signals later, c.memory.session.active = true →
    Commits surroundings caller settings c.memory r left signals →
    c.Becomes surroundings left c.memory.context signals later → law c later
  recreates : ∀ c r later, Recreates surroundings caller settings c r later → law c later
  cleans : ∀ c r later, Cleans surroundings caller settings c r later → law c later

namespace Upholds
variable {surroundings : Surroundings} {nested : List Move → Chronicle → Chronicle} {caller : Thread}
  {settings : Settings} {law : Chronicle → Chronicle → Prop} {c d later : Chronicle} {callback : CallbackId}
  {topics : List Value} {subscribed : Bool}

/-- A callback is called, makes its moves, and comes back. -/
theorem outside (upholds : Upholds surroundings caller settings law)
    (within : Nests surroundings nested caller law) (opened : c.memory.guard.OpenTo caller) {batch : Batch}
    {consumer : Option String} {answer : Except Failure Value}
    (handed : surroundings.outside nested (.callback callback batch consumer) c = (answer, later)) : law c later := by
  cases handed
  have called := upholds.called c callback batch consumer
  have moved := upholds.trans _ _ _ called (within (c.add (.called callback batch consumer)).events _ opened)
  have back := upholds.returned (surroundings.during nested (.callback callback batch consumer) c)
    (surroundings.reply (surroundings.during nested (.callback callback batch consumer) c).events
      (.callback callback batch consumer))
  exact upholds.trans _ _ _ (upholds.trans _ _ _ moved back) (upholds.unseen _ _ rfl rfl)

theorem recovers (upholds : Upholds surroundings caller settings law) {goOn : Bool} {e : Failure}
    {r : Except Failure LoopState} (recovers : Recovers surroundings caller settings goOn e c r later) :
    law c later := by
  cases recovers with
  | foreign other => exact upholds.refl _
  | lost lost recreates => exact upholds.recreates _ _ _ recreates
  | fatal fatal cleans => exact upholds.cleans _ _ _ cleans

theorem readies (upholds : Upholds surroundings caller settings law) {r : Except Failure Unit}
    (readies : Readies surroundings caller settings topics c subscribed r later)
    (active : c.memory.session.active = true) : law c later := by
  cases readies with
  | already => exact upholds.refl _
  | subscribing subscribes became => exact upholds.subscribes _ _ _ _ _ _ active subscribes became

theorem fetches (upholds : Upholds surroundings caller settings law)
    (within : Nests surroundings nested caller law) {r : Except Failure (Option Bool)}
    (fetches : Fetches surroundings caller settings nested callback topics c subscribed r later)
    (opened : c.memory.guard.OpenTo caller) (active : c.memory.session.active = true) : law c later := by
  have pulls {d k : Chronicle} {r : Except Failure Batch} {left : Session String Value}
      {signals : List Event} (readies : Readies surroundings caller settings topics c subscribed (.ok ()) d)
      (consumes : Consumes surroundings caller settings settings.consumeTimeout d.memory r left signals)
      (pulled : d.Becomes surroundings left d.memory.context signals k) :
      law c k ∧ k.memory.guard.OpenTo caller := by
    have first := upholds.readies readies active
    have second := upholds.consumes _ _ _ _ _ _ (readies.active active) consumes pulled
    refine ⟨upholds.trans _ _ _ first second, ?_⟩
    rwa [pulled.state.guard, readies.guard]
  cases fetches with
  | unready readies => exact upholds.readies readies active
  | stopped readies asked => exact upholds.readies readies active
  | unpulled readies consumes pulled => exact (pulls readies consumes pulled).1
  | raised readies consumes pulled handed =>
    obtain ⟨first, opens⟩ := pulls readies consumes pulled
    exact upholds.trans _ _ _ first (upholds.outside within opens handed)
  | handled readies consumes pulled handed =>
    obtain ⟨first, opens⟩ := pulls readies consumes pulled
    exact upholds.trans _ _ _ first (upholds.outside within opens handed)

theorem cycles (upholds : Upholds surroundings caller settings law)
    (within : Nests surroundings nested caller law) {r : Except Failure LoopState}
    (cycles : Cycles surroundings caller settings nested callback topics c subscribed r later)
    (opened : c.memory.guard.OpenTo caller) (active : c.memory.session.active = true) : law c later := by
  cases cycles with
  | failed fetches recovers =>
    exact upholds.trans _ _ _ (upholds.fetches within fetches opened active) (upholds.recovers recovers)
  | ended fetches => exact upholds.fetches within fetches opened active
  | committed fetches commits became =>
    have first := upholds.fetches within fetches opened active
    exact upholds.trans _ _ _ first (upholds.commits _ _ _ _ _ fetches.active commits became)
  | uncommitted fetches commits became recovers =>
    have first := upholds.fetches within fetches opened active
    have second := upholds.commits _ _ _ _ _ fetches.active commits became
    exact upholds.trans _ _ _ (upholds.trans _ _ _ first second) (upholds.recovers recovers)

theorem loops (upholds : Upholds surroundings caller settings law)
    (within : Nests surroundings nested caller law) (leaves : LeavesGuard surroundings nested caller)
    {rounds : Nat} {state : LoopState} {r : Except Failure Unit}
    (loops : Loops surroundings caller settings nested callback topics rounds state c r later)
    (opened : c.memory.guard.OpenTo caller) (active : state.goOn = true → c.memory.session.active = true) :
    law c later := by
  induction loops with
  | done ended => exact upholds.refl _
  | exhausted going free => exact upholds.refl _
  | broken going free cycles => exact upholds.cycles within cycles opened (active going)
  | next going free cycles loops ih =>
    have kept := cycles.guard leaves opened
    exact upholds.trans _ _ _ (upholds.cycles within cycles opened (active going))
      (ih (by rwa [kept]) cycles.active)

/-- A law that the parts of a run keep, and the moves of its callback, is kept by the run. -/
theorem runs (upholds : Upholds surroundings caller settings law)
    (within : Nests surroundings nested caller law) (leaves : LeavesGuard surroundings nested caller)
    {rounds : Nat} {wanted : Option CallbackId} {topics : Topics} {r : Except Failure Unit}
    (runs : Runs surroundings caller settings nested rounds wanted topics c r later) : law c later := by
  cases runs with
  | inactive inactive => exact upholds.refl _
  | refused passed unready =>
    exact upholds.unseen _ _ (passed.signals.trans (List.append_nil _)) passed.state.session
  | looped active grouped chosen wanted begins stages loops finishes cleared =>
    have begun := upholds.unseen _ _ begins.signals begins.session
    have looped := upholds.loops within leaves loops begins.opened fun _ => by rw [begins.session, active]
    exact upholds.trans _ _ _ (upholds.trans _ _ _ begun looped)
      (upholds.unseen _ _ finishes.signals finishes.session)

end Upholds

end ConsumerChannel.Channel
