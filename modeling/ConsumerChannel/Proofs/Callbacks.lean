import ConsumerChannel.Proofs.Ending
import ConsumerChannel.Proofs.Rounds

/-! What callbacks do that touch the channel only to end it. Stopping changes nothing but flags; destroying
deletes the consumer and closes the transport; and neither takes or gives up a claim of the guard. -/
namespace ConsumerChannel.Channel
open Operation

/-- A move that asks the loop to stop. -/
def Move.IsStop : Move → Prop
  | .stop _ => True
  | _ => False

/-- A move that ends the loop: it stops it, or destroys the channel. -/
def Move.IsRetreat : Move → Prop
  | .stop _ | .destroy _ => True
  | _ => False

/-- What is seen of moves that end the loop: deletions, closed transports, and the ends of the moves. -/
def Event.IsRetreat (settings : Settings) (e : Event) : Prop :=
  match e.happening with
  | .sent _ request _ => ∃ consumer, request = .deletion settings consumer
  | .closed _ _ => True
  | .ended => True
  | _ => False

/-- Nothing changes but flags, and no more is seen than the ends of moves. -/
structure Chronicle.Rests (c later : Chronicle) : Prop where
  guard : later.memory.guard = c.memory.guard
  session : later.memory.session = c.memory.session
  transport : later.memory.transport = c.memory.transport
  signals : c.Adds (·.happening = .ended) later

/-- The guard stays as it is, and no more is seen than the channel being ended. -/
structure Chronicle.Retreats (settings : Settings) (c later : Chronicle) : Prop where
  guard : later.memory.guard = c.memory.guard
  signals : c.Adds (Event.IsRetreat settings) later

section
variable {surroundings : Surroundings} {nested : List Move → Chronicle → Chronicle} {caller : Thread}
  {c later last : Chronicle} {settings : Settings}

namespace Chronicle

theorem Rests.refl : c.Rests c := ⟨rfl, rfl, rfl, .none rfl⟩

theorem Rests.trans (first : c.Rests later) (second : later.Rests last) : c.Rests last where
  guard := second.guard.trans first.guard
  session := second.session.trans first.session
  transport := second.transport.trans first.transport
  signals := first.signals.trans second.signals

theorem Idles.rests (idles : c.Idles later) : c.Rests later :=
  ⟨idles.guard, idles.session, idles.transport, .none idles.signals⟩

theorem Retreats.refl : c.Retreats settings c := ⟨rfl, .none rfl⟩

theorem Retreats.trans (first : c.Retreats settings later) (second : later.Retreats settings last) :
    c.Retreats settings last := ⟨second.guard.trans first.guard, first.signals.trans second.signals⟩

theorem Rests.retreats (rested : c.Rests later) : c.Retreats settings later :=
  ⟨rested.guard, rested.signals.weaken fun e ended => by simp [Event.IsRetreat, ended]⟩

theorem Becomes.retreats {session : Session String Value} {context : LogContext} {signals : List Event}
    (became : c.Becomes surroundings session context signals later)
    (all : ∀ e ∈ signals, e.IsRetreat settings) : c.Retreats settings later :=
  ⟨became.state.guard, became.adds all⟩

end Chronicle

/-! ## Stopping and destroying -/

theorem Deletes.retreat {m : State} {r : Except Failure Unit} {left : Session String Value}
    {signals : List Event} (deletes : Deletes surroundings caller settings m r left signals) :
    ∀ e ∈ signals, e.IsRetreat settings := by
  cases deletes with
  | unheld absent => exact List.forall_mem_nil _
  | sent held amid settled =>
    intro e member
    rw [List.mem_singleton.mp member]
    exact ⟨_, rfl⟩

theorem Dissolves.retreats {r : Except Failure Unit}
    (dissolves : Dissolves surroundings caller settings c r later) : c.Retreats settings later := by
  have closes {d k : Chronicle} {answer : Except Failure Unit}
      (closed : d.Becomes surroundings d.memory.session d.memory.context
        [⟨d.memory, .closed d.memory.transport answer⟩] k) : d.Retreats settings k :=
    closed.retreats (by simp [Event.IsRetreat])
  cases dissolves with
  | frozen inactive => exact .refl
  | unstopped active stops => exact stops.idles.rests.retreats
  | undeleted active stops deletes deleted =>
    exact stops.idles.rests.retreats.trans (deleted.retreats deletes.retreat)
  | unclosed active stops deletes deleted closed careless =>
    exact (stops.idles.rests.retreats.trans (deleted.retreats deletes.retreat)).trans (closes closed)
  | dissolved active stops deletes deleted closed frozen quiet =>
    have first := (stops.idles.rests.retreats.trans (deleted.retreats deletes.retreat)).trans (closes closed)
    exact first.trans (frozen.retreats (List.forall_mem_nil _))

theorem Destroys.retreats {r : Except Failure Unit}
    (destroys : Destroys surroundings caller settings c r later) : c.Retreats settings later := by
  cases destroys with
  | contended busy => exact .refl
  | tried free dissolves => exact ⟨dissolves.retreats.guard, dissolves.retreats.signals⟩

/-! ## Moves within a callback -/

theorem perform_rests (stops : ∀ move ∈ moves, Move.IsStop move) (depth : Nat) :
    c.Rests (perform surroundings settings caller depth moves c) := by
  cases depth with
  | zero => exact .refl
  | succ depth =>
    unfold perform
    induction moves generalizing c with
    | nil => exact .refl
    | cons move rest ih =>
      have later := fun d : Chronicle => ih (c := d) fun other member => stops other (.tail move member)
      cases move with
      | stop rounds =>
        have stops : Stops c _ (exec (surroundings.hosting settings caller depth)
            (stop settings rounds) c).2 := leads_stop rounds
        have first := stops.idles.rests
        have ended (d : Chronicle) : d.Rests (d.add .ended) :=
          ⟨rfl, rfl, rfl, .one (signals_add _) rfl⟩
        exact (first.trans (ended _)).trans (later _)
      | _ => exact (stops _ (.head rest)).elim

theorem perform_retreats (opened : c.memory.guard.OpenTo caller)
    (retreats : ∀ move ∈ moves, Move.IsRetreat move) (depth : Nat) :
    c.Retreats settings (perform surroundings settings caller depth moves c) := by
  cases depth with
  | zero => exact .refl
  | succ depth =>
    unfold perform
    induction moves generalizing c with
    | nil => exact .refl
    | cons move rest ih =>
      have ended (d : Chronicle) : d.Retreats settings (d.add .ended) :=
        ⟨rfl, .one (signals_add _) trivial⟩
      have first : c.Retreats settings (exec (surroundings.host (perform surroundings settings caller depth)
          caller) (move.operation settings) c).2 := by
        cases move with
        | stop rounds =>
          have stops : Stops c _ (exec (surroundings.hosting settings caller depth)
              (stop settings rounds) c).2 := leads_stop rounds
          exact stops.idles.rests.retreats
        | destroy rounds => exact (leads_destroy opened rounds).retreats
        | _ => exact (retreats _ (.head rest)).elim
      have both := first.trans (ended _)
      exact both.trans (ih (by rwa [both.guard]) fun other member => retreats other (.tail move member))

/-- Callbacks touch the channel only to stop the loop. -/
def Surroundings.OnlyStops (surroundings : Surroundings) : Prop :=
  ∀ events, ∀ move ∈ surroundings.moves events, Move.IsStop move

/-- Callbacks touch the channel only to end it. -/
def Surroundings.OnlyEnds (surroundings : Surroundings) : Prop :=
  ∀ events, ∀ move ∈ surroundings.moves events, Move.IsRetreat move

theorem Surroundings.OnlyStops.onlyEnds (stops : surroundings.OnlyStops) : surroundings.OnlyEnds := by
  intro events move member
  have stop := stops events move member
  cases move with
  | stop rounds => trivial
  | _ => exact stop.elim

section
variable {id : CallbackId} {batch : Batch} {consumer : Option String} {answer : Except Failure Value}

/-- What is seen of a callback is its call, its moves, and its return. -/
theorem signals_of_callback {own : List Event}
    (called : surroundings.outside nested (.callback id batch consumer) c = (answer, later))
    (added : (surroundings.during nested (.callback id batch consumer) c).signals =
      (c.add (.called id batch consumer)).signals ++ own) :
    ∃ n, later.signals = c.signals ++
      ⟨c.memory, .called id batch consumer⟩ :: (own ++ [⟨n, .returned answer⟩]) := by
  cases called
  refine ⟨(surroundings.during nested (.callback id batch consumer) c).memory, ?_⟩
  show (Chronicle.add _ (.returned _)).signals = _
  rw [signals_add, added, signals_add, List.append_assoc, List.append_assoc]
  rfl

/-- A call of a callback that only ends the channel. -/
theorem outside_callback (ends : surroundings.OnlyEnds) (depth : Nat) (opened : c.memory.guard.OpenTo caller)
    (called : surroundings.outside (perform surroundings settings caller depth) (.callback id batch consumer) c =
      (answer, later)) :
    later.memory.guard = c.memory.guard ∧ ∃ own n, (∀ e ∈ own, e.IsRetreat settings) ∧
      later.signals = c.signals ++
        ⟨c.memory, .called id batch consumer⟩ :: (own ++ [⟨n, .returned answer⟩]) := by
  have within : Chronicle.Retreats settings (c.add (.called id batch consumer))
      (surroundings.during (perform surroundings settings caller depth) (.callback id batch consumer) c) :=
    perform_retreats (c := c.add (.called id batch consumer)) opened (ends _) depth
  obtain ⟨guard, own, added, retreats⟩ := within
  obtain ⟨n, seen⟩ := signals_of_callback called added
  cases called
  exact ⟨guard, own, n, retreats, seen⟩

/-- A call of a callback that only stops the loop. -/
theorem outside_callback_rests (stops : surroundings.OnlyStops) (depth : Nat)
    (called : surroundings.outside (perform surroundings settings caller depth) (.callback id batch consumer) c =
      (answer, later)) :
    later.memory.session = c.memory.session ∧ later.memory.transport = c.memory.transport ∧
      ∃ own n, (∀ e ∈ own, e.happening = .ended) ∧ later.signals = c.signals ++
        ⟨c.memory, .called id batch consumer⟩ :: (own ++ [⟨n, .returned answer⟩]) := by
  have within : Chronicle.Rests (c.add (.called id batch consumer))
      (surroundings.during (perform surroundings settings caller depth) (.callback id batch consumer) c) :=
    perform_rests (stops _) depth
  obtain ⟨-, session, transport, own, added, ended⟩ := within
  obtain ⟨n, seen⟩ := signals_of_callback called added
  cases called
  exact ⟨session, transport, own, n, ended, seen⟩

end

/-- Callbacks that only end the channel leave its guard as they find it. -/
theorem leavesGuard_of_onlyEnds (ends : surroundings.OnlyEnds) (depth : Nat) :
    LeavesGuard surroundings (perform surroundings settings caller depth) caller :=
  fun _ _ _ _ opened => (outside_callback ends depth opened rfl).1

end

/-! ## Surroundings that follow a script -/

/-- Surroundings that give requests their answers from a list in turn, have every callback make the same moves
and come back with the same answer, and grant everything else. -/
def Surroundings.scripted (answers : List (Except Failure (Option String))) (moves : List Move)
    (answer : Except Failure Value) : Surroundings where
  reply events
    | .send _ _ => answers.getD (events.countP fun e => e.happening matches .sent _ _ _) (.ok none)
    | .openTransport => .ok (events.countP fun e => e.happening matches .opened _)
    | .callback _ _ _ => answer
    | .closeTransport _ => .ok ()
    | .resetCookies _ => .ok ()
    | .resetAuthorization _ => .ok ()
    | .sleep _ => .ok ()
    | .wait => .ok ()
    | .log _ => .ok ()
  meanwhile _ _ flags := flags
  moves _ := moves

theorem Surroundings.scripted_dependable (answers : List (Except Failure (Option String))) (moves : List Move)
    (answer : Except Failure Value) : (scripted answers moves answer).Dependable where
  logs _ _ := rfl
  cookies _ _ := rfl
  authorization _ _ := rfl
  closes _ _ := rfl
  opens _ := ⟨_, rfl⟩

/-- A service that makes a consumer, subscribes it and has a batch without records, and a callback that makes
one move and wishes to go on. -/
def Surroundings.oneBatch (move : Move) : Surroundings :=
  .scripted [.ok (some "\x7b\"consumerInstanceId\": \"c\"\x7d"), .ok none, .ok (some "\x7b\"records\": []\x7d")]
    [move] (.ok (.bool true))

theorem eq_ok_of_isOk {r : Except Failure Unit} (well : r.isOk = true) : r = .ok () := by
  cases r with
  | ok _ => rfl
  | error e => cases well

/-- Whether a result is trouble that may pass, with a message and the name of an operation. -/
def failsForNow (message : String) (api : Option String) : Except Failure α → Bool
  | .error (.channel .transient text name none none) => text == message && name == api
  | _ => false

theorem eq_of_failsForNow (message : String) (api : Option String) {r : Except Failure α}
    (fails : failsForNow message api r = true) : r = .error (.transient message api) := by
  unfold failsForNow at fails
  split at fails
  · obtain ⟨text, name⟩ := Bool.and_eq_true_iff.mp fails
    cases beq_iff_eq.mp text
    cases beq_iff_eq.mp name
    rfl
  · cases fails

/-- The settings of a channel that has a group and commits for itself. -/
def committing : Settings where
  base := .text "https://service"
  group := .text "group"
  pathPrefix := .null
  consumerPathPrefix := .null
  retryOnFail := .bool true
  certificates := .null
  extra := [(.text Settings.autoCommitKey, .bool false)]
  stopPeriod := .int 1
  consumeTimeout := .int 0

end ConsumerChannel.Channel
