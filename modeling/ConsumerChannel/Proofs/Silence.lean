import ConsumerChannel.Proofs.Conduct

/-! Once a channel is destroyed it keeps silent. Every operation but stopping and destroying is refused by name,
those two return at once, and nothing changes or is seen outside. A run that is still under way when its callback
destroys the channel has handlers and a commit before it, yet nothing that it does then gets out either. -/
namespace ConsumerChannel.Channel
open Operation

/-- What a move comes to on a channel that is destroyed and at rest. -/
def Move.refusal (move : Move) : Except Failure Unit :=
  match move.refusedAs with
  | some api => .error (.permanent destroyedMessage (some api))
  | none => .ok ()

/-- A request, or a transport that is built or closed. -/
def Event.GetsOut (e : Event) : Prop :=
  match e.happening with
  | .sent _ _ _ | .opened _ | .closed _ _ => True
  | _ => False

/-- From the first moment on at which the session is inactive it stays as it is, and nothing gets out. -/
def Hushed (moments : List Event) : Prop :=
  moments.Pairwise fun e f =>
    e.memory.session.active = false → f.memory.session = e.memory.session ∧ ¬ f.GetsOut

/-- A stretch over which a channel falls silent once it is inactive. -/
def Chronicle.Hushes (c later : Chronicle) : Prop :=
  ∃ signals, later.signals = c.signals ++ signals ∧ Hushed (c.moments signals later)

/-! ## At rest -/

section
variable {surroundings : Surroundings} {nested : List Move → Chronicle → Chronicle} {caller : Thread}
  {c : Chronicle} {settings : Settings}

theorem exec_run_inactive (opened : c.memory.guard.OpenTo caller)
    (inactive : c.memory.session.active = false) (rounds : Nat) (callback : Option CallbackId)
    (topics : Topics) :
    exec (surroundings.host nested caller) (run settings rounds callback topics) c =
      (.error (.permanent destroyedMessage (some runName)), c) := by
  have refused : Leads (surroundings.host nested caller) (acquireActive runName) c fun r later =>
      r = .error (.permanent destroyedMessage (some runName)) ∧ later = c :=
    leads_acquireActive_inactive opened inactive runName
  exact exec_bind_error (Prod.ext refused.1 refused.2)

/-- A channel that is destroyed and at rest refuses a move, or lets it pass, without a trace. -/
theorem exec_move_inactive (opened : c.memory.guard.OpenTo caller)
    (inactive : c.memory.session.active = false) (resting : c.memory.flags.running = false)
    (free : c.memory.destroying = false) (move : Move) :
    exec (surroundings.host nested caller) (move.operation settings) c = (move.refusal, c) := by
  cases move with
  | create => exact exec_named_inactive opened inactive .create _
  | subscribe topics => exact exec_named_inactive opened inactive .subscribe _
  | subscriptions => exact exec_bind_error (exec_named_inactive opened inactive .subscriptions _)
  | delete => exact exec_named_inactive opened inactive .delete _
  | consume timeout => exact exec_bind_error (exec_named_inactive opened inactive .consume _)
  | commit => exact exec_named_inactive opened inactive .commit _
  | run rounds callback topics => exact exec_run_inactive opened inactive rounds callback topics
  | stop rounds =>
    have stops : Stops c _ (exec (surroundings.host nested caller) (stop settings rounds) c).2 :=
      leads_stop rounds
    obtain ⟨well, same⟩ := stops.resting resting
    exact Prod.ext well same
  | destroy rounds =>
    have destroys : Destroys surroundings caller settings c _
        (exec (surroundings.host nested caller) (destroy settings rounds) c).2 := leads_destroy opened rounds
    obtain ⟨well, same⟩ := destroys.of_inactive inactive free
    exact Prod.ext well same

theorem inTurn_inactive {depth : Nat} (inactive : c.memory.session.active = false)
    (resting : c.memory.flags.running = false) (free : c.memory.destroying = false)
    (calls : List (Thread × Move)) (opened : ∀ call ∈ calls, c.memory.guard.OpenTo call.1) :
    inTurn surroundings settings depth calls c = (calls.map fun call => call.2.refusal, c) := by
  induction calls with
  | nil => rfl
  | cons call rest ih =>
    unfold inTurn
    rw [exec_move_inactive (opened call (.head rest)) inactive resting free call.2]
    simp only [ih fun other member => opened other (.tail call member), List.map_cons]

end

/-! ## Stretches -/

section
variable {surroundings : Surroundings} {caller : Thread} {settings : Settings} {c d later : Chronicle}
  {m : State} {left : Session String Value} {context : LogContext} {signals : List Event}

namespace Chronicle

/-- A stretch that changes nothing and lets nothing out. -/
theorem Hushes.still (added : later.signals = c.signals ++ signals)
    (kept : ∀ e ∈ signals, e.memory.session = c.memory.session ∧ ¬ e.GetsOut)
    (session : later.memory.session = c.memory.session) : c.Hushes later := by
  refine ⟨signals, added, ?_⟩
  have all : ∀ e ∈ c.moments signals later, e.memory.session = c.memory.session ∧ ¬ e.GetsOut := by
    refine List.forall_mem_append.mpr ⟨List.forall_mem_cons.mpr ⟨⟨rfl, id⟩, kept⟩, ?_⟩
    exact List.forall_mem_singleton.mpr ⟨session, id⟩
  refine List.pairwise_iff_forall_sublist.mpr ?_
  intro e f within inactive
  have first := all e (within.subset (.head _))
  have second := all f (within.subset (.tail _ (.head _)))
  exact ⟨second.1.trans first.1.symm, second.2⟩

/-- A stretch over which the channel is active. -/
theorem Hushes.lively (added : later.signals = c.signals ++ signals)
    (active : c.memory.session.active = true) (all : ∀ e ∈ signals, e.memory.session.active = true) :
    c.Hushes later := by
  have lively : ∀ e ∈ ⟨c.memory, .ended⟩ :: signals, e.memory.session.active = true :=
    List.forall_mem_cons.mpr ⟨active, all⟩
  refine ⟨signals, added, List.pairwise_append.mpr ⟨?_, List.pairwise_singleton .., ?_⟩⟩
  · refine List.pairwise_iff_forall_sublist.mpr ?_
    intro e f within inactive
    exact nomatch (lively e (within.subset (.head _))).symm.trans inactive
  · intro e earlier f last inactive
    exact nomatch (lively e earlier).symm.trans inactive

theorem Hushes.trans (first : c.Hushes d) (second : d.Hushes later) : c.Hushes later := by
  obtain ⟨signals, added, hushed⟩ := first
  obtain ⟨more, goes, rest⟩ := second
  refine ⟨signals ++ more, by rw [goes, added, List.append_assoc], ?_⟩
  obtain ⟨before, -, towards⟩ := List.pairwise_append.mp hushed
  obtain ⟨onward, after⟩ := List.pairwise_cons.mp rest
  have joined : c.moments (signals ++ more) later =
      (⟨c.memory, .ended⟩ :: signals) ++ (more ++ [⟨later.memory, .ended⟩]) := by
    simp [moments]
  rw [joined]
  refine List.pairwise_append.mpr ⟨before, after, ?_⟩
  -- What is inactive before the moment between the two stretches is so at that moment.
  intro e earlier f further inactive
  obtain ⟨same, -⟩ := towards e earlier ⟨d.memory, .ended⟩ (List.mem_singleton.mpr rfl) inactive
  obtain ⟨kept, quiet⟩ := onward f further (by rw [same, inactive])
  exact ⟨kept.trans same, quiet⟩

theorem Hushes.refl : c.Hushes c := .still (List.append_nil _).symm (List.forall_mem_nil _) rfl

theorem Becomes.hushes (became : c.Becomes surroundings left context signals later)
    (active : c.memory.session.active = true) (all : ∀ e ∈ signals, e.memory.session.active = true) :
    c.Hushes later := .lively became.signals active all

theorem Becomes.hushes_of_passed
    (passed : c.Becomes surroundings c.memory.session c.memory.context [] later) : c.Hushes later :=
  .still passed.signals (List.forall_mem_nil _) passed.state.session

theorem Idles.hushes (idles : c.Idles later) : c.Hushes later :=
  .still (idles.signals.trans (List.append_nil _).symm) (List.forall_mem_nil _) idles.session

/-- Taking the memory elsewhere without touching the session. -/
theorem hushes_remember (memory : State) (same : memory.session = c.memory.session) :
    c.Hushes (c.remember memory) := .still (List.append_nil _).symm (List.forall_mem_nil _) same

/-- Noting something that does not get out. -/
theorem hushes_add (h : Happening) (within : ¬ Event.GetsOut ⟨c.memory, h⟩) : c.Hushes (c.add h) := by
  refine .still (signals_add h) ?_ rfl
  intro e noted
  rw [List.mem_singleton.mp (List.mem_filter.mp noted).1]
  exact ⟨rfl, within⟩

end Chronicle

/-! ## Operations -/

theorem Creates.lively {r : Except Failure Unit}
    (creates : Creates surroundings caller settings m r left signals) :
    ∀ e ∈ signals, e.memory.session.active = true := by
  have asks {within : State} {h : Happening} (amid : m.Amid surroundings caller settings .create .fresh within) :
      ∀ e ∈ ([⟨within, h⟩] : List Event), e.memory.session.active = true := by
    refine List.forall_mem_singleton.mpr ?_
    rw [amid.session]
    rfl
  cases creates with
  | groupless missing => exact List.forall_mem_nil _
  | unsent e reason => exact List.forall_mem_nil _
  | failed written amid e => exact asks amid
  | unread written amid meaningless misread => exact asks amid
  | made written amid named quiet => exact asks amid

theorem Equips.lively (equips : Equips surroundings caller settings m left signals) :
    ∀ e ∈ signals, e.memory.session.active = true := by
  cases equips with
  | held holding => exact List.forall_mem_nil _
  | created lacking creates => exact creates.lively

theorem Subscribes.lively {topics : Topics} {r : Except Failure Unit}
    (subscribes : Subscribes surroundings caller settings topics m r left signals)
    (active : m.session.active = true) : ∀ e ∈ signals, e.memory.session.active = true := by
  have asks {equipped : Session String Value} {before : List Event} {within : State} {h : Happening}
      (equips : Equips surroundings caller settings m equipped before)
      (amid : m.Amid surroundings caller settings .subscribe equipped within) :
      ∀ e ∈ before ++ [⟨within, h⟩], e.memory.session.active = true := by
    refine List.forall_mem_append.mpr ⟨equips.lively, List.forall_mem_singleton.mpr ?_⟩
    rw [amid.session]
    exact equips.active active
  cases subscribes with
  | topicless refused => exact List.forall_mem_nil _
  | uncreated wanted lacking creates => exact creates.lively
  | unwritten wanted equips refused => exact equips.lively
  | failed wanted texts equips held amid e => exact asks equips amid
  | done wanted texts equips held amid quiet => exact asks equips amid

/-- What is seen while the session stays as it is. -/
theorem lively_of_amid {api : Api} {within : State} {h : Happening} (active : m.session.active = true)
    (amid : m.Amid surroundings caller settings api m.session within) :
    ∀ e ∈ ([⟨within, h⟩] : List Event), e.memory.session.active = true := by
  refine List.forall_mem_singleton.mpr ?_
  rw [amid.session]
  exact active

theorem Inquires.lively {r : Except Failure (List String)}
    (inquires : Inquires surroundings caller settings m r left signals) (active : m.session.active = true) :
    ∀ e ∈ signals, e.memory.session.active = true := by
  cases inquires with
  | unheld absent => exact List.forall_mem_nil _
  | failed held amid e => exact lively_of_amid active amid
  | unread held amid filled meaningless misread => exact lively_of_amid active amid
  | listed held amid denoted => exact lively_of_amid active amid

theorem Deletes.lively {r : Except Failure Unit}
    (deletes : Deletes surroundings caller settings m r left signals) (active : m.session.active = true) :
    ∀ e ∈ signals, e.memory.session.active = true := by
  cases deletes with
  | unheld absent => exact List.forall_mem_nil _
  | sent held amid settled => exact lively_of_amid active amid

theorem Consumes.lively {timeout : Value} {r : Except Failure Batch}
    (consumes : Consumes surroundings caller settings timeout m r left signals)
    (active : m.session.active = true) : ∀ e ∈ signals, e.memory.session.active = true := by
  cases consumes with
  | unsubscribed topicless => exact List.forall_mem_nil _
  | unheld absent => exact List.forall_mem_nil _
  | incomparable fault => exact List.forall_mem_nil _
  | failed subscribed held amid e => exact lively_of_amid active amid
  | unread subscribed held amid meaningless misread => exact lively_of_amid active amid
  | read subscribed held amid denoted quiet => exact lively_of_amid active amid

theorem Commits.lively {r : Except Failure Unit}
    (commits : Commits surroundings caller settings m r left signals) (active : m.session.active = true) :
    ∀ e ∈ signals, e.memory.session.active = true := by
  cases commits with
  | automatic automatic => exact List.forall_mem_nil _
  | unheld manual absent => exact List.forall_mem_nil _
  | failed manual held amid e => exact lively_of_amid active amid
  | sent manual held amid answer => exact lively_of_amid active amid

theorem Acts.lively {move : Move} {r : Except Failure Unit}
    (acts : Acts surroundings caller settings m move r left signals) (active : m.session.active = true) :
    ∀ e ∈ signals, e.memory.session.active = true := by
  cases acts with
  | create creates => exact creates.lively
  | subscribe subscribes => exact subscribes.lively active
  | subscriptions inquires => exact inquires.lively active
  | delete deletes => exact deletes.lively active
  | consume consumes => exact consumes.lively active
  | commit commits => exact commits.lively active

/-- A transport is closed or built while the channel is active. -/
theorem Chronicle.Becomes.hushes_of_active {h : Happening}
    (became : c.Becomes surroundings c.memory.session c.memory.context [⟨c.memory, h⟩] later)
    (active : c.memory.session.active = true) : c.Hushes later :=
  became.hushes active (List.forall_mem_singleton.mpr active)

/-- Deleting the consumer of an active channel. -/
theorem Deletes.hushes {r : Except Failure Unit}
    (deletes : Deletes surroundings caller settings c.memory r left signals)
    (deleted : c.Becomes surroundings left c.memory.context signals d)
    (active : c.memory.session.active = true) : c.Hushes d ∧ d.memory.session.active = true := by
  refine ⟨deleted.hushes active (deletes.lively active), ?_⟩
  rw [deleted.state.session]
  exact deletes.active active

theorem Dissolves.hushes {r : Except Failure Unit}
    (dissolves : Dissolves surroundings caller settings c r later) : c.Hushes later := by
  have still {r : Except Failure Unit} {d : Chronicle} (active : c.memory.session.active = true)
      (stops : Stops c r d) : d.memory.session.active = true := by rw [stops.idles.session, active]
  cases dissolves with
  | frozen inactive => exact .refl
  | unstopped active stops => exact stops.idles.hushes
  | undeleted active stops deletes deleted =>
    exact stops.idles.hushes.trans (deletes.hushes deleted (still active stops)).1
  | unclosed active stops deletes deleted closed careless =>
    obtain ⟨first, lively⟩ := deletes.hushes deleted (still active stops)
    exact (stops.idles.hushes.trans first).trans (closed.hushes_of_active lively)
  | dissolved active stops deletes deleted closed frozen quiet =>
    obtain ⟨first, lively⟩ := deletes.hushes deleted (still active stops)
    have second := (stops.idles.hushes.trans first).trans (closed.hushes_of_active lively)
    exact second.trans (frozen.hushes (by rw [closed.state.session, lively]) (List.forall_mem_nil _))

theorem Destroys.hushes {r : Except Failure Unit}
    (destroys : Destroys surroundings caller settings c r later) : c.Hushes later := by
  cases destroys with
  | contended busy => exact .refl
  | tried free dissolves =>
    have claimed := Chronicle.hushes_remember (c.memory.locked true) rfl
    exact (claimed.trans dissolves.hushes).trans (Chronicle.hushes_remember _ rfl)

/-! ## Runs -/

theorem Recreates.hushes {r : Except Failure Unit}
    (recreates : Recreates surroundings caller settings c r later) : c.Hushes later := by
  have still {d : Chronicle} (active : c.memory.session.active = true) (passed : c.Passes surroundings d) :
      d.memory.session.active = true := by rw [passed.state.session, active]
  cases recreates with
  | destroyed passed inactive => exact passed.hushes_of_passed
  | undeleted passed active deletes deleted =>
    exact passed.hushes_of_passed.trans (deletes.hushes deleted (still active passed)).1
  | unclosed passed active deletes deleted closed careless =>
    obtain ⟨first, lively⟩ := deletes.hushes deleted (still active passed)
    exact (passed.hushes_of_passed.trans first).trans (closed.hushes_of_active lively)
  | unopened passed active deletes deleted closed opened careless =>
    obtain ⟨first, lively⟩ := deletes.hushes deleted (still active passed)
    have second := (passed.hushes_of_passed.trans first).trans (closed.hushes_of_active lively)
    exact second.trans (opened.hushes_of_active (by rw [closed.state.session, lively]))
  | rebuilt passed active deletes deleted closed opened creates created =>
    obtain ⟨first, lively⟩ := deletes.hushes deleted (still active passed)
    have second := (passed.hushes_of_passed.trans first).trans (closed.hushes_of_active lively)
    have third := second.trans (opened.hushes_of_active (by rw [closed.state.session, lively]))
    refine third.trans (.trans (Chronicle.hushes_remember _ (by rfl)) (created.hushes ?_ creates.lively))
    rw [memory_remember, State.through, opened.state.session, closed.state.session, lively]

theorem Cleans.hushes {r : Except Failure Unit} (cleans : Cleans surroundings caller settings c r later) :
    c.Hushes later := by
  cases cleans with
  | destroyed passed inactive => exact passed.hushes_of_passed
  | deleted passed active deletes deleted last =>
    obtain ⟨first, lively⟩ := deletes.hushes deleted (by rw [passed.state.session, active])
    exact (passed.hushes_of_passed.trans first).trans last.hushes_of_passed

/-- Every part of a run falls silent once the channel is inactive. -/
theorem upholds_hushes : Upholds surroundings caller settings Chronicle.Hushes where
  refl _ := .refl
  trans _ _ _ := .trans
  unseen _ _ signals session := .still (signals.trans (List.append_nil _).symm) (List.forall_mem_nil _) session
  called _ _ _ _ := Chronicle.hushes_add _ id
  returned _ _ := Chronicle.hushes_add _ id
  subscribes _ _ _ _ _ _ active subscribes became := became.hushes active (subscribes.lively active)
  consumes _ _ _ _ _ _ active consumes became := became.hushes active (consumes.lively active)
  commits _ _ _ _ _ active commits became := became.hushes active (commits.lively active)
  recreates _ _ _ recreates := recreates.hushes
  cleans _ _ _ cleans := cleans.hushes

section
variable {nested : List Move → Chronicle → Chronicle}

theorem Makes.hushes {move : Move} {r : Except Failure Unit}
    (makes : Makes surroundings caller settings nested c move r later)
    (leaves : LeavesGuard surroundings nested caller)
    (within : Nests surroundings nested caller Chronicle.Hushes) : c.Hushes later := by
  cases makes with
  | refused inactive refused => exact .refl
  | acted active acts became => exact became.hushes active (acts.lively active)
  | ran runs => exact upholds_hushes.runs within leaves runs
  | stopped stops => exact stops.idles.hushes
  | destroyed destroys => exact destroys.hushes

end

theorem nests_hushes (quiet : surroundings.LogsQuietly) (depth : Nat) :
    Nests surroundings (perform surroundings settings caller depth) caller Chronicle.Hushes := by
  intro events c opened
  exact (@perform_relates surroundings caller settings quiet Chronicle.Hushes (fun _ => .refl)
    (fun _ _ _ => .trans) (fun _ => True) (fun _ _ _ => trivial)
    (fun leaves within _ _ makes => (makes.hushes leaves within).trans (Chronicle.hushes_add _ id)) depth
    (surroundings.moves events) (fun _ _ => trivial) c opened).2

end

/-- On a channel that is destroyed and at rest every call is refused by name, or returns at once if it stops or
destroys, and nothing changes and nothing is seen of it, whichever threads call what in whichever order. And from the
moment on at which a channel is destroyed in the middle of a run, say by its callback, the session stays as it is,
no request is sent and no transport built or closed, whatever the callback goes on to do, return or raise. -/
theorem destroyed_channel_keeps_silent (surroundings : Surroundings) (settings : Settings) (depth : Nat)
    (c : Chronicle) :
    (c.memory.session.active = false → c.memory.flags.running = false → c.memory.guard = .free →
      c.memory.destroying = false → ∀ calls,
        inTurn surroundings settings depth calls c = (calls.map fun call => call.2.refusal, c)) ∧
    ∀ caller rounds callback topics, c.memory.guard.OpenTo caller → surroundings.LogsQuietly →
      c.Hushes (exec (surroundings.hosting settings caller depth)
        (run settings rounds callback topics) c).2 := by
  refine ⟨fun inactive resting unclaimed free calls =>
    inTurn_inactive inactive resting free calls fun call _ => .inl unclaimed, ?_⟩
  intro caller rounds callback topics opened quiet
  have leaves : LeavesGuard surroundings (perform surroundings settings caller depth) caller :=
    leavesGuard quiet depth
  have runs : Runs surroundings caller settings (perform surroundings settings caller depth) rounds callback
      topics c _ (exec (surroundings.hosting settings caller depth)
        (run settings rounds callback topics) c).2 := leads_run quiet leaves opened rounds
  exact upholds_hushes.runs (nests_hushes quiet depth) leaves runs

/-- A run whose callback destroys the channel and wishes to go on ends in silence, and every later call meets it. -/
theorem channel_destroyed_by_callback_keeps_silent :
    (Chronicle.start 0).memory.guard.OpenTo 0 ∧ (Surroundings.oneBatch (.destroy 0)).LogsQuietly ∧
      ∃ c, c = (exec ((Surroundings.oneBatch (.destroy 0)).hosting committing 0 1)
          (run committing 2 (some 0) (.single "t")) (.start 0)).2 ∧
        (Chronicle.start 0).Hushes c ∧ c.memory.session.active = false ∧ c.memory.flags.running = false ∧
        c.memory.guard = .free ∧ c.memory.destroying = false ∧
        inTurn (.oneBatch (.destroy 0)) committing 1 [(0, .commit), (1, .run 2 none .absent), (2, .destroy 1)] c =
          ([.error (.permanent destroyedMessage (some "commit")),
            .error (.permanent destroyedMessage (some "run")), .ok ()], c) := by
  have opened : (Chronicle.start 0).memory.guard.OpenTo 0 := .inl rfl
  have quiet : (Surroundings.oneBatch (.destroy 0)).LogsQuietly := (Surroundings.scripted_dependable ..).logs
  obtain ⟨-, hushes⟩ := destroyed_channel_keeps_silent (.oneBatch (.destroy 0)) committing 1 (.start 0)
  refine ⟨opened, quiet, _, rfl, hushes 0 2 (some 0) (.single "t") opened quiet, ?_⟩
  have inactive : (exec ((Surroundings.oneBatch (.destroy 0)).hosting committing 0 1)
      (run committing 2 (some 0) (.single "t")) (.start 0)).2.memory.session.active = false := by
    decide +kernel
  have resting : (exec ((Surroundings.oneBatch (.destroy 0)).hosting committing 0 1)
      (run committing 2 (some 0) (.single "t")) (.start 0)).2.memory.flags.running = false := by
    decide +kernel
  have unclaimed : (exec ((Surroundings.oneBatch (.destroy 0)).hosting committing 0 1)
      (run committing 2 (some 0) (.single "t")) (.start 0)).2.memory.guard = .free := by
    decide +kernel
  have free : (exec ((Surroundings.oneBatch (.destroy 0)).hosting committing 0 1)
      (run committing 2 (some 0) (.single "t")) (.start 0)).2.memory.destroying = false := by
    decide +kernel
  obtain ⟨silent, -⟩ := destroyed_channel_keeps_silent (.oneBatch (.destroy 0)) committing 1
    (exec ((Surroundings.oneBatch (.destroy 0)).hosting committing 0 1)
      (run committing 2 (some 0) (.single "t")) (.start 0)).2
  exact ⟨inactive, resting, unclaimed, free, silent inactive resting unclaimed free _⟩

end ConsumerChannel.Channel
