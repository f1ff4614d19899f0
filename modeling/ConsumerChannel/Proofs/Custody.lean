import ConsumerChannel.Proofs.Recovery
import ConsumerChannel.Proofs.Tending

/-! Who closes which transport. A channel always has one transport in its care. Building a session anew is the only way
to get another one, and closes the old one first; destroying the channel closes the last. So transports are closed in
the order in which they were built, each one once, and no request ever goes through one that is closed. -/
namespace ConsumerChannel.Channel
open Operation

/-! ## Counting transports -/

/-- The number of a transport that was built. -/
def Event.built? (e : Event) : Option Nat :=
  match e.happening with
  | .opened (.ok n) => some n
  | _ => none

/-- The number of a transport that was closed. -/
def Event.closed? (e : Event) : Option Nat :=
  match e.happening with
  | .closed n _ => some n
  | _ => none

/-- The transports that were built, in order; the first one came with the channel. -/
def built (first : Nat) (events : List Event) : List Nat := first :: events.filterMap Event.built?

/-- The transports that were closed, in order. -/
def closed (events : List Event) : List Nat := events.filterMap Event.closed?

/-- The record with which a loop begins to build its session anew, if an event is one. -/
def Event.recovery? (e : Event) : Option LogRecord :=
  match e.happening with
  | .aside (.log record) => if beginsRecovery record then some record else none
  | _ => none

/-- The first part of building a session anew: it is logged, and the consumer is deleted. -/
def forgetting (settings : Settings) (record : LogRecord) : Operation Unit := do
  ExceptT.mk (ask (.outside (.log record)))
  delete settings

section
variable (surroundings : Surroundings) (settings : Settings) (caller : Thread)

/-- How many events there are once the consumer is deleted, if a loop begins with an event to build its session anew
and the deletion does not fail. What comes of the deletion is settled by what happened before: it is found by carrying
it out from the moment of the event, and no callback has a part in it. -/
def renewal? (past : List Event) (e : Event) : Option Nat :=
  e.recovery?.bind fun record =>
    match exec (surroundings.host (fun _ c => c) caller) (forgetting settings record) ⟨e.memory, past⟩ with
    | (.ok _, later) => some later.events.length
    | (.error _, _) => none

/-- How many events there are at the end of each deletion that does not fail, one for every recovery that begins in a
stretch. -/
def renewalEnds (past : List Event) : List Event → List Nat
  | [] => []
  | e :: rest => (renewal? surroundings settings caller past e).toList ++ renewalEnds (past ++ [e]) rest

/-- How many recoveries have come so far that the old consumer is deleted without a failure. -/
def renewals (events : List Event) : Nat :=
  (renewalEnds surroundings settings caller [] events).countP (· ≤ events.length)

/-- The transports at a moment, by what happened before it: they were closed in the order in which they were built, and
an active channel has one left, the last. One was built with the channel, and one for each session that was built
anew. -/
structure InCustody (first : Nat) (m : State) (past : List Event) : Prop where
  accounted : built first past = closed past ++ if m.session.active then [m.transport] else []
  current : (built first past).getLast? = some m.transport
  renewed : (built first past).length = 1 + renewals surroundings settings caller past

/-- Transports are in order whenever a request is sent, which goes through the one that is left, and after every
operation. -/
structure Event.InOrder (first : Nat) (past : List Event) (e : Event) : Prop where
  sent : ∀ n request answer, e.happening = .sent n request answer →
    InCustody surroundings settings caller first e.memory past ∧ n = e.memory.transport ∧
      e.memory.session.active = true
  ended : e.happening = .ended → InCustody surroundings settings caller first e.memory past

/-- Transports were in order at every event, and are in order now. -/
structure Custody (first : Nat) (c : Chronicle) : Prop where
  order : ∀ past e rest, c.events = past ++ e :: rest → e.InOrder surroundings settings caller first past
  now : InCustody surroundings settings caller first c.memory c.events
  finished : ∀ n ∈ renewalEnds surroundings settings caller [] c.events, n ≤ c.events.length

end

section
variable {surroundings : Surroundings} {settings : Settings} {caller : Thread} {first : Nat} {m : State}
  {past events more : List Event} {e : Event} {c d : Chronicle}

theorem built_append : built first (events ++ more) = built first events ++ more.filterMap Event.built? := by
  simp [built]

theorem closed_append : closed (events ++ more) = closed events ++ more.filterMap Event.closed? := by
  simp [closed]

theorem renewalEnds_append : renewalEnds surroundings settings caller past (events ++ more) =
    renewalEnds surroundings settings caller past events ++
      renewalEnds surroundings settings caller (past ++ events) more := by
  induction events generalizing past with
  | nil => simp [renewalEnds]
  | cons e rest ih => simp [renewalEnds, ih]

/-- Events with which no recovery begins add nothing. -/
theorem renewalEnds_none (none : ∀ e ∈ more, e.recovery? = none) :
    renewalEnds surroundings settings caller past (events ++ more) =
      renewalEnds surroundings settings caller past events := by
  have empty (front : List Event) : renewalEnds surroundings settings caller front more = [] := by
    induction more generalizing front with
    | nil => rfl
    | cons e rest ih =>
      obtain ⟨first, others⟩ := List.forall_mem_cons.mp none
      rw [renewalEnds, ih others, renewal?, first]
      rfl
  rw [renewalEnds_append, empty, List.append_nil]

/-- Once every deletion that began is over, all of them count. -/
theorem renewals_of_finished (finished : ∀ n ∈ renewalEnds surroundings settings caller [] events, n ≤ events.length) :
    renewals surroundings settings caller events = (renewalEnds surroundings settings caller [] events).length :=
  List.countP_eq_length.mpr fun n member => decide_eq_true (finished n member)

/-- An event that minds a transport neither builds nor closes one, and begins no recovery. -/
theorem Event.Minds.still (minds : e.Minds m) : e.built? = none ∧ e.closed? = none ∧ e.recovery? = none := by
  obtain ⟨within, happening⟩ := e
  rcases minds.happening with mild | ⟨-, request, answer, sent⟩
  · cases happening with
    | opened answer => exact mild.elim
    | closed n answer => exact mild.elim
    | aside call =>
      cases call with
      | log record =>
        have other : beginsRecovery record = false := mild
        exact ⟨rfl, rfl, by simp [Event.recovery?, other]⟩
      | _ => exact ⟨rfl, rfl, rfl⟩
    | _ => exact ⟨rfl, rfl, rfl⟩
  · cases sent
    exact ⟨rfl, rfl, rfl⟩

section
variable (minds : ∀ e ∈ more, e.Minds m)
include minds

theorem built_minds : built first (events ++ more) = built first events := by
  rw [built_append, List.filterMap_eq_nil_iff.mpr fun e member => (minds e member).still.1, List.append_nil]

theorem closed_minds : closed (events ++ more) = closed events := by
  rw [closed_append, List.filterMap_eq_nil_iff.mpr fun e member => (minds e member).still.2.1, List.append_nil]

theorem renewalEnds_minds : renewalEnds surroundings settings caller past (events ++ more) =
    renewalEnds surroundings settings caller past events :=
  renewalEnds_none fun e member => (minds e member).still.2.2

end

/-! ## What operations on a consumer keep -/

theorem InCustody.of_same {n : State} (held : InCustody surroundings settings caller first m past)
    (transport : n.transport = m.transport) (active : n.session.active = m.session.active) :
    InCustody surroundings settings caller first n past := by
  refine ⟨?_, ?_, held.renewed⟩
  · rw [transport, active]
    exact held.accounted
  · rw [transport]
    exact held.current

theorem Event.Minds.inOrder (minds : e.Minds m) (held : InCustody surroundings settings caller first m past) :
    e.InOrder surroundings settings caller first past := by
  have now := held.of_same minds.transport minds.active
  refine ⟨fun n request answer happened => ?_, fun _ => now⟩
  rcases minds.happening with mild | ⟨active, _, _, sent⟩
  · rw [happened] at mild
    exact mild.elim
  · cases happened.symm.trans sent
    exact ⟨now, minds.transport.symm, minds.active.trans active⟩

/-- Events that mind a transport stay in order, as long as the transports stand well. -/
theorem inOrder_append
    (order : ∀ past e rest, events = past ++ e :: rest → e.InOrder surroundings settings caller first past)
    (minds : ∀ e ∈ more, e.Minds m)
    (held : ∀ front e back, more = front ++ e :: back →
      InCustody surroundings settings caller first m (events ++ front)) :
    ∀ past e rest, events ++ more = past ++ e :: rest → e.InOrder surroundings settings caller first past := by
  intro past e rest same
  rcases split_append same with ⟨back, before, -⟩ | ⟨front, rfl, after⟩
  · exact order past e back before
  · exact (minds e (by simp [after])).inOrder (held front e rest after)

/-- Transports are in order now if every deletion that began is over, and a transport was built for each. -/
theorem Custody.of_count
    (order : ∀ past e rest, c.events = past ++ e :: rest → e.InOrder surroundings settings caller first past)
    (finished : ∀ n ∈ renewalEnds surroundings settings caller [] c.events, n ≤ c.events.length)
    (accounted : built first c.events = closed c.events ++ if c.memory.session.active then [c.memory.transport] else [])
    (current : (built first c.events).getLast? = some c.memory.transport)
    (count : (built first c.events).length = 1 + (renewalEnds surroundings settings caller [] c.events).length) :
    Custody surroundings settings caller first c :=
  ⟨order, ⟨accounted, current, by rw [renewals_of_finished finished, count]⟩, finished⟩

theorem Custody.count (custody : Custody surroundings settings caller first c) :
    (built first c.events).length = 1 + (renewalEnds surroundings settings caller [] c.events).length := by
  rw [← renewals_of_finished custody.finished, custody.now.renewed]

theorem Custody.tends (custody : Custody surroundings settings caller first c) (tends : c.Tends d) :
    Custody surroundings settings caller first d := by
  obtain ⟨transport, active, more, goes, minds⟩ := tends
  have finished {front : List Event} (minds : ∀ e ∈ front, e.Minds c.memory) :
      ∀ n ∈ renewalEnds surroundings settings caller [] (c.events ++ front), n ≤ (c.events ++ front).length := by
    rw [renewalEnds_minds minds, List.length_append]
    exact fun n member => Nat.le_add_right_of_le (custody.finished n member)
  have stands {front : List Event} (minds : ∀ e ∈ front, e.Minds c.memory) :
      InCustody surroundings settings caller first c.memory (c.events ++ front) := by
    refine ⟨?_, ?_, ?_⟩
    · rw [built_minds minds, closed_minds minds]
      exact custody.now.accounted
    · rw [built_minds minds]
      exact custody.now.current
    · rw [built_minds minds, renewals_of_finished (finished minds), renewalEnds_minds minds]
      exact custody.count
  refine ⟨?_, ?_, ?_⟩
  · rw [goes]
    refine inOrder_append custody.order minds fun front e back same => stands fun f member => ?_
    exact minds f (by simp [same, member])
  · rw [goes]
    exact (stands minds).of_same transport active
  · rw [goes]
    exact finished minds

end

/-- What is true of a chronicle stays true while it goes on with one transport. -/
def Tended (invariant : Chronicle → Prop) : Prop := ∀ c d, invariant c → c.Tends d → invariant d

section
variable {surroundings : Surroundings} {settings : Settings} {caller : Thread} {first : Nat}
  {nested : List Move → Chronicle → Chronicle} {invariant : Chronicle → Prop}

theorem Tended.orderly (tended : Tended invariant) : Orderly caller invariant where
  steps s c mild held := tended c _ held ((tends_orderly : Orderly caller c.Tends).steps s c mild .refl)
  notes c h mild held := tended c _ held ((tends_orderly : Orderly caller c.Tends).notes c h mild .refl)
  flags c flags held := tended c _ held ((tends_orderly : Orderly caller c.Tends).flags c flags .refl)

theorem Tended.keeps (tended : Tended invariant) {operation : Operation α}
    (kept : ∀ c : Chronicle, Keeps (surroundings.host nested caller) c.Tends operation) :
    Keeps (surroundings.host nested caller) invariant operation := fun c held =>
  (kept c c .refl).weaken fun _ d tends => tended c d held tends

theorem Tended.delete (tended : Tended invariant) :
    Keeps (surroundings.host nested caller) invariant (delete settings) :=
  tended.keeps fun _ _ tends => (tends_delete tends).weaken fun _ _ held => held.1

/-- All that is left to show are the two places where transports change hands. -/
theorem Tended.sustained (tended : Tended invariant)
    (recreate : ∀ e, Keeps (surroundings.host nested caller) invariant (recreate settings e))
    (destroy : ∀ rounds, Keeps (surroundings.host nested caller) invariant (destroy settings rounds)) :
    Sustained surroundings settings caller nested invariant where
  toOrderly := tended.orderly
  create := tended.keeps fun _ => tends_create
  subscribe topics := tended.keeps fun _ => tends_subscribe topics
  subscriptions := tended.keeps fun _ => tends_subscriptions
  delete := tended.delete
  consume timeout := tended.keeps fun _ => tends_consume timeout
  commit := tended.keeps fun _ => tends_commit
  recreate := recreate
  destroy := destroy

end

/-- Transports can always be had, and closing one never fails. -/
structure Surroundings.TradesTransports (surroundings : Surroundings) : Prop where
  opens : ∀ events, ∃ n, surroundings.reply events .openTransport = .ok n
  closes : ∀ events n, surroundings.reply events (.closeTransport n) = .ok ()

section
variable {surroundings : Surroundings} {settings : Settings} {caller : Thread} {first : Nat}
  {nested : List Move → Chronicle → Chronicle} {c d : Chronicle} {record : LogRecord}

/-! ## Giving up the last transport -/

/-- An event that is neither a request nor the end of an operation says nothing of the order. -/
theorem inOrder_quiet {events : List Event} {e : Event}
    (order : ∀ past e rest, events = past ++ e :: rest → e.InOrder surroundings settings caller first past)
    (sent : ∀ n request answer, e.happening ≠ .sent n request answer) (ended : e.happening ≠ .ended) :
    ∀ past f rest, events ++ [e] = past ++ f :: rest → f.InOrder surroundings settings caller first past := by
  intro past f rest same
  rcases split_append same with ⟨back, before, -⟩ | ⟨front, rfl, after⟩
  · exact order past f back before
  · cases front with
    | nil =>
      obtain ⟨rfl, -⟩ := List.cons.inj after
      exact ⟨fun n request answer happened => absurd happened (sent n request answer),
        fun finished => absurd finished ended⟩
    | cons => simp at after

/-- What happens while no transport is built and no consumer forgotten leaves transports in order, if every one that was
built is closed or left. -/
theorem Custody.note (custody : Custody surroundings settings caller first c) {h : Happening} {m : State}
    (sent : ∀ n request answer, h ≠ .sent n request answer) (ended : h ≠ .ended)
    (unbuilt : Event.built? ⟨c.memory, h⟩ = none)
    (unrenewed : renewal? surroundings settings caller c.events ⟨c.memory, h⟩ = none)
    (transport : m.transport = c.memory.transport)
    (accounted : built first c.events =
      closed (c.events ++ [⟨c.memory, h⟩]) ++ if m.session.active then [m.transport] else []) :
    Custody surroundings settings caller first ((c.add h).remember m) := by
  have goes : ((c.add h).remember m).events = c.events ++ [⟨c.memory, h⟩] := rfl
  have same : built first (c.events ++ [⟨c.memory, h⟩]) = built first c.events := by
    rw [built_append, List.filterMap_cons_none unbuilt, List.filterMap_nil, List.append_nil]
  have ends : renewalEnds surroundings settings caller [] (c.events ++ [⟨c.memory, h⟩]) =
      renewalEnds surroundings settings caller [] c.events := by
    rw [renewalEnds_append, List.nil_append, renewalEnds, unrenewed]
    exact List.append_nil _
  refine Custody.of_count (inOrder_quiet custody.order sent ended) ?_ ?_ ?_ ?_
  · rw [goes, ends, List.length_append]
    exact fun n member => Nat.le_add_right_of_le (custody.finished n member)
  · rw [goes, same]
    exact accounted
  · rw [goes, same, memory_remember, transport]
    exact custody.now.current
  · rw [goes, same, ends]
    exact custody.count

/-- The transport of an active channel is closed, and the session frozen. -/
theorem Custody.close (custody : Custody surroundings settings caller first c) (active : c.memory.session.active = true)
    (answer : Except Failure Unit) {m : State} (transport : m.transport = c.memory.transport)
    (frozen : m.session.active = false) :
    Custody surroundings settings caller first ((c.add (.closed c.memory.transport answer)).remember m) := by
  refine custody.note nofun nofun rfl rfl transport ?_
  rw [custody.now.accounted, active, frozen, closed_append]
  exact (List.append_nil _).symm

theorem Surroundings.TradesTransports.close (trades : surroundings.TradesTransports) :
    Leads (surroundings.host nested caller) closeTransport c fun r d => r = .ok () ∧
      ∃ flags, d = (c.add (.closed c.memory.transport (.ok ()))).flagged flags := by
  apply leads_step_bind
  refine ⟨trades.closes _ _, surroundings.meanwhile c.events (.closeTransport c.memory.transport) c.memory.flags, ?_⟩
  show (c.add (.closed c.memory.transport
    (surroundings.reply c.events (.closeTransport c.memory.transport)))).flagged _ = _
  rw [trades.closes]
  rfl

theorem Surroundings.TradesTransports.open (trades : surroundings.TradesTransports) :
    Leads (surroundings.host nested caller) openTransport c fun r d => r = .ok () ∧
      ∃ n flags, d = ((c.add (.opened (.ok n))).flagged flags).remember { c.memory with flags, transport := n } := by
  obtain ⟨n, opened⟩ := trades.opens c.events
  have ran : exec (surroundings.host nested caller) (ExceptT.mk (ask (.outside .openTransport)) : Operation Nat) c =
      (.ok n, (c.add (.opened (.ok n))).flagged (surroundings.meanwhile c.events .openTransport c.memory.flags)) := by
    show (surroundings.reply c.events .openTransport,
      (c.add (.opened (surroundings.reply c.events .openTransport))).flagged _) = _
    rw [opened]
    rfl
  refine leads_bind_of_exec ran ?_ nofun
  rintro _ ⟨⟩
  exact ⟨rfl, n, _, rfl⟩

theorem tended_custody : Tended (Custody surroundings settings caller first) := fun _ _ => Custody.tends

/-- Transports are in order, and one is in use. -/
private theorem tended_active :
    Tended fun c => Custody surroundings settings caller first c ∧ c.memory.session.active = true :=
  fun _ _ held tends => ⟨held.1.tends tends, tends.active.trans held.2⟩

theorem custody_destroy (trades : surroundings.TradesTransports) (rounds : Nat) :
    Keeps (surroundings.host nested caller) (Custody surroundings settings caller first) (destroy settings rounds) := by
  have orderly : Orderly caller (Custody surroundings settings caller first) := tended_custody.orderly
  have body : Keeps (surroundings.host nested caller) (Custody surroundings settings caller first) (do
      if (← session).active then
        Channel.stop settings rounds
        Channel.delete settings
        closeTransport
        Operation.step .deactivate
        log Level.info "Channel destroyed" [("consumer_group", settings.group)]) := by
    intro c custody
    apply leads_step_bind
    show Leads _ (if c.memory.session.active = true then _ else _) c _
    split
    · next active =>
      refine (tended_active.orderly.stop rounds c ⟨custody, active⟩).bind ?_ fun _ _ held => held.1
      intro _ d held
      refine (tended_active.delete d held).bind ?_ fun _ _ held => held.1
      intro _ d ⟨custody, active⟩
      refine trades.close.bind ?_ nofun
      rintro _ _ ⟨-, flags, rfl⟩
      apply leads_step_bind
      exact orderly.log _ _ (by decide) _ (custody.close active _ rfl rfl)
    · exact custody
  refine (orderly.step .lockDestroy trivial).bind fun free => ?_
  cases free with
  | false => exact keeps_throw_bind _ _
  | true => exact body.ensuring orderly.unlockDestroy

/-! ## Building a session anew -/

/-- Whatever comes of forgetting a consumer, it is logged first, and then no other transport comes into use. Only an
active channel forgets one without a failure. -/
theorem leads_forgetting (record : LogRecord) :
    Leads (surroundings.host nested caller) (forgetting settings record) c fun r d =>
      (c.add (.aside (.log record))).Tends d ∧ (r.isOk = true → d.memory.session.active = true) := by
  have logged : Leads (surroundings.host nested caller) (ExceptT.mk (ask (.outside (.log record))) : Operation Unit) c
      fun _ d => (c.add (.aside (.log record))).Tends d :=
    outside_keeps (fun _ flags tends => tends.flagged flags) (.log record) nofun fun _ => .refl
  exact logged.bind (fun _ _ tends => tends_delete tends) fun _ _ tends => ⟨tends, nofun⟩

/-- Whether a recovery is renewed, and when, is told by the run in which it is. -/
theorem renewal?_eq (begins : beginsRecovery record = true) {r : Except Failure Unit}
    (ran : exec (surroundings.host nested caller) (forgetting settings record) c = (r, d)) :
    renewal? surroundings settings caller c.events ⟨c.memory, .aside (.log record)⟩ =
      if r.isOk then some d.events.length else none := by
  have aloof : Aloof surroundings caller (forgetting settings record) :=
    Aloof.bind (aloof_call (.log record) nofun) fun _ => aloof_delete
  have recovery : Event.recovery? ⟨c.memory, .aside (.log record)⟩ = some record := if_pos begins
  rw [renewal?, recovery, Option.bind_some, aloof _ nested, ran]
  cases r <;> rfl

/-- A recovery whose deletion fails leaves transports in order. -/
theorem Custody.mark (custody : Custody surroundings settings caller first c)
    (unrenewed : renewal? surroundings settings caller c.events ⟨c.memory, .aside (.log record)⟩ = none) :
    Custody surroundings settings caller first (c.add (.aside (.log record))) := by
  refine custody.note nofun nofun rfl unrenewed rfl ?_
  rw [closed_append, custody.now.accounted]
  exact congrArg (· ++ _) (List.append_nil _).symm

/-- The transports of an active channel whose consumer is forgotten, and whose transport is not replaced yet. -/
structure Vacating (surroundings : Surroundings) (settings : Settings) (caller : Thread) (first : Nat) (c : Chronicle) :
    Prop where
  order : ∀ past e rest, c.events = past ++ e :: rest → e.InOrder surroundings settings caller first past
  finished : ∀ n ∈ renewalEnds surroundings settings caller [] c.events, n ≤ c.events.length
  accounted : built first c.events = closed c.events ++ [c.memory.transport]
  due : (built first c.events).length = (renewalEnds surroundings settings caller [] c.events).length

-- What was built, closed and renewed by the time that a recovery is marked and the deletion in it has begun.
section
variable {past front : List Event} {mark : Event} {finish : Nat} (minds : ∀ e ∈ front, e.Minds m)
include minds

theorem built_marked (unbuilt : mark.built? = none) : built first (past ++ [mark] ++ front) = built first past := by
  rw [built_minds minds, built_append, List.filterMap_cons_none unbuilt, List.filterMap_nil, List.append_nil]

theorem closed_marked (unclosed : mark.closed? = none) : closed (past ++ [mark] ++ front) = closed past := by
  rw [closed_minds minds, closed_append, List.filterMap_cons_none unclosed, List.filterMap_nil, List.append_nil]

theorem renewalEnds_marked (renewed : renewal? surroundings settings caller past mark = some finish) :
    renewalEnds surroundings settings caller [] (past ++ [mark] ++ front) =
      renewalEnds surroundings settings caller [] past ++ [finish] := by
  rw [renewalEnds_minds minds, renewalEnds_append, List.nil_append, renewalEnds, renewed]
  rfl

end

/-- A renewal does not count while the deletion with which it begins is under way. -/
theorem Custody.pending (custody : Custody surroundings settings caller first c) {mark : Event} {front : List Event}
    {finish : Nat} (unbuilt : mark.built? = none) (unclosed : mark.closed? = none)
    (minds : ∀ e ∈ front, e.Minds c.memory)
    (renewed : renewal? surroundings settings caller c.events mark = some finish)
    (early : (c.events ++ [mark] ++ front).length < finish) :
    InCustody surroundings settings caller first c.memory (c.events ++ [mark] ++ front) := by
  have old : (renewalEnds surroundings settings caller [] c.events).countP
      (· ≤ (c.events ++ [mark] ++ front).length) = (renewalEnds surroundings settings caller [] c.events).length := by
    refine List.countP_eq_length.mpr fun n member => decide_eq_true ?_
    rw [List.length_append, List.length_append, Nat.add_assoc]
    exact Nat.le_add_right_of_le (custody.finished n member)
  refine ⟨?_, ?_, ?_⟩
  · rw [built_marked minds unbuilt, closed_marked minds unclosed]
    exact custody.now.accounted
  · rw [built_marked minds unbuilt]
    exact custody.now.current
  · rw [built_marked minds unbuilt, renewals, renewalEnds_marked minds renewed, List.countP_append, old,
      custody.count, List.countP_singleton, decide_eq_false (Nat.not_le_of_lt early)]
    rfl

/-- A deletion that does not fail leaves a session to be renewed. -/
theorem Custody.forget (custody : Custody surroundings settings caller first c) {mark : Event}
    (unbuilt : mark.built? = none) (unclosed : mark.closed? = none)
    (order : ∀ past e rest, c.events ++ [mark] = past ++ e :: rest → e.InOrder surroundings settings caller first past)
    (tends : Chronicle.Tends ⟨c.memory, c.events ++ [mark]⟩ d) (active : d.memory.session.active = true)
    (renewed : renewal? surroundings settings caller c.events mark = some d.events.length) :
    Vacating surroundings settings caller first d := by
  obtain ⟨transport, lively, more, goes, minds⟩ := tends
  have goes : d.events = c.events ++ [mark] ++ more := goes
  have ends : renewalEnds surroundings settings caller [] d.events =
      renewalEnds surroundings settings caller [] c.events ++ [d.events.length] :=
    (congrArg (renewalEnds surroundings settings caller []) goes).trans (renewalEnds_marked minds renewed)
  refine ⟨?_, ?_, ?_, ?_⟩
  · rw [goes]
    refine inOrder_append order minds fun front e back split => ?_
    refine custody.pending unbuilt unclosed (fun e member => minds e (by simp [split, member])) renewed ?_
    simp only [goes, split, List.length_append, List.length_cons]
    omega
  · rw [ends]
    refine List.forall_mem_append.mpr ⟨fun n member => Nat.le_trans (custody.finished n member) ?_, by simp⟩
    rw [goes, List.append_assoc, List.length_append]
    exact Nat.le_add_right _ _
  · have used : c.memory.session.active = true := lively.symm.trans active
    rw [goes, built_marked minds unbuilt, closed_marked minds unclosed, custody.now.accounted, used, transport]
    rfl
  · rw [ends, goes, built_marked minds unbuilt, custody.count, List.length_append, Nat.add_comm]
    rfl

/-- The old transport is closed and another one is built, and transports are in order again. -/
theorem Vacating.replace (vacating : Vacating surroundings settings caller first c)
    (active : c.memory.session.active = true) {n : Nat} {between m : State} (transport : m.transport = n)
    (session : m.session = c.memory.session) :
    Custody surroundings settings caller first
      ((((c.add (.closed c.memory.transport (.ok ()))).remember between).add (.opened (.ok n))).remember m) := by
  have goes : ((((c.add (.closed c.memory.transport (.ok ()))).remember between).add
      (.opened (.ok n))).remember m).events =
      c.events ++ [⟨c.memory, .closed c.memory.transport (.ok ())⟩] ++ [⟨between, .opened (.ok n)⟩] := rfl
  have nowBuilt : built first (c.events ++ [⟨c.memory, .closed c.memory.transport (.ok ())⟩] ++
      [⟨between, .opened (.ok n)⟩]) = built first c.events ++ [n] := by
    rw [built_append, built_append]
    exact congrArg (· ++ _) (List.append_nil _)
  have nowClosed : closed (c.events ++ [⟨c.memory, .closed c.memory.transport (.ok ())⟩] ++
      [⟨between, .opened (.ok n)⟩]) = closed c.events ++ [c.memory.transport] := by
    rw [closed_append, closed_append]
    exact List.append_nil _
  have ends : renewalEnds surroundings settings caller [] (c.events ++
      [⟨c.memory, .closed c.memory.transport (.ok ())⟩] ++ [⟨between, .opened (.ok n)⟩]) =
        renewalEnds surroundings settings caller [] c.events := by
    rw [renewalEnds_none (List.forall_mem_singleton.mpr rfl), renewalEnds_none (List.forall_mem_singleton.mpr rfl)]
  refine Custody.of_count (inOrder_quiet (inOrder_quiet vacating.order nofun nofun) nofun nofun) ?_ ?_ ?_ ?_
  · rw [goes, ends, List.append_assoc, List.length_append]
    exact fun k member => Nat.le_add_right_of_le (vacating.finished k member)
  · rw [goes, nowBuilt, nowClosed, memory_remember, session, active, transport, vacating.accounted]
    rfl
  · rw [goes, nowBuilt, memory_remember, transport]
    exact List.getLast?_concat
  · rw [goes, nowBuilt, ends, List.length_append, vacating.due, Nat.add_comm]
    rfl

private theorem custody_renewal (trades : surroundings.TradesTransports) (begins : beginsRecovery record = true) :
    Keeps (surroundings.host nested caller) (Custody surroundings settings caller first) (do
      ExceptT.mk (ask (.outside (.log record)))
      Channel.delete settings
      closeTransport
      openTransport
      Channel.create settings) := by
  intro c custody
  obtain ⟨r, d, ran⟩ : ∃ r d, exec (surroundings.host nested caller) (forgetting settings record) c = (r, d) :=
    ⟨_, _, rfl⟩
  obtain ⟨tends, lively⟩ := (leads_iff _).mp (leads_forgetting record) r d ran
  have renewal := renewal?_eq begins ran
  refine Leads.assoc (leads_bind_of_exec ran ?_ ?_)
  · rintro _ rfl
    have vacating : Vacating surroundings settings caller first d :=
      custody.forget rfl rfl (inOrder_quiet (e := ⟨c.memory, .aside (.log record)⟩) custody.order nofun nofun) tends
        (lively rfl) renewal
    refine trades.close.bind ?_ nofun
    rintro _ _ ⟨-, flags, rfl⟩
    refine trades.open.bind ?_ nofun
    rintro _ _ ⟨-, n, later, rfl⟩
    exact (tended_custody.keeps fun _ => tends_create) _ (vacating.replace (lively rfl) rfl rfl)
  · rintro _ rfl
    exact (custody.mark renewal).tends tends

private theorem custody_recreate (trades : surroundings.TradesTransports) (e : Failure) :
    Keeps (surroundings.host nested caller) (Custody surroundings settings caller first) (recreate settings e) := by
  intro c custody
  apply leads_step_bind
  exact custody_renewal trades rfl c custody

/-! ## Every run -/

private theorem custody_start : Custody surroundings settings caller first (.start first) :=
  Custody.of_count (by simp [Chronicle.start]) (by simp [Chronicle.start, renewalEnds]) rfl rfl rfl

/-- Transports are in order throughout whatever a thread does with a channel, and callbacks within. -/
private theorem custody_perform (trades : surroundings.TradesTransports) (depth : Nat) (moves : List Move) :
    Custody surroundings settings caller first (perform surroundings settings caller depth moves (.start first)) := by
  refine perform_sustains (fun nested => ?_) depth moves _ custody_start
  exact tended_custody.sustained (custody_recreate trades) (custody_destroy trades)

/-- If no transport is built twice, each one that was built was closed exactly once, but for the one in use of an active
channel, which was not closed. -/
theorem InCustody.count_closed {m : State} {past : List Event}
    (held : InCustody surroundings settings caller first m past) (distinct : (built first past).Nodup) {n : Nat}
    (member : n ∈ built first past) :
    (closed past).count n = if n = m.transport ∧ m.session.active = true then 0 else 1 := by
  rw [held.accounted] at distinct member
  have nodup : (closed past).Nodup := (List.nodup_append.mp distinct).1
  rw [nodup.count]
  cases active : m.session.active with
  | true =>
    simp only [active, if_true, and_true] at distinct member ⊢
    have unclosed : m.transport ∉ closed past := fun was =>
      (List.nodup_append.mp distinct).2.2 _ was _ (List.mem_singleton_self _) rfl
    rcases List.mem_append.mp member with was | last
    · have other : n ≠ m.transport := fun same => unclosed (same ▸ was)
      rw [if_pos was, if_neg other]
    · rw [List.mem_singleton.mp last, if_neg unclosed, if_pos rfl]
  | false =>
    simp only [active, Bool.false_eq_true, if_false, List.append_nil, and_false] at member ⊢
    rw [if_pos member]

/-- Whatever a thread does with a channel, and callbacks within, and however the service answers: whenever a request is
sent, and after every operation, transports were closed in the order in which they were built, each exactly once, and
only the one in use of an active channel is left; no request goes through one that was closed; and as many were built
as there were recoveries whose deletion did not fail, and one more. -/
theorem transports_close_once (trades : surroundings.TradesTransports) (depth : Nat) (moves : List Move) (first : Nat)
    {past rest : List Event} {e : Event}
    (happened : (perform surroundings settings caller depth moves (.start first)).events = past ++ e :: rest)
    (moment : e.happening = .ended ∨ ∃ n request answer, e.happening = .sent n request answer) :
    InCustody surroundings settings caller first e.memory past ∧
      ((built first past).Nodup → ∀ n ∈ built first past,
        (closed past).count n = if n = e.memory.transport ∧ e.memory.session.active = true then 0 else 1) ∧
      ∀ n request answer, e.happening = .sent n request answer →
        n = e.memory.transport ∧ e.memory.session.active = true ∧ ((built first past).Nodup → n ∉ closed past) := by
  have order : e.InOrder surroundings settings caller first past :=
    (custody_perform trades depth moves).order past e rest happened
  have held : InCustody surroundings settings caller first e.memory past := by
    rcases moment with ended | ⟨n, request, answer, sent⟩
    · exact order.ended ended
    · exact (order.sent n request answer sent).1
  refine ⟨held, fun distinct n => held.count_closed distinct, fun n request answer sent => ?_⟩
  obtain ⟨-, rfl, active⟩ := order.sent n request answer sent
  refine ⟨rfl, active, fun distinct => List.count_eq_zero.mp ?_⟩
  rw [held.count_closed distinct (List.mem_of_getLast? held.current), if_pos ⟨rfl, active⟩]

end

/-- A channel that loses its first consumer and is destroyed after the run has closed two transports, each once. -/
theorem lost_session_closes_two_transports :
    Surroundings.losesFirst.TradesTransports ∧ ∃ past e,
      (perform .losesFirst committing 0 2 [.run 3 (some 0) (.single "t"), .destroy 0] (.start 7)).events = past ++ [e] ∧
      e.happening = .ended ∧ InCustody .losesFirst committing 0 7 e.memory past ∧
      e.memory.session.active = false ∧ built 7 past = [7, 0] ∧ closed past = [7, 0] ∧
      (built 7 past).length = 1 + renewals .losesFirst committing 0 past := by
  have dependable : Surroundings.losesFirst.Dependable := Surroundings.scripted_dependable ..
  have trades : Surroundings.losesFirst.TradesTransports := ⟨dependable.opens, dependable.closes⟩
  let before := (perform .losesFirst committing 0 2 [.run 3 (some 0) (.single "t")] (.start 7))
  let after := (exec (Surroundings.losesFirst.hosting committing 0 1) (destroy committing 0) before).2
  have happened : (perform .losesFirst committing 0 2 [.run 3 (some 0) (.single "t"), .destroy 0] (.start 7)).events =
      after.events ++ [⟨after.memory, .ended⟩] := rfl
  obtain ⟨held, -⟩ := transports_close_once trades 2 _ 7 happened (.inl rfl)
  refine ⟨trades, after.events, _, happened, rfl, held, ?_, ?_, ?_, held.renewed⟩
  · decide +kernel
  · decide +kernel
  · decide +kernel

end ConsumerChannel.Channel
