import ConsumerChannel.Proofs.Recovery
import ConsumerChannel.Proofs.Sharing
import ConsumerChannel.Proofs.Silence

/-! Destroying a channel at rest. A deletion that fails leaves the channel active but empty, so that the next attempt
has nothing to ask for and only closes: the consumer is deleted at most once and the transport closed once, however
often and by whichever threads the channel is destroyed. -/
namespace ConsumerChannel.Channel
open Operation

/-! ## The law -/

/-- No loop runs, and nobody is destroying the channel. -/
structure State.AtRest (m : State) : Prop where
  resting : m.flags.running = false
  free : m.destroying = false

/-- What destroying a channel at rest comes to, and what is seen of it: its consumer is deleted if it holds one, and
unless that fails its transport closed. -/
inductive Shuts (settings : Settings) (m : State) :
    Except Failure Unit → Session String Value → List Event → Prop where
  | already (inactive : m.session.active = false) : Shuts settings m (.ok ()) m.session []
  | empty (active : m.session.active = true) (absent : m.session.consumer = none) :
      Shuts settings m (.ok ()) ⟨none, [], false⟩ [⟨closing, .closed m.transport (.ok ())⟩]
  | emptied (active : m.session.active = true) (held : m.session.consumer = some consumer)
      (deleted : Deleted answer) :
      Shuts settings m (.ok ()) ⟨none, [], false⟩
        [⟨deleting, .sent m.transport (.deletion settings consumer) answer⟩,
          ⟨closing, .closed m.transport (.ok ())⟩]
  | broken (active : m.session.active = true) (held : m.session.consumer = some consumer)
      (other : e.class? ≠ some .sessionLost) :
      Shuts settings m (.error (e.tag Api.delete.name)) ⟨none, [], true⟩
        [⟨deleting, .sent m.transport (.deletion settings consumer) (.error e)⟩]

/-- A transport is closed. -/
def Event.IsClosing (e : Event) : Prop := ∃ transport answer, e.happening = .closed transport answer

/-- What is seen of destroying an active channel so many times, and where it leaves the channel: the deletion of a
consumer is asked for at most once, a transport is closed at most once, and two times are enough. -/
structure Seals (settings : Settings) (times : Nat) (c : Chronicle) (signals : List Event) (last : Chronicle) :
    Prop where
  added : last.signals = c.signals ++ signals
  deletions : signals.Pairwise fun e f => ¬ (e.RequestsDeletion settings ∧ f.RequestsDeletion settings)
  closings : signals.Pairwise fun e f => ¬ (e.IsClosing ∧ f.IsClosing)
  settled : 2 ≤ times → last.memory = { c.memory with session := ⟨none, [], false⟩ } ∧
    ∃ e ∈ signals, e.happening = .closed c.memory.transport (.ok ())

/-! ## One destruction -/

section
variable {surroundings : Surroundings} {nested : List Move → Chronicle → Chronicle} {caller : Thread}
  {c later : Chronicle} {settings : Settings} {m : State} {r : Except Failure Unit}
  {session : Session String Value} {context : LogContext}

/-- Without other threads, nothing is different but the session. -/
theorem State.Becomes.memory_eq {later : State} (became : m.Becomes surroundings session m.context later)
    (calm : surroundings.Undisturbed) : later = { m with session := session } := by
  obtain ⟨guard, same, context, destroying, transport, flags⟩ := became
  show later = ⟨m.guard, session, m.flags, m.context, m.destroying, m.transport⟩
  rw [← guard, ← same, ← flags calm, ← context, ← destroying, ← transport]

/-- Without a consumer nothing is recorded. -/
private theorem eq_empty_of_proper {s : Session String Value} (proper : s.Proper) (absent : s.consumer = none) :
    s = ⟨none, [], s.active⟩ := by
  have topics := proper.founded absent
  cases s with
  | mk consumer names active =>
    cases absent
    cases topics
    rfl

/-- What deleting the consumer comes to where everything but the request goes well. -/
theorem Deletes.shuts {left : Session String Value} {signals : List Event}
    (deletes : Deletes surroundings caller settings m r left signals) (dependable : surroundings.Dependable)
    (proper : m.session.Proper) :
    (m.session.consumer = none ∧ r = .ok () ∧ left = m.session ∧ signals = []) ∨
      ∃ consumer within answer, m.session.consumer = some consumer ∧ r = deletionResult answer ∧
        left = .fresh ∧ signals = [⟨within, .sent m.transport (.deletion settings consumer) answer⟩] := by
  have held := heldConsumer?_eq_consumer proper.filled
  cases absent : m.session.consumer with
  | none =>
    rw [absent] at held
    cases deletes with
    | unheld _ => exact .inl ⟨rfl, rfl, rfl, rfl⟩
    | sent holds amid settled => cases held.symm.trans holds
  | some consumer =>
    rw [absent] at held
    obtain ⟨fresh, within, answer, result, sent⟩ := deletes.sends dependable held
    exact .inr ⟨consumer, within, answer, rfl, result, fresh, sent⟩

theorem Dissolves.shuts (dissolves : Dissolves surroundings caller settings c r later)
    (dependable : surroundings.Dependable) (calm : surroundings.Undisturbed)
    (proper : c.memory.session.Proper) (resting : c.memory.flags.running = false) :
    ∃ left signals, Shuts settings c.memory r left signals ∧
      later.memory = { c.memory with session := left } ∧ later.signals = c.signals ++ signals := by
  cases dissolves with
  | frozen inactive => exact ⟨_, _, .already inactive, rfl, (List.append_nil _).symm⟩
  | unstopped active stops => cases (stops.resting resting).1
  | undeleted active stops deletes deleted =>
    rw [(stops.resting resting).2] at deletes deleted
    rcases deletes.shuts dependable proper with ⟨-, ⟨⟩, -⟩ | ⟨consumer, within, answer, held, ill, rfl, rfl⟩
    obtain ⟨e, rfl, other, rfl⟩ := deletionResult_error ill.symm
    exact ⟨_, _, .broken active held other, deleted.state.memory_eq calm, deleted.signals⟩
  | unclosed active stops deletes deleted closed careless => exact absurd dependable careless
  | dissolved active stops deletes deleted closed frozen quiet =>
    rw [(stops.resting resting).2] at deletes deleted
    cases quiet dependable.logs
    have ended := deleted.still closed
    rw [ended.state.session, ended.state.context] at frozen
    have whole := ended.trans frozen
    have memory := whole.state.memory_eq calm
    rw [whole.signals, deleted.state.transport, List.append_nil]
    rcases deletes.shuts dependable proper with
      ⟨absent, -, rfl, rfl⟩ | ⟨consumer, within, answer, held, well, rfl, rfl⟩
    · have left : c.memory.session.deactivate = ⟨none, [], false⟩ := by
        rw [eq_empty_of_proper proper absent]
        rfl
      rw [left] at memory
      exact ⟨_, _, .empty active absent, memory, rfl⟩
    · exact ⟨_, _, .emptied active held (deletionResult_ok well.symm), memory, rfl⟩

/-- Destroying a channel at rest changes the session at most, and is seen as told. -/
theorem Destroys.shuts (destroys : Destroys surroundings caller settings c r later)
    (dependable : surroundings.Dependable) (calm : surroundings.Undisturbed)
    (proper : c.memory.session.Proper) (rest : c.memory.AtRest) :
    ∃ left signals, Shuts settings c.memory r left signals ∧
      later.memory = { c.memory with session := left } ∧ later.signals = c.signals ++ signals := by
  cases destroys with
  | contended busy => exact nomatch rest.free.symm.trans busy
  | tried free dissolves =>
    obtain ⟨left, signals, shuts, memory, added⟩ := dissolves.shuts dependable calm proper rest.resting
    refine ⟨left, signals, ?_, ?_, added⟩
    · cases shuts with
      | already inactive => exact .already inactive
      | empty active absent => exact .empty active absent
      | emptied active held deleted => exact .emptied active held deleted
      | broken active held other => exact .broken active held other
    · rw [memory_remember, memory]
      show { c.memory with session := left, destroying := false } = { c.memory with session := left }
      rw [← free]

theorem leads_destroy_at_rest (opened : c.memory.guard.OpenTo caller) (dependable : surroundings.Dependable)
    (calm : surroundings.Undisturbed) (proper : c.memory.session.Proper) (rest : c.memory.AtRest)
    (rounds : Nat) :
    Leads (surroundings.host nested caller) (destroy settings rounds) c fun r later =>
      ∃ left signals, Shuts settings c.memory r left signals ∧
        later.memory = { c.memory with session := left } ∧ later.signals = c.signals ++ signals :=
  (leads_destroy opened rounds).weaken fun _ _ destroys => destroys.shuts dependable calm proper rest

/-- Destroying an active channel without a consumer closes its transport, and that is all. -/
theorem leads_destroy_empty (opened : c.memory.guard.OpenTo caller) (dependable : surroundings.Dependable)
    (calm : surroundings.Undisturbed) (rest : c.memory.AtRest) (empty : c.memory.session = ⟨none, [], true⟩)
    (rounds : Nat) :
    Leads (surroundings.host nested caller) (destroy settings rounds) c fun r later =>
      r = .ok () ∧ later.memory = { c.memory with session := ⟨none, [], false⟩ } ∧
        ∃ closing, later.signals = c.signals ++ [⟨closing, .closed c.memory.transport (.ok ())⟩] := by
  have proper : c.memory.session.Proper := by
    rw [empty]
    exact ⟨nofun, fun _ => rfl⟩
  refine (leads_destroy_at_rest opened dependable calm proper rest rounds).weaken ?_
  rintro r later ⟨left, signals, shuts, memory, added⟩
  cases shuts with
  | already inactive =>
    rw [empty] at inactive
    cases inactive
  | empty active absent => exact ⟨rfl, memory, _, added⟩
  | emptied active held deleted =>
    rw [empty] at held
    cases held
  | broken active held other =>
    rw [empty] at held
    cases held

/-! ## Many destructions -/

/-- Threads destroy a channel one after another. -/
def destructions (calls : List (Thread × Nat)) : List (Thread × Move) :=
  calls.map fun call => (call.1, .destroy call.2)

private theorem not_requestsDeletion_of_closed {within : State} {n : Nat} {answer : Except Failure Unit} :
    ¬ Event.RequestsDeletion settings ⟨within, .closed n answer⟩ := by
  rintro ⟨id, reply, k, same⟩
  cases same

private theorem not_isClosing_of_sent {within : State} {n : Nat} {request : Request}
    {answer : Except Failure (Option String)} : ¬ Event.IsClosing ⟨within, .sent n request answer⟩ := by
  rintro ⟨k, reply, same⟩
  cases same

/-- Nobody destroys the channel. -/
theorem Seals.nothing {last : Chronicle} (none : c = last) : Seals settings 0 c [] last where
  added := by rw [none, List.append_nil]
  deletions := .nil
  closings := .nil
  settled := nofun

/-- The transport is closed, after a deletion if there was something to delete. -/
theorem Seals.closed {times : Nat} {last : Chronicle} (before : List Event) {closing : State}
    (added : last.signals = c.signals ++ (before ++ [⟨closing, .closed c.memory.transport (.ok ())⟩]))
    (alone : before = [] ∨ ∃ within n request answer, before = [⟨within, .sent n request answer⟩])
    (left : last.memory = { c.memory with session := ⟨none, [], false⟩ }) :
    Seals settings times c (before ++ [⟨closing, .closed c.memory.transport (.ok ())⟩]) last where
  added := added
  deletions := by
    rcases alone with rfl | ⟨within, n, request, answer, rfl⟩
    · exact List.pairwise_singleton ..
    · exact List.pairwise_pair.mpr fun both => not_requestsDeletion_of_closed both.2
  closings := by
    rcases alone with rfl | ⟨within, n, request, answer, rfl⟩
    · exact List.pairwise_singleton ..
    · exact List.pairwise_pair.mpr fun both => not_isClosing_of_sent both.1
  settled _ := ⟨left, _, List.mem_append_right _ (.head _), rfl⟩

section
variable (surroundings settings) (depth : Nat) (calls : List (Thread × Nat))

/-- The first destruction, and then the others. -/
theorem inTurn_destructions_cons {call : Thread × Nat}
    {post : Except Failure Unit → Chronicle → Prop}
    (led : Leads (surroundings.hosting settings call.1 depth) (destroy settings call.2) c post) :
    ∃ r d, post r d ∧ (inTurn surroundings settings depth (destructions (call :: calls)) c).2 =
      (inTurn surroundings settings depth (destructions calls) d).2 := ⟨_, _, led, rfl⟩

/-- Nothing comes of destroying a channel again that is destroyed. -/
theorem inTurn_destructions_inactive (inactive : c.memory.session.active = false) (rest : c.memory.AtRest)
    (opened : ∀ call ∈ calls, c.memory.guard.OpenTo call.1) :
    (inTurn surroundings settings depth (destructions calls) c).2 = c := by
  rw [inTurn_inactive inactive rest.resting rest.free (destructions calls) (List.forall_mem_map.mpr opened)]

/-- Destroying an active channel without a consumer, however often, comes to one closed transport. -/
private theorem inTurn_destructions_empty (dependable : surroundings.Dependable) (calm : surroundings.Undisturbed)
    (rest : c.memory.AtRest) (empty : c.memory.session = ⟨none, [], true⟩)
    (opened : ∀ call ∈ calls, c.memory.guard.OpenTo call.1) :
    calls = [] ∧ (inTurn surroundings settings depth (destructions calls) c).2 = c ∨
      (inTurn surroundings settings depth (destructions calls) c).2.memory =
          { c.memory with session := ⟨none, [], false⟩ } ∧
        ∃ closing, (inTurn surroundings settings depth (destructions calls) c).2.signals =
          c.signals ++ [⟨closing, .closed c.memory.transport (.ok ())⟩] := by
  cases calls with
  | nil => exact .inl ⟨rfl, rfl⟩
  | cons call calls =>
    obtain ⟨first, others⟩ := List.forall_mem_cons.mp opened
    obtain ⟨r, d, ⟨-, memory, closing, added⟩, same⟩ := inTurn_destructions_cons surroundings settings depth
      calls (leads_destroy_empty first dependable calm rest empty call.2)
    have resting : d.memory.AtRest := ⟨by rw [memory, rest.resting], by rw [memory, rest.free]⟩
    rw [same, inTurn_destructions_inactive surroundings settings depth calls (by rw [memory]) resting
      (by rwa [memory])]
    exact .inr ⟨memory, closing, added⟩

/-- However often an active channel at rest is destroyed, its consumer is deleted at most once and its transport
closed at most once. -/
private theorem seals_destructions (dependable : surroundings.Dependable) (calm : surroundings.Undisturbed)
    (proper : c.memory.session.Proper) (rest : c.memory.AtRest) (active : c.memory.session.active = true)
    (opened : ∀ call ∈ calls, c.memory.guard.OpenTo call.1) :
    ∃ signals, Seals settings calls.length c signals
      (inTurn surroundings settings depth (destructions calls) c).2 := by
  cases calls with
  | nil => exact ⟨_, .nothing rfl⟩
  | cons call calls =>
    obtain ⟨first, others⟩ := List.forall_mem_cons.mp opened
    obtain ⟨r, d, ⟨left, signals, shuts, memory, added⟩, same⟩ :=
      inTurn_destructions_cons surroundings settings depth calls
        (leads_destroy_at_rest first dependable calm proper rest call.2)
    have resting : d.memory.AtRest := ⟨by rw [memory, rest.resting], by rw [memory, rest.free]⟩
    have onward : ∀ call ∈ calls, d.memory.guard.OpenTo call.1 := by rwa [memory]
    have ended (inactive : left.active = false) :
        (inTurn surroundings settings depth (destructions calls) d).2 = d :=
      inTurn_destructions_inactive surroundings settings depth calls (by rw [memory, inactive]) resting onward
    rw [same]
    cases shuts with
    | already inactive => exact nomatch active.symm.trans inactive
    | empty active absent =>
      rw [ended rfl]
      exact ⟨_, .closed [] added (.inl rfl) memory⟩
    | @emptied consumer answer deleting closing active held deleted =>
      rw [ended rfl]
      exact ⟨_, .closed [_] added (.inr ⟨_, _, _, _, rfl⟩) memory⟩
    | @broken consumer e deleting active held other =>
      rcases inTurn_destructions_empty surroundings settings depth calls dependable calm resting
        (by rw [memory]) onward with ⟨rfl, still⟩ | ⟨left, closing, more⟩
      · rw [still]
        exact ⟨_, {
          added := added
          deletions := List.pairwise_singleton ..
          closings := List.pairwise_singleton ..
          settled := nofun }⟩
      · rw [memory] at left more
        rw [added, List.append_assoc] at more
        exact ⟨_, .closed [_] more (.inr ⟨_, _, _, _, rfl⟩) left⟩

end

end

/-- Whoever destroys a channel at rest, in whichever state threads have brought it, deletes its consumer if it holds
one and closes its transport unless the deletion fails. A failed deletion leaves the channel active but empty, so
that destroying it again, by any thread, only closes the transport. However often an active channel is destroyed,
its consumer is deleted at most once and its transport closed at most once, and two times are enough. Closing a
channel is destroying it. -/
theorem destruction_resumes {surroundings : Surroundings} {settings : Settings} {caller : Thread}
    {c : Chronicle} (attained : c.memory.Attained settings caller) (rest : c.memory.AtRest)
    (opened : c.memory.guard.OpenTo caller) (dependable : surroundings.Dependable)
    (calm : surroundings.Undisturbed) (depth : Nat) :
    (∀ rounds r later,
      exec (surroundings.hosting settings caller depth) (destroy settings rounds) c = (r, later) →
      (∃ left signals, Shuts settings c.memory r left signals ∧
        later.memory = { c.memory with session := left } ∧ later.signals = c.signals ++ signals) ∧
      ∀ e, r = .error e → ∀ next again, later.memory.guard.OpenTo next → ∃ closing last,
        exec (surroundings.hosting settings next depth) (destroy settings again) later = (.ok (), last) ∧
        last.memory = { c.memory with session := ⟨none, [], false⟩ } ∧
        last.signals = later.signals ++ [⟨closing, .closed c.memory.transport (.ok ())⟩]) ∧
    (c.memory.session.active = true → ∀ calls : List (Thread × Nat),
      (∀ call ∈ calls, c.memory.guard.OpenTo call.1) →
      ∃ signals, Seals settings calls.length c signals
        (inTurn surroundings settings depth (destructions calls) c).2) := by
  have proper := attained.proper
  refine ⟨?_, fun active calls each =>
    seals_destructions surroundings settings depth calls dependable calm proper rest active each⟩
  intro rounds r later ran
  obtain ⟨left, signals, shuts, memory, added⟩ :=
    (leads_iff _).mp (leads_destroy_at_rest opened dependable calm proper rest rounds) r later ran
  refine ⟨⟨left, signals, shuts, memory, added⟩, ?_⟩
  rintro e rfl next again open'
  cases shuts with
  | broken active held other =>
    have resting : later.memory.AtRest := ⟨by rw [memory, rest.resting], by rw [memory, rest.free]⟩
    have empties : Leads (surroundings.hosting settings next depth) (destroy settings again) later
        fun r last => r = .ok () ∧ last.memory = { c.memory with session := ⟨none, [], false⟩ } ∧
          ∃ closing, last.signals = later.signals ++ [⟨closing, .closed c.memory.transport (.ok ())⟩] := by
      refine (leads_destroy_empty open' dependable calm resting (by rw [memory]) again).weaken ?_
      rintro r last ⟨well, left, more⟩
      rw [memory] at left more
      exact ⟨well, left, more⟩
    obtain ⟨well, left, closing, more⟩ := empties
    exact ⟨closing, _, Prod.ext well rfl, left, more⟩

/-! ## A deletion that fails -/

/-- Threads that create a consumer on a new channel. -/
def founders : Crowd Shared where
  memory := ⟨State.initial, fun _ => .empty⟩
  programs _ := client committing [.create]

/-- The channel as one of them has it once it has created its consumer. -/
def founded : Chronicle := ⟨(drive obliging [(0, 30)] founders).2.memory.seenBy 0, []⟩

theorem founded_attained : founded.memory.Attained committing 0 :=
  ⟨founders, _, _, ⟨⟨.empty, 0, rfl⟩, fun _ => ⟨[.create], rfl⟩⟩, runs_drive obliging [(0, 30)] founders, rfl⟩

/-- A service that has trouble with the first request, and obeys the others. -/
def Surroundings.troubledOnce : Surroundings :=
  .scripted [.error (.transient "trouble" none)] [] (.ok .null)

/-- A consumer was created and its deletion fails, and then another thread destroys the channel. -/
theorem troubled_destruction_resumes :
    founded.memory.Attained committing 0 ∧ founded.memory.AtRest ∧ founded.memory.guard.OpenTo 0 ∧
      Surroundings.troubledOnce.Dependable ∧ Surroundings.troubledOnce.Undisturbed ∧
      founded.memory.session = ⟨some "c", [], true⟩ ∧ ∃ e later closing last,
        exec (Surroundings.troubledOnce.hosting committing 0 1) (destroy committing 0) founded =
          (.error e, later) ∧
        exec (Surroundings.troubledOnce.hosting committing 5 1) (destroy committing 0) later = (.ok (), last) ∧
        last.memory = { founded.memory with session := ⟨none, [], false⟩ } ∧
        last.signals = later.signals ++ [⟨closing, .closed founded.memory.transport (.ok ())⟩] := by
  have session : founded.memory.session = ⟨some "c", [], true⟩ :=
    Session.eq_of_topicless (by decide +kernel) (by decide +kernel) (by decide +kernel)
  have rest : founded.memory.AtRest := ⟨by decide +kernel, by decide +kernel⟩
  have unclaimed : founded.memory.guard = .free := by decide +kernel
  have dependable : Surroundings.troubledOnce.Dependable := Surroundings.scripted_dependable ..
  have calm : Surroundings.troubledOnce.Undisturbed := fun _ _ _ => rfl
  have fails : (exec (Surroundings.troubledOnce.hosting committing 0 1) (destroy committing 0) founded).1.isOk =
      false := by decide +kernel
  obtain ⟨once, -⟩ := destruction_resumes founded_attained rest (.inl unclaimed) dependable calm 1
  cases ran : exec (Surroundings.troubledOnce.hosting committing 0 1) (destroy committing 0) founded with
  | mk r later =>
    rw [ran] at fails
    obtain ⟨⟨left, signals, shuts, memory, -⟩, again⟩ := once 0 r later ran
    cases r with
    | ok _ => cases fails
    | error e =>
      obtain ⟨closing, last, resumed⟩ := again e rfl 5 0 (.inl (by rw [memory, unclaimed]))
      exact ⟨founded_attained, rest, .inl unclaimed, dependable, calm, session, e, later, closing, last, rfl,
        resumed⟩

end ConsumerChannel.Channel
