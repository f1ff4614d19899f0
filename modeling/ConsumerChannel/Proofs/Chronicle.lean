import ConsumerChannel.Channel.Shutdown
import ConsumerChannel.Proofs.Execution

/-! A channel among surroundings that decide everything it does not: how the service answers, what
callbacks do with the channel before they come back, and what other threads make of the flags of the
loop in the meantime. A chronicle keeps what happened, each event with the memory of that moment. -/
namespace ConsumerChannel.Channel
open Operation

/-- A public operation of a channel with its arguments. -/
inductive Move where
  | create
  | subscribe (topics : Topics)
  | subscriptions
  | delete
  | consume (timeout : Value)
  | commit
  | run (rounds : Nat) (callback : Option CallbackId) (topics : Topics)
  | stop (rounds : Nat)
  | destroy (rounds : Nat)

/-- The operation of a move, without its result. -/
def Move.operation (settings : Settings) : Move → Operation Unit
  | create => Channel.create settings
  | subscribe topics => Channel.subscribe settings topics
  | subscriptions => do let _ ← Channel.subscriptions settings
  | delete => Channel.delete settings
  | consume timeout => do let _ ← Channel.consume settings timeout
  | commit => Channel.commit settings
  | run rounds callback topics => Channel.run settings rounds callback topics
  | stop rounds => Channel.stop settings rounds
  | destroy rounds => Channel.destroy settings rounds

/-- What happens around a channel. -/
inductive Happening where
  /-- A request went through the transport of a number and was answered. -/
  | sent (transport : Nat) (request : Request) (answer : Except Failure (Option String))
  /-- A transport was asked for. -/
  | opened (answer : Except Failure Nat)
  /-- A transport was closed. -/
  | closed (transport : Nat) (answer : Except Failure Unit)
  /-- A callback was handed a batch and the consumer it came from. -/
  | called (id : CallbackId) (batch : Batch) (consumer : Option String)
  /-- The callback came back. -/
  | returned (answer : Except Failure Value)
  /-- A public operation came to its end. -/
  | ended
  /-- A call that neither the service nor a callback sees. -/
  | aside (call : Outside)

/-- What happened, and the memory of the channel at that moment. -/
structure Event where
  memory : State
  happening : Happening

/-- Whether the service or a callback sees an event, or an operation ends with it. -/
def Event.isSignal (e : Event) : Bool :=
  match e.happening with
  | .aside _ => false
  | _ => true

/-- An event is a request and its answer. -/
def Event.Sends (e : Event) (request : Request) (answer : Except Failure (Option String)) : Prop :=
  ∃ n, e.happening = .sent n request answer

theorem Event.Sends.request {n : Nat} {request other : Request}
    {answer another : Except Failure (Option String)} {within : State}
    (sends : Event.Sends ⟨within, .sent n request answer⟩ other another) :
    other = request ∧ another = answer := by
  obtain ⟨_, same⟩ := sends
  cases same
  exact ⟨rfl, rfl⟩

/-- A channel's memory and everything that has happened around it, in order. -/
structure Chronicle where
  memory : State
  events : List Event

namespace Chronicle

/-- The chronicle of a new channel. -/
def start (transport : Nat) : Chronicle := ⟨{ State.initial with transport := transport }, []⟩

/-- The events without those that neither the service nor a callback sees. -/
def signals (c : Chronicle) : List Event := c.events.filter Event.isSignal

/-- The chronicle with something that happened just now. -/
def add (c : Chronicle) (h : Happening) : Chronicle := { c with events := c.events ++ [⟨c.memory, h⟩] }

/-- The chronicle with another memory. -/
def remember (memory : State) (c : Chronicle) : Chronicle := { c with memory := memory }

/-- The chronicle with other flags. -/
def flagged (c : Chronicle) (flags : RunFlags) : Chronicle :=
  { c with memory := { c.memory with flags := flags } }

end Chronicle

/-- What an answered call is as something that happened. -/
def Outside.happening : (call : Outside) → call.Reply → Happening
  | .send transport request, answer => .sent transport request answer
  | .openTransport, answer => .opened answer
  | .closeTransport transport, answer => .closed transport answer
  | .callback _ _ _, answer => .returned answer
  | call, _ => .aside call

/-- Everything that decides how a channel fares. Each choice may depend on all that came before. -/
structure Surroundings where
  /-- The answer to a call. -/
  reply : List Event → (call : Outside) → call.Reply
  /-- What other threads make of the flags of the loop while a call is under way. -/
  meanwhile : List Event → Outside → RunFlags → RunFlags
  /-- What a callback that has been called does with the channel before it comes back. -/
  moves : List Event → List Move

namespace Surroundings
variable (surroundings : Surroundings) (nested : List Move → Chronicle → Chronicle)

/-- What becomes of a chronicle while a call is under way: a callback makes its moves. -/
def during : Outside → Chronicle → Chronicle
  | .callback id batch consumer, c =>
    let called := c.add (.called id batch consumer)
    nested (surroundings.moves called.events) called
  | _, c => c

/-- Answers a call and notes it. -/
def outside (call : Outside) (c : Chronicle) : call.Reply × Chronicle :=
  let late := surroundings.during nested call c
  let reply := surroundings.reply late.events call
  (reply, (late.add (call.happening reply)).flagged
    (surroundings.meanwhile late.events call late.memory.flags))

/-- The host of the operations that a thread runs. -/
def host (caller : Thread) : (q : Query) → Chronicle → q.Answer × Chronicle :=
  answering caller Chronicle.memory Chronicle.remember (surroundings.outside nested)

end Surroundings

/-- Makes moves in turn as one thread; moves of callbacks are made within, to a depth. -/
def perform (surroundings : Surroundings) (settings : Settings) (caller : Thread) :
    (depth : Nat) → List Move → Chronicle → Chronicle
  | 0, _, c => c
  | depth + 1, moves, c =>
    moves.foldl (fun c move =>
      (exec (surroundings.host (perform surroundings settings caller depth) caller)
        (move.operation settings) c).2.add .ended) c

/-- The host of the operations that a thread runs, with moves of callbacks made within to a depth. -/
abbrev Surroundings.hosting (surroundings : Surroundings) (settings : Settings) (caller : Thread)
    (depth : Nat) : (q : Query) → Chronicle → q.Answer × Chronicle :=
  surroundings.host (perform surroundings settings caller depth) caller

/-- The chronicles that one thread can bring about with a channel, whatever surrounds it. -/
def Reachable (settings : Settings) (caller : Thread) (c : Chronicle) : Prop :=
  ∃ surroundings depth moves transport,
    c = perform surroundings settings caller depth moves (.start transport)

/-! ## Signals -/

section
variable {c : Chronicle} {memory : State} {flags : RunFlags}

@[simp] theorem signals_remember : (c.remember memory).signals = c.signals := rfl
@[simp] theorem signals_flagged : (c.flagged flags).signals = c.signals := rfl
@[simp] theorem remember_remember {other : State} :
    (c.remember other).remember memory = c.remember memory := rfl
@[simp] theorem memory_remember : (c.remember memory).memory = memory := rfl
@[simp] theorem memory_flagged : (c.flagged flags).memory = { c.memory with flags := flags } := rfl
@[simp] theorem memory_add (h : Happening) : (c.add h).memory = c.memory := rfl

theorem signals_add (h : Happening) :
    (c.add h).signals = c.signals ++ [⟨c.memory, h⟩].filter Event.isSignal :=
  List.filter_append ..

end

/-- An event of two stretches is in the first or in the second. -/
theorem split_append {first second past future : List α} {e : α}
    (same : first ++ second = past ++ e :: future) :
    (∃ rest, first = past ++ e :: rest ∧ future = rest ++ second) ∨
      ∃ rest, past = first ++ rest ∧ second = rest ++ e :: future := by
  rcases List.append_eq_append_iff.mp same with ⟨rest, before, after⟩ | ⟨rest, before, after⟩
  · exact .inr ⟨rest, before, after⟩
  · cases rest with
    | nil => exact .inr ⟨[], by simpa using before.symm, after.symm⟩
    | cons head rest =>
      obtain ⟨rfl, rfl⟩ := List.cons.inj after
      exact .inl ⟨rest, before, rfl⟩

/-! ## What surroundings promise -/

namespace Surroundings
variable (surroundings : Surroundings)

/-- No other thread touches the flags of the loop. -/
def Undisturbed : Prop := ∀ events call flags, surroundings.meanwhile events call flags = flags

/-- Logging a record never fails. -/
def LogsQuietly : Prop := ∀ events record, surroundings.reply events (.log record) = .ok ()

/-- Everything but requests and callbacks succeeds. -/
structure Dependable : Prop where
  logs : surroundings.LogsQuietly
  cookies : ∀ events n, surroundings.reply events (.resetCookies n) = .ok ()
  authorization : ∀ events n, surroundings.reply events (.resetAuthorization n) = .ok ()
  closes : ∀ events n, surroundings.reply events (.closeTransport n) = .ok ()
  opens : ∀ events, ∃ n, surroundings.reply events .openTransport = .ok n

end Surroundings

/-! ## How a chronicle goes on -/

/-- A memory turns into another that differs in session and context; the flags may have been touched by
other threads. -/
structure State.Becomes (surroundings : Surroundings) (m : State) (session : Session String Value)
    (context : LogContext) (later : State) : Prop where
  guard : later.guard = m.guard
  session : later.session = session
  context : later.context = context
  destroying : later.destroying = m.destroying
  transport : later.transport = m.transport
  flags : surroundings.Undisturbed → later.flags = m.flags

/-- A chronicle goes on with signals and comes to another session and another context. -/
structure Chronicle.Becomes (surroundings : Surroundings) (c : Chronicle)
    (session : Session String Value) (context : LogContext) (signals : List Event) (later : Chronicle) :
    Prop where
  state : c.memory.Becomes surroundings session context later.memory
  signals : later.signals = c.signals ++ signals

section
variable {surroundings : Surroundings} {nested : List Move → Chronicle → Chronicle} {caller : Thread}
  {c later last : Chronicle} {m n : State} {session next : Session String Value}
  {context changed : LogContext} {signals more : List Event}

theorem State.Becomes.refl : m.Becomes surroundings m.session m.context m :=
  ⟨rfl, rfl, rfl, rfl, rfl, fun _ => rfl⟩

theorem State.Becomes.trans {k : State} (first : m.Becomes surroundings session context n)
    (second : n.Becomes surroundings next changed k) : m.Becomes surroundings next changed k where
  guard := second.guard.trans first.guard
  session := second.session
  context := second.context
  destroying := second.destroying.trans first.destroying
  transport := second.transport.trans first.transport
  flags calm := (second.flags calm).trans (first.flags calm)

theorem Chronicle.Becomes.refl :
    c.Becomes surroundings c.memory.session c.memory.context [] c := ⟨.refl, by simp⟩

theorem Chronicle.Becomes.trans (first : c.Becomes surroundings session context signals later)
    (second : later.Becomes surroundings next changed more last) :
    c.Becomes surroundings next changed (signals ++ more) last :=
  ⟨first.state.trans second.state, by rw [second.signals, first.signals, List.append_assoc]⟩

/-- Going on without another change of session and context. -/
theorem Chronicle.Becomes.still (first : c.Becomes surroundings session context signals later)
    (second : later.Becomes surroundings later.memory.session later.memory.context more last) :
    c.Becomes surroundings session context (signals ++ more) last := by
  rw [first.state.session, first.state.context] at second
  exact first.trans second

/-- Going on without a signal. -/
theorem Chronicle.Becomes.silently (first : c.Becomes surroundings session context signals later)
    (second : later.Becomes surroundings later.memory.session later.memory.context [] last) :
    c.Becomes surroundings session context signals last := by
  simpa using first.still second

/-- A chronicle goes on with signals of one kind. -/
def Chronicle.Adds (kind : Event → Prop) (c later : Chronicle) : Prop :=
  ∃ more, later.signals = c.signals ++ more ∧ ∀ e ∈ more, kind e

variable {kind : Event → Prop}

theorem Chronicle.Adds.none (same : later.signals = c.signals) : c.Adds kind later :=
  ⟨[], by rw [same, List.append_nil], List.forall_mem_nil _⟩

theorem Chronicle.Adds.one {e : Event} (added : later.signals = c.signals ++ [e]) (holds : kind e) :
    c.Adds kind later := ⟨[e], added, List.forall_mem_singleton.mpr holds⟩

theorem Chronicle.Adds.trans (first : c.Adds kind later) (second : later.Adds kind last) :
    c.Adds kind last := by
  obtain ⟨signals, added, all⟩ := first
  obtain ⟨more, goes, rest⟩ := second
  refine ⟨signals ++ more, by rw [goes, added, List.append_assoc], ?_⟩
  intro e member
  rcases List.mem_append.mp member with old | new
  · exact all e old
  · exact rest e new

theorem Chronicle.Adds.weaken {weaker : Event → Prop} (adds : c.Adds kind later)
    (weaken : ∀ e, kind e → weaker e) : c.Adds weaker later := by
  obtain ⟨more, added, all⟩ := adds
  exact ⟨more, added, fun e member => weaken e (all e member)⟩

theorem Chronicle.Becomes.adds (became : c.Becomes surroundings session context signals later)
    (all : ∀ e ∈ signals, kind e) : c.Adds kind later := ⟨signals, became.signals, all⟩

/-! ## Steps and calls on the host -/

@[simp] theorem exec_step (s : Step) :
    exec (surroundings.host nested caller) (step s) c =
      (.ok (s.apply caller c.memory).1, c.remember (s.apply caller c.memory).2) := rfl

theorem exec_session_bind {next : Session String Value → Operation α} :
    exec (surroundings.host nested caller) (Operation.session >>= next) c =
      exec (surroundings.host nested caller) (next c.memory.session) c :=
  exec_bind_ok rfl

theorem exec_flags_bind {next : RunFlags → Operation α} :
    exec (surroundings.host nested caller) (flags >>= next) c =
      exec (surroundings.host nested caller) (next c.memory.flags) c :=
  exec_bind_ok rfl

theorem leads_step_bind {s : Step} {f : s.Reply → Operation α} {post : Except Failure α → Chronicle → Prop}
    (led : Leads (surroundings.host nested caller) (f (s.apply caller c.memory).1)
      (c.remember (s.apply caller c.memory).2) post) :
    Leads (surroundings.host nested caller) (step s >>= f) c post := by
  unfold Leads at led ⊢
  rwa [exec_bind, exec_step]

/-- A call leaves the memory as it is, but for the flags. -/
theorem outside_becomes (surroundings : Surroundings) (nested : List Move → Chronicle → Chronicle)
    (c : Chronicle) (call : Outside) (quick : ∀ id batch consumer, call ≠ .callback id batch consumer) :
    c.Becomes surroundings c.memory.session c.memory.context
      ([⟨c.memory, call.happening (surroundings.outside nested call c).1⟩].filter Event.isSignal)
      (surroundings.outside nested call c).2 := by
  have still : surroundings.during nested call c = c := by
    cases call <;> first | rfl | exact absurd rfl (quick _ _ _)
  unfold Surroundings.outside
  rw [still]
  exact ⟨⟨rfl, rfl, rfl, rfl, rfl, fun calm => calm _ _ _⟩, signals_add _⟩

theorem leads_changeContext (change : LogContext.Change) :
    Leads (surroundings.host nested caller) (changeContext change) c fun r later =>
      r = .ok () ∧ c.Becomes surroundings c.memory.session (c.memory.context.apply change) [] later :=
  ⟨rfl, ⟨rfl, rfl, rfl, rfl, rfl, fun _ => rfl⟩, (List.append_nil _).symm⟩

/-- A record that is logged is no signal. -/
theorem leads_log (level : Level) (message : String) (extras : List (String × Value)) :
    Leads (surroundings.host nested caller) (log level message extras) c fun r later =>
      (surroundings.LogsQuietly → r = .ok ()) ∧
        c.Becomes surroundings c.memory.session c.memory.context [] later :=
  ⟨fun quiet => quiet _ _, outside_becomes _ nested c
    (.log (.event "streaming_client.channel" level message extras)) (by simp)⟩

/-- A request goes through the transport in use. -/
theorem leads_send (request : Request) :
    Leads (surroundings.host nested caller) (send request) c fun r later =>
      c.Becomes surroundings c.memory.session c.memory.context
        [⟨c.memory, .sent c.memory.transport request r⟩] later :=
  outside_becomes _ nested c (.send c.memory.transport request) (by simp)

theorem leads_closeTransport :
    Leads (surroundings.host nested caller) closeTransport c fun r later =>
      (surroundings.Dependable → r = .ok ()) ∧
        c.Becomes surroundings c.memory.session c.memory.context
          [⟨c.memory, .closed c.memory.transport r⟩] later :=
  ⟨fun dependable => dependable.closes _ _,
    outside_becomes _ nested c (.closeTransport c.memory.transport) (by simp)⟩

/-- A transport that was built is taken into use. -/
theorem leads_openTransport :
    Leads (surroundings.host nested caller) openTransport c fun r later =>
      ∃ answer opened, c.Becomes surroundings c.memory.session c.memory.context
          [⟨c.memory, .opened answer⟩] opened ∧
        (surroundings.Dependable → ∃ n, answer = .ok n) ∧
        match answer with
        | .ok n => r = .ok () ∧ later = opened.remember { opened.memory with transport := n }
        | .error e => r = .error e ∧ later = opened := by
  unfold openTransport
  have called : Leads (surroundings.host nested caller)
      (ExceptT.mk (ask (.outside .openTransport)) : Operation Nat) c fun r t =>
        c.Becomes surroundings c.memory.session c.memory.context [⟨c.memory, .opened r⟩] t ∧
          (surroundings.Dependable → ∃ n, r = .ok n) :=
    ⟨outside_becomes _ nested c .openTransport (by simp), fun dependable => dependable.opens _⟩
  refine called.bind ?_ ?_
  · rintro n t ⟨opened, built⟩
    exact ⟨.ok n, t, opened, built, rfl, rfl⟩
  · rintro e t ⟨opened, built⟩
    exact ⟨.error e, t, opened, built, rfl, rfl⟩

/-- An active channel forgets its consumer, and its transport what it remembers. -/
theorem leads_reset (active : c.memory.session.active = true) (api : Api) :
    Leads (surroundings.host nested caller) (reset api) c fun r later =>
      (surroundings.Dependable → r = .ok ()) ∧
        c.Becomes surroundings .fresh c.memory.context [] later := by
  have forgotten : Leads (surroundings.host nested caller)
      (ExceptT.mk (ask (.step (.resetSession (some api.name)))) : Operation Unit) c fun r t =>
        r = .ok () ∧ c.Becomes surroundings .fresh c.memory.context [] t := by
    have taken : Step.apply caller (.resetSession (some api.name)) c.memory =
        (.ok (), { c.memory with session := .fresh }) := by
      simp only [Step.apply, Session.reset, Session.change, active, ↓reduceIte, Step.attempt]
      rfl
    show (Step.apply caller (.resetSession (some api.name)) c.memory).1 = .ok () ∧
      c.Becomes surroundings .fresh c.memory.context []
        (c.remember (Step.apply caller (.resetSession (some api.name)) c.memory).2)
    rw [taken]
    exact ⟨rfl, ⟨rfl, rfl, rfl, rfl, rfl, fun _ => rfl⟩, by simp⟩
  have cookies (n : Nat) (d : Chronicle) : Leads (surroundings.host nested caller)
      (ExceptT.mk (ask (.outside (.resetCookies n))) : Operation Unit) d fun r t =>
        (surroundings.Dependable → r = .ok ()) ∧
          d.Becomes surroundings d.memory.session d.memory.context [] t :=
    ⟨fun dependable => dependable.cookies _ _, outside_becomes _ nested d (.resetCookies n) (by simp)⟩
  have authorization (n : Nat) (d : Chronicle) : Leads (surroundings.host nested caller)
      (ExceptT.mk (ask (.outside (.resetAuthorization n))) : Operation Unit) d fun r t =>
        (surroundings.Dependable → r = .ok ()) ∧
          d.Becomes surroundings d.memory.session d.memory.context [] t :=
    ⟨fun dependable => dependable.authorization _ _,
      outside_becomes _ nested d (.resetAuthorization n) (by simp)⟩
  refine forgotten.bind ?_ (by simp)
  rintro - t ⟨-, first⟩
  apply leads_step_bind
  refine (cookies _ _).bind ?_ ?_
  · rintro - d ⟨-, second⟩
    refine (authorization _ _).weaken ?_
    rintro r e ⟨granted, third⟩
    exact ⟨granted, (first.still second).still third⟩
  · rintro e d ⟨granted, second⟩
    exact ⟨granted, first.still second⟩

end

end ConsumerChannel.Channel
