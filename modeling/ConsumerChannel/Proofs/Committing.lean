import ConsumerChannel.Proofs.Conduct
import ConsumerChannel.Proofs.Delivery
import ConsumerChannel.Proofs.Telling

/-! Who commits what was consumed. Every request goes by the settings: a consumer is made with the body that they
make, and commits are asked for only if they are left to the channel. Then each commit asks once, and so does each
cycle of a loop whose callback comes back well and has done nothing. -/
namespace ConsumerChannel.Channel
open Operation

/-! ## The law -/

section
variable (settings : Settings)

/-- A request that goes by the settings. -/
inductive Request.ByRule : Request → Prop where
  | creation {text : String} (written : creationBody settings = .ok text) : ByRule (.creation settings text)
  | subscription (consumer : String) (topics : List String) : ByRule (.subscription settings consumer topics)
  | inquiry (consumer : String) : ByRule (.inquiry settings consumer)
  | pull (consumer : String) (timeout : Value) : ByRule (.pull settings consumer timeout)
  | offsets (manual : settings.autoCommits = false) (consumer : String) : ByRule (.offsets settings consumer)
  | deletion (consumer : String) : ByRule (.deletion settings consumer)

/-- An event whose request, if it is one, goes by the settings. -/
def Event.ByRule (e : Event) : Prop := ∀ request answer, e.Sends request answer → request.ByRule settings

/-- An event is the call of a callback or its return. -/
def Event.OfCallback (e : Event) : Prop :=
  match e.happening with
  | .called _ _ _ | .returned _ => True
  | _ => False

/-- What is seen of a cycle whose callback comes back well and does nothing in between: one commit, right after the
callback and of the consumer that it was told. -/
def CommitsOnce (signals : List Event) : Prop :=
  ∀ front m id batch consumer n wish back,
    signals = front ++ ⟨m, .called id batch consumer⟩ :: ⟨n, .returned (.ok wish)⟩ :: back →
    (∀ e ∈ front ++ back, ¬ e.OfCallback) →
      ∃ commit rest name answer, back = commit :: rest ∧ consumer = some name ∧
        commit.Sends (.offsets settings name) answer ∧ ∀ e ∈ front ++ rest, ¬ e.IsCommit settings

/-- Cycles of a loop, one after another, and what is seen of each keeps a law. -/
inductive Cycled (surroundings : Surroundings) (caller : Thread) (depth : Nat) (callback : Option CallbackId)
    (law : List Event → Prop) : Chronicle → Chronicle → Prop where
  | still : Cycled surroundings caller depth callback law c c
  | cycle {id : CallbackId} {topics : List Value} {subscribed : Bool} {r : Except Failure LoopState}
      (given : callback = some id)
      (ran : exec (surroundings.hosting settings caller depth) (cycle settings id topics subscribed) c = (r, d))
      (added : d.signals = c.signals ++ more) (kept : law more)
      (onward : Cycled surroundings caller depth callback law d later) :
      Cycled surroundings caller depth callback law c later

end

/-! ## Requests -/

section
variable {surroundings : Surroundings} {caller : Thread} {settings : Settings} {m left : State}
  {session : Session String Value} {signals : List Event} {body consumer : String}

namespace Request.ByRule

theorem written (rule : (Request.creation settings body).ByRule settings) : creationBody settings = .ok body := by
  generalize same : Request.creation settings body = request at rule
  cases rule with
  | creation written =>
    cases Option.some.inj (congrArg Request.body same)
    exact written
  | _ => exact nomatch congrArg Request.table same

theorem manual (rule : (Request.offsets settings consumer).ByRule settings) : settings.autoCommits = false := by
  generalize same : Request.offsets settings consumer = request at rule
  cases rule with
  | offsets manual => exact manual
  | creation | subscription => exact nomatch congrArg Request.body same
  | inquiry | pull | deletion => exact nomatch congrArg Request.method same

/-- A request that goes by the settings, as it is seen. -/
theorem sent {request : Request} (rule : request.ByRule settings) (m : State) (n : Nat)
    (answer : Except Failure (Option String)) :
    ∀ e ∈ [(⟨m, .sent n request answer⟩ : Event)], e.ByRule settings := by
  refine List.forall_mem_singleton.mpr ?_
  intro other another sends
  rw [sends.request.1]
  exact rule

end Request.ByRule

theorem Creates.byRule {r : Except Failure Unit}
    (creates : Creates surroundings caller settings m r session signals) : ∀ e ∈ signals, e.ByRule settings := by
  cases creates with
  | groupless missing => exact List.forall_mem_nil _
  | unsent e reason => exact List.forall_mem_nil _
  | failed written amid e => exact Request.ByRule.sent (.creation written) _ _ _
  | unread written amid meaningless misread => exact Request.ByRule.sent (.creation written) _ _ _
  | made written amid named quiet => exact Request.ByRule.sent (.creation written) _ _ _

theorem Equips.byRule (equips : Equips surroundings caller settings m session signals) :
    ∀ e ∈ signals, e.ByRule settings := by
  cases equips with
  | held holding => exact List.forall_mem_nil _
  | created lacking creates => exact creates.byRule

theorem Subscribes.byRule {topics : Topics} {r : Except Failure Unit}
    (subscribes : Subscribes surroundings caller settings topics m r session signals) :
    ∀ e ∈ signals, e.ByRule settings := by
  cases subscribes with
  | topicless refused => exact List.forall_mem_nil _
  | uncreated wanted lacking creates => exact creates.byRule
  | unwritten wanted equips refused => exact equips.byRule
  | failed wanted texts equips held amid e =>
    exact List.forall_mem_append.mpr ⟨equips.byRule, Request.ByRule.sent (.subscription _ _) _ _ _⟩
  | done wanted texts equips held amid quiet =>
    exact List.forall_mem_append.mpr ⟨equips.byRule, Request.ByRule.sent (.subscription _ _) _ _ _⟩

theorem Inquires.byRule {r : Except Failure (List String)}
    (inquires : Inquires surroundings caller settings m r session signals) : ∀ e ∈ signals, e.ByRule settings := by
  cases inquires with
  | unheld absent => exact List.forall_mem_nil _
  | failed held amid e => exact Request.ByRule.sent (.inquiry _) _ _ _
  | unread held amid filled meaningless misread => exact Request.ByRule.sent (.inquiry _) _ _ _
  | listed held amid denoted => exact Request.ByRule.sent (.inquiry _) _ _ _

theorem Deletes.byRule {r : Except Failure Unit}
    (deletes : Deletes surroundings caller settings m r session signals) : ∀ e ∈ signals, e.ByRule settings := by
  cases deletes with
  | unheld absent => exact List.forall_mem_nil _
  | sent held amid settled => exact Request.ByRule.sent (.deletion _) _ _ _

theorem Consumes.byRule {timeout : Value} {r : Except Failure Batch}
    (consumes : Consumes surroundings caller settings timeout m r session signals) :
    ∀ e ∈ signals, e.ByRule settings := by
  cases consumes with
  | unsubscribed topicless => exact List.forall_mem_nil _
  | unheld absent => exact List.forall_mem_nil _
  | incomparable fault => exact List.forall_mem_nil _
  | failed subscribed held amid e => exact Request.ByRule.sent (.pull _ _) _ _ _
  | unread subscribed held amid meaningless misread => exact Request.ByRule.sent (.pull _ _) _ _ _
  | read subscribed held amid denoted quiet => exact Request.ByRule.sent (.pull _ _) _ _ _

theorem Commits.byRule {r : Except Failure Unit}
    (commits : Commits surroundings caller settings m r session signals) : ∀ e ∈ signals, e.ByRule settings := by
  cases commits with
  | automatic automatic => exact List.forall_mem_nil _
  | unheld manual absent => exact List.forall_mem_nil _
  | failed manual held amid e => exact Request.ByRule.sent (.offsets manual _) _ _ _
  | sent manual held amid answer => exact Request.ByRule.sent (.offsets manual _) _ _ _

end

/-! ## Moves -/

/-- A thread that the guard lets in, and since some moment nothing but requests that go by the settings. -/
structure Ruled (settings : Settings) (caller : Thread) (base c : Chronicle) : Prop where
  opened : c.memory.guard.OpenTo caller
  signals : base.Adds (Event.ByRule settings) c

section
variable {surroundings : Surroundings} {settings : Settings} {caller : Thread} {base c later : Chronicle}
  {nested : List Move → Chronicle → Chronicle}

/-- A step lets a thread in that was let in before. -/
private theorem openTo_step {m : State} (s : Step) (opened : m.guard.OpenTo caller) :
    (s.apply caller m).2.guard.OpenTo caller := by
  have attempted {changed : Except Failure (Session String Value)} :
      (Step.attempt m changed fun t => { m with session := t }).2.guard = m.guard := by
    cases changed <;> rfl
  cases s with
  | acquire api =>
    simp only [Step.apply, opened.acquire, Step.attempt]
    exact Guard.openTo_claimed
  | release =>
    obtain free | ⟨depth, claimed⟩ := opened
    · simp only [Step.apply, free]
      exact .inl free
    · simp only [Step.apply, claimed]
      cases depth with
      | zero => exact .inl rfl
      | succ depth => exact .inr ⟨depth, rfl⟩
  | setConsumer id api => exact attempted ▸ opened
  | replaceTopics topics api => exact attempted ▸ opened
  | resetSession api => exact attempted ▸ opened
  | unlockDestroy =>
    simp only [Step.apply]
    split
    · exact opened
    · exact opened
  | _ => exact opened

/-- An operation whose outcomes send only what goes by the settings. -/
theorem keeps_ruled {api : Api} {body : Operation α}
    {outcome : State → Except Failure α → Session String Value → List Event → Prop}
    (led : ∀ {c : Chronicle}, c.memory.guard.OpenTo caller → c.memory.session.active = true →
      Leads (surroundings.host nested caller) (named settings api body) c fun r later =>
        ∃ session signals, outcome c.memory r session signals ∧
          c.Becomes surroundings session c.memory.context signals later)
    (ruled : ∀ {m r session signals}, outcome m r session signals → ∀ e ∈ signals, e.ByRule settings) :
    Keeps (surroundings.host nested caller) (Ruled settings caller base) (named settings api body) := by
  intro c before
  refine (leads_admitted before.opened (led before.opened)).weaken ?_
  rintro r later (⟨-, session, signals, holds, became⟩ | ⟨-, -, rfl⟩)
  · refine ⟨?_, before.signals.trans (became.adds (ruled holds))⟩
    rw [became.state.guard]
    exact before.opened
  · exact before

theorem ruled_upheld (surroundings : Surroundings) (settings : Settings) (caller : Thread) (base : Chronicle)
    (nested : List Move → Chronicle → Chronicle) :
    Upheld surroundings settings caller nested (Ruled settings caller base) where
  create := keeps_ruled leads_create Creates.byRule
  subscribe topics := keeps_ruled (leads_subscribe · · topics) Subscribes.byRule
  subscriptions := keeps_ruled leads_subscriptions Inquires.byRule
  delete := keeps_ruled leads_delete Deletes.byRule
  consume timeout := keeps_ruled (leads_consume · · timeout) Consumes.byRule
  commit := keeps_ruled leads_commit Commits.byRule
  steps s _ _ before := ⟨openTo_step s before.opened, before.signals⟩
  notes c h quiet before := by
    refine ⟨before.opened, before.signals.trans ⟨_, signals_add h, ?_⟩⟩
    intro e member request answer sends
    obtain ⟨n, sent⟩ := sends
    rw [List.mem_singleton.mp (List.mem_of_mem_filter member)] at sent
    exact absurd sent (quiet n request answer)
  flags _ _ before := ⟨before.opened, before.signals⟩

/-- Whatever moves a thread makes, its requests go by the settings. -/
theorem perform_ruled (opened : c.memory.guard.OpenTo caller) (depth : Nat) (moves : List Move) :
    Ruled settings caller c (perform surroundings settings caller depth moves c) :=
  perform_keeps (ruled_upheld surroundings settings caller c) depth moves c ⟨opened, .none rfl⟩

/-- Moves of which nothing is seen were none. -/
theorem perform_still (opened : c.memory.guard.OpenTo caller) {depth : Nat} {moves : List Move}
    (same : (perform surroundings settings caller depth moves c).signals = c.signals) :
    perform surroundings settings caller depth moves c = c := by
  cases depth with
  | zero => rfl
  | succ depth =>
    cases moves with
    | nil => rfl
    | cons move rest =>
      -- The first move has ended, which is seen, and what comes after it takes nothing back.
      exfalso
      have moved := (ruled_upheld surroundings settings caller c
        (perform surroundings settings caller depth)).sustained.move
          (perform_keeps (ruled_upheld surroundings settings caller c) depth) move c ⟨opened, .none rfl⟩
      obtain ⟨first, added, -⟩ := moved.signals
      obtain ⟨further, went, -⟩ := (@perform_ruled surroundings settings caller
        ((exec (surroundings.hosting settings caller depth) (move.operation settings) c).2.add .ended)
        moved.opened (depth + 1) rest).signals
      rw [signals_add, added] at went
      have all := same.symm.trans went
      have sizes := congrArg List.length all
      simp only [List.length_append, List.filter_cons, Event.isSignal, ↓reduceIte, List.length_cons] at sizes
      omega

/-- A call of a callback; if nothing is seen between its call and its return, the session is what it was. -/
theorem outside_callback_ruled {id : CallbackId} {batch : Batch} {consumer : Option String}
    {answer : Except Failure Value} (opened : c.memory.guard.OpenTo caller) (depth : Nat)
    (called : surroundings.outside (perform surroundings settings caller depth) (.callback id batch consumer) c =
      (answer, later)) :
    ∃ own n, later.signals = c.signals ++
        ⟨c.memory, .called id batch consumer⟩ :: (own ++ [⟨n, .returned answer⟩]) ∧
      (own = [] → later.memory.session = c.memory.session) := by
  have within : Ruled settings caller (c.add (.called id batch consumer))
      (surroundings.during (perform surroundings settings caller depth) (.callback id batch consumer) c) :=
    perform_ruled (c := c.add (.called id batch consumer)) opened depth _
  obtain ⟨own, added, -⟩ := within.signals
  obtain ⟨n, seen⟩ := signals_of_callback called added
  refine ⟨own, n, seen, ?_⟩
  rintro rfl
  have still : surroundings.during (perform surroundings settings caller depth) (.callback id batch consumer) c =
      c.add (.called id batch consumer) :=
    perform_still (c := c.add (.called id batch consumer)) opened (added.trans (List.append_nil _))
  cases called
  exact congrArg (·.memory.session) still

end

/-! ## Cycles -/

/-- An event that is neither about a callback nor a commit. -/
def Event.IsAside (settings : Settings) (e : Event) : Prop := ¬ e.OfCallback ∧ ¬ e.IsCommit settings

/-- What is seen of the first half of a cycle: nothing about a callback, or one call of it at the end. If it came back
well and has done nothing, the cycle goes on, and with the consumer that the callback was told. -/
inductive Hands (settings : Settings) (c : Chronicle) : Except Failure (Option Bool) → Chronicle → Prop where
  | nothing (asides : c.Adds (Event.IsAside settings) later) (ended : ∀ goOn, r ≠ .ok (some goOn)) :
      Hands settings c r later
  | called {before own : List Event} {k n : State} {callback : CallbackId} {batch : Batch} {consumer : Option String}
      {answer : Except Failure Value} (asides : ∀ e ∈ before, e.IsAside settings)
      (added : later.signals =
        c.signals ++ (before ++ ⟨k, .called callback batch consumer⟩ :: (own ++ [⟨n, .returned answer⟩])))
      (well : own = [] → ∀ wish, answer = .ok wish → (∃ goOn, r = .ok (some goOn)) ∧
        ∃ name, consumer = some name ∧ heldConsumer? later.memory.session = some name) : Hands settings c r later

section
variable {surroundings : Surroundings} {settings : Settings} {caller : Thread} {c later : Chronicle} {m : State}
  {left : Session String Value} {signals : List Event} {e : Event}

theorem Event.Sends.not_callback {request : Request} {answer : Except Failure (Option String)}
    (sends : e.Sends request answer) : ¬ e.OfCallback := by
  obtain ⟨n, sent⟩ := sends
  rw [Event.OfCallback, sent]
  exact id

theorem Event.IsPlain.aside (plain : e.IsPlain) : e.IsAside settings := by
  refine ⟨?_, plain.not_commit⟩
  intro called
  obtain ⟨m, happening⟩ := e
  cases happening with
  | called id batch consumer => exact plain
  | returned answer => exact plain
  | _ => exact called

theorem Event.IsPull.aside (pull : e.IsPull settings) : e.IsAside settings := by
  refine ⟨?_, fun commit => commit.not_pull pull⟩
  obtain ⟨consumer, timeout, answer, sends⟩ := pull
  exact sends.not_callback

theorem Readies.aside {topics : List Value} {subscribed : Bool} {r : Except Failure Unit}
    (readies : Readies surroundings caller settings topics c subscribed r later) :
    c.Adds (Event.IsAside settings) later := readies.plain.weaken fun _ => Event.IsPlain.aside

theorem Recovers.aside {goOn : Bool} {e : Failure} {r : Except Failure LoopState}
    (recovers : Recovers surroundings caller settings goOn e c r later) : c.Adds (Event.IsAside settings) later :=
  recovers.plain.weaken fun _ => Event.IsPlain.aside

theorem Consumes.aside {timeout : Value} {r : Except Failure Batch}
    (consumes : Consumes surroundings caller settings timeout m r left signals) :
    ∀ e ∈ signals, e.IsAside settings := by
  have pulled {within : State} {n : Nat} {consumer : String} {answer : Except Failure (Option String)} :
      ∀ e ∈ [(⟨within, .sent n (.pull settings consumer timeout) answer⟩ : Event)], e.IsAside settings :=
    List.forall_mem_singleton.mpr (Event.IsPull.aside ⟨consumer, timeout, answer, n, rfl⟩)
  cases consumes with
  | unsubscribed topicless => exact List.forall_mem_nil _
  | unheld absent => exact List.forall_mem_nil _
  | incomparable fault => exact List.forall_mem_nil _
  | failed subscribed held amid e => exact pulled
  | unread subscribed held amid meaningless misread => exact pulled
  | read subscribed held amid denoted quiet => exact pulled

theorem Commits.not_callback {r : Except Failure Unit}
    (commits : Commits surroundings caller settings m r left signals) : ∀ e ∈ signals, ¬ e.OfCallback := by
  cases commits with
  | automatic automatic => exact List.forall_mem_nil _
  | unheld manual absent => exact List.forall_mem_nil _
  | failed manual held amid e => exact List.forall_mem_singleton.mpr id
  | sent manual held amid answer => exact List.forall_mem_singleton.mpr id

/-- Where the service commits by itself, a commit goes well and asks for nothing. -/
theorem Commits.unasked {r : Except Failure Unit}
    (commits : Commits surroundings caller settings m r left signals) (automatic : settings.autoCommits = true) :
    r = .ok () ∧ signals = [] := by
  cases commits with
  | automatic _ => exact ⟨rfl, rfl⟩
  | unheld manual absent => exact nomatch automatic.symm.trans manual
  | failed manual held amid e => exact nomatch automatic.symm.trans manual
  | sent manual held amid answer => exact nomatch automatic.symm.trans manual

/-- Where commits are left to the channel and a consumer is held, a commit asks once. -/
theorem Commits.once {r : Except Failure Unit} {consumer : String}
    (commits : Commits surroundings caller settings m r left signals) (manual : settings.autoCommits = false)
    (held : heldConsumer? m.session = some consumer) :
    ∃ commit answer, signals = [commit] ∧ commit.Sends (.offsets settings consumer) answer := by
  cases commits with
  | automatic automatic => exact nomatch automatic.symm.trans manual
  | unheld _ absent => exact nomatch absent.symm.trans held
  | failed _ holds amid e =>
    cases holds.symm.trans held
    exact ⟨_, _, rfl, _, rfl⟩
  | sent _ holds amid answer =>
    cases holds.symm.trans held
    exact ⟨_, _, rfl, _, rfl⟩

/-- Where a callback is called once and nothing else is about one, it is the one that came back well. -/
private theorem called_once {before own after front back : List Event} {called returned first second : Event}
    (same : before ++ called :: (own ++ returned :: after) = front ++ first :: second :: back)
    (asides : ∀ e ∈ before, ¬ e.OfCallback) (calls : called.OfCallback) (returns : returned.OfCallback)
    (begins : first.OfCallback) (only : ∀ e ∈ front ++ back, ¬ e.OfCallback) :
    before = front ∧ called = first ∧ own = [] ∧ returned = second ∧ after = back := by
  rcases split_append same with ⟨rest, rfl, -⟩ | ⟨rest, rfl, tail⟩
  · exact absurd begins (asides first (by simp))
  · cases rest with
    | nil =>
      obtain ⟨here, further⟩ := List.cons.inj tail
      cases own with
      | nil =>
        obtain ⟨next, beyond⟩ := List.cons.inj further
        exact ⟨(List.append_nil _).symm, here, rfl, next, beyond⟩
      | cons head own =>
        obtain ⟨-, beyond⟩ := List.cons.inj further
        exact absurd returns (only returned (by simp [← beyond]))
    | cons head rest =>
      obtain ⟨rfl, -⟩ := List.cons.inj tail
      exact absurd calls (only called (by simp))

/-- A stretch without callbacks commits once, as there is none that came back well. -/
theorem CommitsOnce.aside (asides : ∀ e ∈ signals, ¬ e.OfCallback) : CommitsOnce settings signals := by
  rintro front m id batch consumer n wish back rfl only
  exact absurd trivial (asides ⟨m, .called id batch consumer⟩ (by simp))

/-- A stretch with one callback commits once, if it does right after a callback that came back well and did nothing. -/
theorem CommitsOnce.called {before own after : List Event} {k n : State} {callback : CallbackId} {batch : Batch}
    {consumer : Option String} {answer : Except Failure Value} (asides : ∀ e ∈ before, e.IsAside settings)
    (concludes : own = [] → ∀ wish, answer = .ok wish → ∃ commit rest name reply, after = commit :: rest ∧
      consumer = some name ∧ commit.Sends (.offsets settings name) reply ∧ ∀ e ∈ rest, ¬ e.IsCommit settings) :
    CommitsOnce settings
      (before ++ ⟨k, .called callback batch consumer⟩ :: (own ++ ⟨n, .returned answer⟩ :: after)) := by
  intro front m id other name l wish back same only
  obtain ⟨rfl, ⟨⟩, rfl, ⟨⟩, rfl⟩ := called_once same (fun e member => (asides e member).1) trivial trivial trivial only
  obtain ⟨commit, rest, name, reply, rfl, held, sends, none⟩ := concludes rfl wish rfl
  refine ⟨commit, rest, name, reply, rfl, held, sends, ?_⟩
  exact List.forall_mem_append.mpr ⟨fun e member => (asides e member).2, none⟩

section
variable {callback : CallbackId} {topics : List Value} {subscribed : Bool} {depth : Nat}

theorem Consumes.holds {timeout : Value} {batch : Batch}
    (consumes : Consumes surroundings caller settings timeout m (.ok batch) left signals) :
    ∃ name, left.consumer = some name ∧ heldConsumer? left = some name := by
  generalize same : (Except.ok batch : Except Failure Batch) = r at consumes
  cases consumes with
  | read subscribed held amid denoted result => exact ⟨_, (heldConsumer?_eq_some.mp held).1, held⟩
  | _ => cases same

theorem Fetches.hands {r : Except Failure (Option Bool)}
    (fetches : Fetches surroundings caller settings (perform surroundings settings caller depth) callback topics c
      subscribed r later)
    (opened : c.memory.guard.OpenTo caller) (active : c.memory.session.active = true) : Hands settings c r later := by
  have handed {d k : Chronicle} {batch : Batch} {left : Session String Value} {signals : List Event}
      {answer : Except Failure Value}
      (readies : Readies surroundings caller settings topics c subscribed (.ok ()) d)
      (consumes : Consumes surroundings caller settings settings.consumeTimeout d.memory (.ok batch) left signals)
      (pulled : d.Becomes surroundings left d.memory.context signals k)
      (called : surroundings.outside (perform surroundings settings caller depth)
        (.callback callback batch left.consumer) k = (answer, later))
      (result : later.memory.session.active = true → ∀ wish, answer = .ok wish → ∃ goOn, r = .ok (some goOn)) :
      Hands settings c r later := by
    have admitted : k.memory.guard.OpenTo caller := by rwa [pulled.state.guard, readies.guard]
    obtain ⟨own, n, seen, still⟩ := outside_callback_ruled admitted depth called
    obtain ⟨before, added, asides⟩ := readies.aside.trans (pulled.adds consumes.aside)
    refine .called asides (by rw [seen, added, List.append_assoc]) ?_
    rintro nothing wish rfl
    have session : later.memory.session = left := (still nothing).trans pulled.state.session
    obtain ⟨name, stored, held⟩ := consumes.holds
    refine ⟨result ?_ wish rfl, name, stored, by rwa [session]⟩
    rw [session, consumes.session_eq]
    exact readies.active active
  cases fetches with
  | unready readies => exact .nothing readies.aside nofun
  | stopped readies asked => exact .nothing readies.aside nofun
  | unpulled readies consumes pulled => exact .nothing (readies.aside.trans (pulled.adds consumes.aside)) nofun
  | raised readies consumes pulled called => exact handed readies consumes pulled called nofun
  | handled readies consumes pulled called =>
    exact handed readies consumes pulled called fun active _ _ => ⟨_, by rw [if_pos active]⟩

/-- A cycle commits once, if whatever comes after its first half begins with the commit where the cycle goes on. -/
theorem Hands.commitsOnce {r : Except Failure (Option Bool)} {d : Chronicle} {after : List Event}
    (hands : Hands settings c r d) (added : later.signals = d.signals ++ after) (bare : ∀ e ∈ after, ¬ e.OfCallback)
    (commits : ∀ goOn name, r = .ok (some goOn) → heldConsumer? d.memory.session = some name →
      ∃ commit rest reply, after = commit :: rest ∧ commit.Sends (.offsets settings name) reply ∧
        ∀ e ∈ rest, ¬ e.IsCommit settings) :
    ∃ more, later.signals = c.signals ++ more ∧ CommitsOnce settings more := by
  cases hands with
  | nothing asides ended =>
    obtain ⟨before, first, asides⟩ := asides
    refine ⟨before ++ after, by rw [added, first, List.append_assoc], .aside ?_⟩
    exact List.forall_mem_append.mpr ⟨fun e member => (asides e member).1, bare⟩
  | called asides first well =>
    refine ⟨_, by rw [added, first, List.append_assoc, List.append_assoc, List.cons_append, List.append_assoc,
      List.singleton_append], .called asides ?_⟩
    intro nothing wish came
    obtain ⟨⟨goOn, going⟩, name, told, held⟩ := well nothing wish came
    obtain ⟨commit, rest, reply, rfl, sends, none⟩ := commits goOn name going held
    exact ⟨commit, rest, name, reply, rfl, told, sends, none⟩

/-- A cycle commits once, if its callback comes back well and does nothing. -/
theorem Cycles.commitsOnce {r : Except Failure LoopState}
    (cycles : Cycles surroundings caller settings (perform surroundings settings caller depth) callback topics c
      subscribed r later)
    (manual : settings.autoCommits = false) (opened : c.memory.guard.OpenTo caller)
    (active : c.memory.session.active = true) :
    ∃ more, later.signals = c.signals ++ more ∧ CommitsOnce settings more := by
  cases cycles with
  | failed fetches recovers =>
    obtain ⟨after, added, asides⟩ := recovers.aside
    exact (fetches.hands opened active).commitsOnce added (fun e member => (asides e member).1) nofun
  | ended fetches =>
    exact (fetches.hands opened active).commitsOnce (List.append_nil _).symm (List.forall_mem_nil _) nofun
  | committed fetches commits became =>
    refine (fetches.hands opened active).commitsOnce became.signals commits.not_callback ?_
    intro _ name _ held
    obtain ⟨commit, reply, rfl, sends⟩ := commits.once manual held
    exact ⟨commit, [], reply, rfl, sends, List.forall_mem_nil _⟩
  | uncommitted fetches commits became recovers =>
    obtain ⟨after, added, asides⟩ := recovers.aside
    refine (fetches.hands opened active).commitsOnce (by rw [added, became.signals, List.append_assoc])
      (List.forall_mem_append.mpr ⟨commits.not_callback, fun e member => (asides e member).1⟩) ?_
    intro _ name _ held
    obtain ⟨commit, reply, rfl, sends⟩ := commits.once manual held
    exact ⟨commit, after, reply, rfl, sends, fun e member => (asides e member).2⟩

/-! ## Loops and runs -/

theorem leads_loop_cycled (manual : settings.autoCommits = false) (quiet : surroundings.LogsQuietly)
    (opened : c.memory.guard.OpenTo caller) {state : LoopState}
    (active : state.goOn = true → c.memory.session.active = true) (rounds : Nat) :
    Leads (surroundings.hosting settings caller depth) (loop settings callback topics rounds state) c fun _ later =>
      Cycled settings surroundings caller depth (some callback) (CommitsOnce settings) c later := by
  induction rounds generalizing c state with
  | zero =>
    unfold loop
    exact leads_goesOn_bind (fun _ => .still) fun _ _ => .still
  | succ rounds ih =>
    unfold loop
    refine leads_goesOn_bind (fun _ => .still) ?_
    intro going _
    obtain ⟨r, d, ran⟩ : ∃ r d, exec (surroundings.hosting settings caller depth)
      (cycle settings callback topics state.subscribed) c = (r, d) := ⟨_, _, rfl⟩
    have cycles := (leads_iff _).mp (leads_cycle quiet (leavesGuard quiet depth) opened (active going)) r d ran
    obtain ⟨more, added, once⟩ := cycles.commitsOnce manual opened (active going)
    refine leads_bind_of_exec ran ?_ fun e failed => .cycle rfl ran added once .still
    rintro next rfl
    have still : d.memory.guard.OpenTo caller := by rwa [cycles.guard (leavesGuard quiet depth) opened]
    exact (ih still cycles.active).weaken fun _ _ => .cycle rfl ran added once

private theorem run_cycled (manual : settings.autoCommits = false) (quiet : surroundings.LogsQuietly)
    (opened : c.memory.guard.OpenTo caller) (rounds : Nat) (callback : Option CallbackId) (topics : Topics) :
    ∃ first last, first.signals = c.signals ∧
      Cycled settings surroundings caller depth callback (CommitsOnce settings) first last ∧
      (exec (surroundings.hosting settings caller depth) (run settings rounds callback topics) c).2.signals =
        last.signals := by
  obtain ⟨r, later, ran⟩ : ∃ r later, exec (surroundings.hosting settings caller depth)
    (run settings rounds callback topics) c = (r, later) := ⟨_, _, rfl⟩
  have runs := (leads_iff _).mp (leads_run quiet (leavesGuard quiet depth) opened rounds) r later ran
  rw [ran]
  cases runs with
  | inactive inactive => exact ⟨c, c, rfl, .still, rfl⟩
  | refused passed unready => exact ⟨c, c, rfl, .still, passed.signals.trans (List.append_nil _)⟩
  | looped active grouped chosen wanted begins stages loops finishes cleared =>
    subst chosen
    have cycled := (leads_iff _).mp (leads_loop_cycled manual quiet begins.opened
      (fun _ => by rw [begins.session, active]) rounds) _ _ stages.looped
    exact ⟨_, _, begins.signals, cycled, finishes.signals⟩

end

end

/-- The channel commits as the service is told. Whatever moves are made, every new consumer is told the fields, with an
entry on commits; if that says true, no commit is ever asked for, and committing on an active channel goes well whether
or not a consumer is held. Otherwise committing with a consumer asks once, and so does each cycle of a run whose
callback came back well and did nothing. -/
theorem commits_as_told (surroundings : Surroundings) (settings : Settings) (fields : List (String × Value))
    (caller : Thread) (depth : Nat) (c : Chronicle) (configured : settings.Configured fields)
    (opened : c.memory.guard.OpenTo caller) :
    (∀ moves, c.Adds (fun e =>
        (∀ body answer, e.Sends (.creation settings body) answer → settings.Tells fields body) ∧
          ((Settings.told fields).saysTrue = true → ¬ e.IsCommit settings))
      (perform surroundings settings caller depth moves c)) ∧
    (c.memory.session.active = true →
      let committed := exec (surroundings.hosting settings caller depth) (commit settings) c
      ((Settings.told fields).saysTrue = true → committed.1 = .ok () ∧ committed.2.signals = c.signals) ∧
      ((Settings.told fields).saysTrue = false → ∀ consumer, heldConsumer? c.memory.session = some consumer →
        ∃ e answer, committed.2.signals = c.signals ++ [e] ∧ e.Sends (.offsets settings consumer) answer)) ∧
    ((Settings.told fields).saysTrue = false → surroundings.LogsQuietly → ∀ rounds callback topics,
      ∃ first last, first.signals = c.signals ∧
        Cycled settings surroundings caller depth callback (CommitsOnce settings) first last ∧
        (exec (surroundings.hosting settings caller depth) (run settings rounds callback topics) c).2.signals =
          last.signals) := by
  rw [← configured.autoCommits]
  refine ⟨?_, ?_, fun manual quiet => run_cycled manual quiet opened⟩
  · intro moves
    refine (perform_ruled opened depth moves).signals.weaken fun e rule => ⟨?_, ?_⟩
    · intro body answer sends
      exact configured.tells (rule _ _ sends).written
    · rintro automatic ⟨consumer, answer, sends⟩
      exact nomatch automatic.symm.trans (rule _ _ sends).manual
  · intro active
    have led : Leads (surroundings.hosting settings caller depth) (commit settings) c fun r later =>
        ∃ left signals, Commits surroundings caller settings c.memory r left signals ∧
          c.Becomes surroundings left c.memory.context signals later := leads_commit opened active
    obtain ⟨left, signals, commits, became⟩ := led
    constructor
    · intro automatic
      obtain ⟨well, rfl⟩ := commits.unasked automatic
      exact ⟨well, became.signals.trans (List.append_nil _)⟩
    · intro manual consumer held
      obtain ⟨commit, answer, rfl, sends⟩ := commits.once manual held
      exact ⟨commit, answer, became.signals, sends⟩

/-- The settings of a channel that leaves commits to the service, said in capitals. -/
def automatic : Settings :=
  { committing with extra := Settings.named [(Settings.autoCommitKey, .text " TRUE ")] }

/-- A channel that leaves commits to the service commits without a consumer; one that does not commits in each cycle. -/
theorem commits_as_told_either_way :
    (automatic.Configured [(Settings.autoCommitKey, .text " TRUE ")] ∧
      committing.Configured [(Settings.autoCommitKey, .bool false)] ∧ (Chronicle.start 0).memory.guard.OpenTo 0) ∧
    (exec ((Surroundings.oneBatch .commit).hosting automatic 0 1) (commit automatic) (.start 0)).1 = .ok () ∧
    ∃ first last, first.signals = (Chronicle.start 0).signals ∧
      Cycled committing (Surroundings.oneBatch .commit) 0 1 (some 0) (CommitsOnce committing) first last ∧
      (exec ((Surroundings.oneBatch .commit).hosting committing 0 1) (run committing 2 (some 0) (.single "t"))
        (.start 0)).2.signals = last.signals := by
  have configured (v : Value) (switch : v.IsSwitch) {settings : Settings}
      (extra : settings.extra = [(.text Settings.autoCommitKey, v)]) :
      settings.Configured [(Settings.autoCommitKey, v)] := by
    refine ⟨extra, List.nodup_singleton _, ?_⟩
    intro other listed
    cases List.mem_singleton.mp listed
    exact switch
  have first : automatic.Configured [(Settings.autoCommitKey, .text " TRUE ")] :=
    configured (.text " TRUE ") trivial rfl
  have second : committing.Configured [(Settings.autoCommitKey, .bool false)] := configured (.bool false) trivial rfl
  have opened : (Chronicle.start 0).memory.guard.OpenTo 0 := .inl rfl
  have quiet : (Surroundings.oneBatch .commit).LogsQuietly := (Surroundings.scripted_dependable ..).logs
  refine ⟨⟨first, second, opened⟩, ?_, ?_⟩
  · exact (((commits_as_told _ automatic _ 0 1 (.start 0) first opened).2.1 rfl).1 (by decide)).1
  · exact (commits_as_told _ committing _ 0 1 (.start 0) second opened).2.2 (by decide) quiet 2 (some 0) (.single "t")

end ConsumerChannel.Channel
