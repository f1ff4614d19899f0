import ConsumerChannel.Proofs.Callbacks
import ConsumerChannel.Proofs.Moves
import ConsumerChannel.Proofs.Operations

/-! Where requests go. Consumer and topics are separate fields that are written at different moments, but
whatever operations a thread makes and whatever the service answers, they say what the service has been
told: the consumer is the one that the latest creation made, and the texts of the topics are those of the
latest successful subscription since. -/
namespace ConsumerChannel.Channel
open Operation

/-! ## What the service has been told -/

section
variable (settings : Settings)

/-- A new consumer is asked for. -/
def Event.RequestsConsumer (e : Event) : Prop := ∃ body answer, e.Sends (.creation settings body) answer

/-- The deletion of a consumer is asked for. -/
def Event.RequestsDeletion (e : Event) : Prop := ∃ id answer, e.Sends (.deletion settings id) answer

/-- A consumer is subscribed to topics. -/
def Event.SubscribesTo (e : Event) (id : String) (topics : List String) : Prop :=
  ∃ answer, e.Sends (.subscription settings id topics) (.ok answer)

/-- The consumer that the latest creation made, if no deletion has been asked for since. -/
def Standing (past : List Event) (id : String) : Prop :=
  ∃ earlier creation since body answer, past = earlier ++ creation :: since ∧
    creationBody settings = .ok body ∧ creation.Sends (.creation settings body) (.ok answer) ∧
    Denotes CreatedConsumer.ofText answer ⟨id⟩ ∧
    ∀ e ∈ since, ¬ e.RequestsConsumer settings ∧ ¬ e.RequestsDeletion settings

/-- The latest successful subscription, which had the texts of the topics and since which no new consumer has been
asked for. -/
def Subscribed (past : List Event) (id : String) (topics : List Value) : Prop :=
  ∃ names earlier subscription since, Arguments.Texts topics names ∧ past = earlier ++ subscription :: since ∧
    subscription.SubscribesTo settings id names ∧
    ∀ e ∈ since, ¬ e.RequestsConsumer settings ∧ ∀ other names, ¬ e.SubscribesTo settings other names

/-- A request that goes where it should: to the consumer that stands, unless it asks for a new one, and a
pull only if that consumer is subscribed to the texts of the very topics that are recorded. -/
inductive Addressed (past : List Event) (recorded : List Value) : Request → Prop where
  | creation (body : String) : Addressed past recorded (.creation settings body)
  | subscription (standing : Standing settings past consumer) (topics : List String) :
      Addressed past recorded (.subscription settings consumer topics)
  | inquiry (standing : Standing settings past consumer) :
      Addressed past recorded (.inquiry settings consumer)
  | pull (standing : Standing settings past consumer)
      (subscribed : Subscribed settings past consumer recorded)
      (timeout : Value) : Addressed past recorded (.pull settings consumer timeout)
  | offsets (standing : Standing settings past consumer) :
      Addressed past recorded (.offsets settings consumer)
  | deletion (standing : Standing settings past consumer) :
      Addressed past recorded (.deletion settings consumer)

/-- Topics are recorded only for a consumer with a name, the one that was subscribed to them. -/
def TopicsNeedConsumer (past : List Event) (session : Session String Value) : Prop :=
  session.topics ≠ [] → ∃ id, session.consumer = some id ∧ id ≠ "" ∧ Subscribed settings past id session.topics

/-- At every event topics are recorded only for a consumer that was subscribed to them, and every request
goes where it should. -/
def Lawful (signals : List Event) : Prop :=
  ∀ past e future, signals = past ++ e :: future →
    TopicsNeedConsumer settings past e.memory.session ∧
      ∀ request answer, e.Sends request answer → Addressed settings past e.memory.session.topics request

/-- The session says what the service has been told, and the past was lawful. -/
structure Faithful (session : Session String Value) (past : List Event) : Prop where
  consumer : ∀ id, session.consumer = some id → id ≠ "" ∧ Standing settings past id
  topics : session.topics ≠ [] → ∃ id, session.consumer = some id ∧ Subscribed settings past id session.topics
  lawful : Lawful settings past

end

/-! ## One more event -/

section
variable {settings : Settings} {past : List Event} {e : Event} {session : Session String Value}
  {id : String} {topics : List Value}

theorem Lawful.snoc (lawful : Lawful settings past)
    (sound : TopicsNeedConsumer settings past e.memory.session)
    (addressed : ∀ request answer, e.Sends request answer →
      Addressed settings past e.memory.session.topics request) : Lawful settings (past ++ [e]) := by
  intro before other future same
  rcases List.eq_nil_or_concat future with rfl | ⟨rest, last, rfl⟩
  · obtain ⟨rfl, ends⟩ := List.append_inj' same rfl
    cases ends
    exact ⟨sound, addressed⟩
  · rw [List.concat_eq_append, ← List.cons_append, ← List.append_assoc] at same
    obtain ⟨rfl, -⟩ := List.append_inj' same rfl
    exact lawful before other rest rfl

theorem Standing.snoc (standing : Standing settings past id)
    (other : ¬ e.RequestsConsumer settings ∧ ¬ e.RequestsDeletion settings) :
    Standing settings (past ++ [e]) id := by
  obtain ⟨earlier, creation, since, body, answer, rfl, written, sends, named, quiet⟩ := standing
  refine ⟨earlier, creation, since ++ [e], body, answer, by simp, written, sends, named, ?_⟩
  intro later member
  rcases List.mem_append.mp member with known | new
  · exact quiet later known
  · rwa [List.mem_singleton.mp new]

theorem Subscribed.snoc (subscribed : Subscribed settings past id topics)
    (other : ¬ e.RequestsConsumer settings ∧ ∀ other names, ¬ e.SubscribesTo settings other names) :
    Subscribed settings (past ++ [e]) id topics := by
  obtain ⟨names, earlier, subscription, since, texts, rfl, subscribes, quiet⟩ := subscribed
  refine ⟨names, earlier, subscription, since ++ [e], texts, by simp, subscribes, ?_⟩
  intro later member
  rcases List.mem_append.mp member with known | new
  · exact quiet later known
  · rwa [List.mem_singleton.mp new]

theorem Faithful.sound (faithful : Faithful settings session past) :
    TopicsNeedConsumer settings past session := by
  intro recorded
  obtain ⟨id, held, subscribed⟩ := faithful.topics recorded
  exact ⟨id, held, (faithful.consumer _ held).1, subscribed⟩

theorem Faithful.fresh (lawful : Lawful settings past) : Faithful settings .fresh past :=
  ⟨nofun, fun recorded => absurd rfl recorded, lawful⟩

/-- An event that neither makes nor deletes a consumer nor subscribes one leaves the session as true as
it was. -/
theorem Faithful.snoc (faithful : Faithful settings session past) (now : e.memory.session = session)
    (addressed : ∀ request answer, e.Sends request answer → Addressed settings past session.topics request)
    (creates : ¬ e.RequestsConsumer settings) (deletes : ¬ e.RequestsDeletion settings)
    (subscribes : ∀ other names, ¬ e.SubscribesTo settings other names) :
    Faithful settings session (past ++ [e]) := by
  subst now
  refine ⟨?_, ?_, faithful.lawful.snoc faithful.sound addressed⟩
  · intro id held
    obtain ⟨filled, standing⟩ := faithful.consumer _ held
    exact ⟨filled, standing.snoc ⟨creates, deletes⟩⟩
  · intro recorded
    obtain ⟨id, held, subscribed⟩ := faithful.topics recorded
    exact ⟨id, held, subscribed.snoc ⟨creates, subscribes⟩⟩

end

/-! ## Outcomes -/

section
variable {surroundings : Surroundings} {caller : Thread} {settings : Settings} {m : State}
  {past signals : List Event} {session later : Session String Value} {e : Event}

/-- A request of the consumer that is held, which changes nothing about it. -/
theorem Faithful.sends {n : Nat} {request : Request} {answer : Except Failure (Option String)}
    {within : State} (faithful : Faithful settings session past) (now : within.session = session)
    (addressed : Addressed settings past session.topics request)
    (existing : request.table = .existing) (keeps : request.method ≠ .delete)
    (changes : request.body = none ∨ ∃ e, answer = .error e) :
    Faithful settings session (past ++ [⟨within, .sent n request answer⟩]) := by
  refine faithful.snoc now ?_ ?_ ?_ ?_
  · intro other another sends
    rwa [sends.request.1]
  · rintro ⟨body, another, sends⟩
    rw [← sends.request.1] at existing
    exact nomatch existing
  · rintro ⟨consumer, another, sends⟩
    rw [← sends.request.1] at keeps
    exact keeps rfl
  · rintro consumer names ⟨text, sends⟩
    obtain ⟨same, answered⟩ := sends.request
    rcases changes with bodiless | ⟨e, refused⟩
    · rw [← same] at bodiless
      exact nomatch bodiless
    · exact nomatch answered.trans refused

theorem Faithful.standing {consumer : String} (faithful : Faithful settings session past)
    (held : heldConsumer? session = some consumer) : Standing settings past consumer :=
  (faithful.consumer _ (heldConsumer?_eq_some.mp held).1).2

theorem Creates.faithful (creates : Creates surroundings caller settings m r later signals)
    (faithful : Faithful settings m.session past) : Faithful settings later (past ++ signals) := by
  have asks {body : String} {within : State} {answer : Except Failure (Option String)}
      (amid : m.Amid surroundings caller settings .create .fresh within) :
      Lawful settings (past ++ [⟨within, .sent m.transport (.creation settings body) answer⟩]) := by
    refine faithful.lawful.snoc ?_ ?_
    · intro recorded
      rw [amid.session] at recorded
      exact absurd rfl recorded
    · intro request another sends
      rw [sends.request.1]
      exact .creation body
  cases creates with
  | groupless missing => rwa [List.append_nil]
  | unsent e reason =>
    rw [List.append_nil]
    exact .fresh faithful.lawful
  | failed written amid e => exact .fresh (asks amid)
  | unread written amid meaningless misread => exact .fresh (asks amid)
  | @made body within answer _ consumer written amid named quiet =>
    refine ⟨?_, fun recorded => absurd rfl recorded, asks amid⟩
    intro id same
    cases Option.some.inj same
    refine ⟨?_, past, _, [], body, answer, rfl, written, ⟨_, rfl⟩, named, List.forall_mem_nil _⟩
    obtain ⟨text, -, -, read⟩ := named
    exact CreatedConsumer.id_ne_empty read

theorem Equips.faithful (equips : Equips surroundings caller settings m later signals)
    (faithful : Faithful settings m.session past) : Faithful settings later (past ++ signals) := by
  cases equips with
  | held holding => rwa [List.append_nil]
  | created lacking creates => exact creates.faithful faithful

theorem Subscribes.faithful {topics : Topics}
    (subscribes : Subscribes surroundings caller settings topics m r later signals)
    (faithful : Faithful settings m.session past) : Faithful settings later (past ++ signals) := by
  cases subscribes with
  | topicless refused => rwa [List.append_nil]
  | uncreated wanted lacking creates => exact creates.faithful faithful
  | unwritten wanted equips refused => exact equips.faithful faithful
  | failed wanted texts equips held amid e =>
    have equipped := equips.faithful faithful
    rw [← List.append_assoc]
    exact equipped.sends amid.session (.subscription (equipped.standing held) _) rfl nofun (.inr ⟨e, rfl⟩)
  | done wanted texts equips held amid quiet =>
    have equipped := equips.faithful faithful
    have standing := equipped.standing held
    rw [← List.append_assoc]
    refine ⟨?_, ?_, equipped.lawful.snoc ?_ ?_⟩
    · intro id same
      obtain ⟨filled, stands⟩ := equipped.consumer id same
      refine ⟨filled, stands.snoc ⟨?_, ?_⟩⟩
      · rintro ⟨body, another, sends⟩
        exact nomatch congrArg Request.table sends.request.1
      · rintro ⟨consumer, another, sends⟩
        exact nomatch congrArg Request.method sends.request.1
    · intro recorded
      exact ⟨_, (heldConsumer?_eq_some.mp held).1, _, _, _, [], texts, rfl, ⟨_, _, rfl⟩, List.forall_mem_nil _⟩
    · rw [amid.session]
      exact equipped.sound
    · intro request another sends
      rw [sends.request.1]
      exact .subscription standing _

theorem Inquires.faithful {r : Except Failure (List String)}
    (inquires : Inquires surroundings caller settings m r later signals)
    (faithful : Faithful settings m.session past) : Faithful settings later (past ++ signals) := by
  cases inquires with
  | unheld absent => rwa [List.append_nil]
  | failed held amid e =>
    exact faithful.sends amid.session (.inquiry (faithful.standing held)) rfl nofun (.inl rfl)
  | unread held amid filled meaningless misread =>
    exact faithful.sends amid.session (.inquiry (faithful.standing held)) rfl nofun (.inl rfl)
  | listed held amid denoted =>
    exact faithful.sends amid.session (.inquiry (faithful.standing held)) rfl nofun (.inl rfl)

theorem Deletes.faithful (deletes : Deletes surroundings caller settings m r later signals)
    (faithful : Faithful settings m.session past) : Faithful settings later (past ++ signals) := by
  cases deletes with
  | unheld absent => rwa [List.append_nil]
  | sent held amid settled =>
    refine .fresh (faithful.lawful.snoc ?_ ?_)
    · rw [amid.session]
      exact faithful.sound
    · intro request another sends
      rw [sends.request.1]
      exact .deletion (faithful.standing held)

theorem Consumes.faithful {timeout : Value} {r : Except Failure Batch}
    (consumes : Consumes surroundings caller settings timeout m r later signals)
    (faithful : Faithful settings m.session past) : Faithful settings later (past ++ signals) := by
  have pulled {consumer : String} {within : State} {answer : Except Failure (Option String)}
      (subscribed : m.session.isSubscribed = true) (held : heldConsumer? m.session = some consumer)
      (amid : m.Amid surroundings caller settings .consume m.session within) :
      Faithful settings m.session
        (past ++ [⟨within, .sent m.transport (.pull settings consumer timeout) answer⟩]) := by
    have recorded : m.session.topics ≠ [] := by
      intro none
      simp [Session.isSubscribed, none] at subscribed
    obtain ⟨id, same, topics⟩ := faithful.topics recorded
    rw [(heldConsumer?_eq_some.mp held).1] at same
    cases same
    exact faithful.sends amid.session (.pull (faithful.standing held) topics timeout) rfl nofun (.inl rfl)
  cases consumes with
  | unsubscribed topicless => rwa [List.append_nil]
  | unheld absent => rwa [List.append_nil]
  | incomparable fault => rwa [List.append_nil]
  | failed subscribed held amid e => exact pulled subscribed held amid
  | unread subscribed held amid meaningless misread => exact pulled subscribed held amid
  | read subscribed held amid denoted quiet => exact pulled subscribed held amid

theorem Commits.faithful (commits : Commits surroundings caller settings m r later signals)
    (faithful : Faithful settings m.session past) : Faithful settings later (past ++ signals) := by
  cases commits with
  | automatic automatic => rwa [List.append_nil]
  | unheld manual absent => rwa [List.append_nil]
  | failed manual held amid e =>
    exact faithful.sends amid.session (.offsets (faithful.standing held)) rfl nofun (.inl rfl)
  | sent manual held amid answer =>
    exact faithful.sends amid.session (.offsets (faithful.standing held)) rfl nofun (.inl rfl)

theorem Faithful.aside {h : Happening} {within : State} (faithful : Faithful settings session past)
    (now : within.session = session) (quiet : ∀ n request answer, h ≠ .sent n request answer) :
    Faithful settings session (past ++ [⟨within, h⟩]) := by
  have silent (request : Request) (answer : Except Failure (Option String)) :
      ¬ Event.Sends ⟨within, h⟩ request answer := fun ⟨n, same⟩ => quiet n request answer same
  refine faithful.snoc now ?_ ?_ ?_ ?_
  · exact fun request answer sends => absurd sends (silent request answer)
  · exact fun ⟨_, _, sends⟩ => silent _ _ sends
  · exact fun ⟨_, _, sends⟩ => silent _ _ sends
  · exact fun _ _ ⟨_, sends⟩ => silent _ _ sends

/-- Freezing a session changes neither consumer nor topics. -/
theorem Faithful.deactivate (faithful : Faithful settings session past) :
    Faithful settings session.deactivate past :=
  ⟨faithful.consumer, faithful.topics, faithful.lawful⟩

/-! ## Moves -/

/-- A thread that the guard lets in, and a session that says what the service has been told. -/
structure Entrusted (settings : Settings) (caller : Thread) (c : Chronicle) : Prop where
  opened : c.memory.guard.OpenTo caller
  faithful : Faithful settings c.memory.session c.signals

/-- An operation whose outcomes leave a faithful session faithful. -/
theorem keeps_entrusted {nested : List Move → Chronicle → Chronicle} {api : Api} {body : Operation α}
    {outcome : State → Except Failure α → Session String Value → List Event → Prop}
    (led : ∀ {c : Chronicle}, c.memory.guard.OpenTo caller → c.memory.session.active = true →
      Leads (surroundings.host nested caller) (named settings api body) c fun r later =>
        ∃ session signals, outcome c.memory r session signals ∧
          c.Becomes surroundings session c.memory.context signals later)
    (keeps : ∀ {m r later signals past}, outcome m r later signals → Faithful settings m.session past →
      Faithful settings later (past ++ signals)) :
    Keeps (surroundings.host nested caller) (Entrusted settings caller) (named settings api body) := by
  intro c entrusted
  cases active : c.memory.session.active with
  | false =>
    unfold Leads
    rw [exec_named_inactive entrusted.opened active]
    exact entrusted
  | true =>
    refine (led entrusted.opened active).weaken ?_
    rintro r t ⟨session, signals, holds, became⟩
    refine ⟨?_, ?_⟩
    · rw [became.state.guard]
      exact entrusted.opened
    · rw [became.state.session, became.signals]
      exact keeps holds entrusted.faithful

private theorem entrusted_step {c : Chronicle} (s : Step) (records : s.KeepsRecords)
    (entrusted : Entrusted settings caller c) :
    Entrusted settings caller (c.remember (s.apply caller c.memory).2) := by
  obtain ⟨opened, faithful⟩ := entrusted
  cases s with
  | setConsumer id api => exact records.elim
  | replaceTopics topics api => exact records.elim
  | resetSession api => exact records.elim
  | acquire api =>
    simp only [Step.apply, opened.acquire, Step.attempt]
    exact ⟨Guard.openTo_claimed, faithful⟩
  | release =>
    obtain free | ⟨depth, claimed⟩ := opened
    · simp only [Step.apply, free]
      exact ⟨.inl free, faithful⟩
    · simp only [Step.apply, claimed]
      cases depth with
      | zero => exact ⟨.inl rfl, faithful⟩
      | succ depth => exact ⟨.inr ⟨depth, rfl⟩, faithful⟩
  | deactivate => exact ⟨opened, faithful.deactivate⟩
  | unlockDestroy =>
    simp only [Step.apply]
    split
    · exact ⟨opened, faithful⟩
    · exact ⟨opened, faithful⟩
  | _ => exact ⟨opened, faithful⟩

theorem entrusted_upheld (surroundings : Surroundings) (settings : Settings) (caller : Thread)
    (nested : List Move → Chronicle → Chronicle) :
    Upheld surroundings settings caller nested (Entrusted settings caller) where
  create := keeps_entrusted leads_create Creates.faithful
  subscribe topics := keeps_entrusted (leads_subscribe · · topics) Subscribes.faithful
  subscriptions := keeps_entrusted leads_subscriptions Inquires.faithful
  delete := keeps_entrusted leads_delete Deletes.faithful
  consume timeout := keeps_entrusted (leads_consume · · timeout) Consumes.faithful
  commit := keeps_entrusted leads_commit Commits.faithful
  steps s _ records entrusted := entrusted_step s records entrusted
  notes c h quiet entrusted := by
    refine ⟨entrusted.opened, ?_⟩
    rw [signals_add]
    cases h with
    | aside call => simpa [Event.isSignal] using entrusted.faithful
    | _ => exact entrusted.faithful.aside rfl quiet
  flags _ _ entrusted := ⟨entrusted.opened, entrusted.faithful⟩

end

/-- The thread that brought a chronicle about is let in, and the session is faithful. -/
theorem Reachable.entrusted {settings : Settings} {caller : Thread} {c : Chronicle}
    (reached : Reachable settings caller c) : Entrusted settings caller c := by
  obtain ⟨surroundings, depth, moves, transport, rfl⟩ := reached
  have begun : Entrusted settings caller (.start transport) :=
    ⟨.inl rfl, .fresh fun past e future none => by simp [Chronicle.signals, Chronicle.start] at none⟩
  exact perform_keeps (entrusted_upheld surroundings settings caller) depth moves _ begun

/-- Whatever operations a thread makes, callbacks make within them, and the service answers: topics are
recorded only for a consumer that was subscribed to them, every request goes to the consumer that the
latest creation made, and records are pulled only for topics whose texts it was last subscribed to. -/
theorem requests_address_standing_consumer (surroundings : Surroundings) (settings : Settings)
    (caller : Thread) (depth : Nat) (moves : List Move) (transport : Nat) :
    Lawful settings (perform surroundings settings caller depth moves (.start transport)).signals := by
  have reached : Reachable settings caller
      (perform surroundings settings caller depth moves (.start transport)) :=
    ⟨surroundings, depth, moves, transport, rfl⟩
  exact reached.entrusted.faithful.lawful

/-! ## Topics in bytes -/

/-- The name of a topic in bytes. -/
def inBytes : Topics := .many [.bytes [0x74]] none

theorem texts_inBytes : Arguments.Texts [.bytes [0x74]] ["t"] := by
  have decodes : Text.decodeStrict? [0x74] = some "t" := by decide +kernel
  simp [Arguments.Texts, Arguments.string, Arguments.decoded, decodes]

theorem map_text_ne_bytes (names : List String) (b : List UInt8) : names.map Value.text ≠ [.bytes b] := by
  intro same
  cases names with
  | nil => cases same
  | cons name rest => cases same

/-- A channel is subscribed to such a topic, and records are pulled for it. -/
def pullingInBytes : Chronicle :=
  perform (.oneBatch .commit) committing 0 1 [.subscribe inBytes, .consume (.int 0)] (.start 0)

/-- Whether an event is a request that is made while such a topic is recorded. -/
def Event.asksInBytes (request : Request) (e : Event) : Bool :=
  match e.happening, e.memory.session.topics with
  | .sent _ asked _, [.bytes b] => asked = request && b = [0x74]
  | _, _ => false

theorem Event.sends_of_asksInBytes {e : Event} {request : Request} (asks : e.asksInBytes request = true) :
    (∃ answer, e.Sends request answer) ∧ e.memory.session.topics = [.bytes [0x74]] := by
  unfold asksInBytes at asks
  split at asks
  · next n asked answer b sent recorded =>
    simp only [Bool.and_eq_true, decide_eq_true_eq] at asks
    obtain ⟨rfl, rfl⟩ := asks
    exact ⟨⟨answer, n, sent⟩, recorded⟩
  · cases asks

/-- Bytes are recorded as they are, while their text is subscribed. So records are pulled for topics that no
subscription has carried, as it carries texts. -/
theorem topics_in_bytes_are_not_carried :
    ∃ past pull future answer, pullingInBytes.signals = past ++ pull :: future ∧
      pull.Sends (.pull committing "c" (.int 0)) answer ∧ pull.memory.session.topics = [.bytes [0x74]] ∧
      (∃ subscription ∈ past, ∃ id, subscription.SubscribesTo committing id ["t"]) ∧
      ∀ names : List String, names.map Value.text ≠ pull.memory.session.topics := by
  have asked : pullingInBytes.signals.any (Event.asksInBytes (.pull committing "c" (.int 0))) = true := by
    decide +kernel
  obtain ⟨pull, taken, asks⟩ := List.any_eq_true.mp asked
  obtain ⟨⟨answer, sends⟩, recorded⟩ := Event.sends_of_asksInBytes asks
  obtain ⟨past, future, split⟩ := List.append_of_mem taken
  have reached : Reachable committing 0 pullingInBytes := ⟨_, _, _, _, rfl⟩
  obtain ⟨sound, -⟩ := reached.entrusted.faithful.lawful past pull future split
  obtain ⟨id, -, -, names, earlier, subscription, since, texts, rfl, subscribes, -⟩ :=
    sound (by rw [recorded]; exact List.cons_ne_nil _ _)
  rw [recorded] at texts
  cases texts_inBytes.unique texts
  refine ⟨_, pull, future, answer, split, sends, recorded, ⟨subscription, by simp, id, subscribes⟩, ?_⟩
  rw [recorded]
  exact fun names => map_text_ne_bytes names _

end ConsumerChannel.Channel
