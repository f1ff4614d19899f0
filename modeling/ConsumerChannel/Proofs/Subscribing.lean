import ConsumerChannel.Proofs.Resumption

/-! Subscribing is all or nothing. Either the elements that count as true take the place of the topics, with one
request for the subscription to their texts and one before it for a consumer if none is held, or it fails and the
topics are what they were, wherever on the way it fails. -/
namespace ConsumerChannel.Channel
open Operation

/-- What going through the topics that are given comes to: the elements in order, or the failure that it ends in. A
single name is its own only element. -/
def Topics.elements : Topics → Except Failure (List Value)
  | absent => .ok []
  | single name => .ok [.text name]
  | many members none => .ok members
  | many _ (some e) => .error e

/-- The failure of a subscription to nothing. -/
def topiclessFailure : Failure := .permanent missingTopicsMessage (some Api.subscribe.name)

/-- What is seen of a subscription that returns: one request that subscribes the consumer to the names, and before it
one for the consumer if none is held. -/
inductive SubscribesOnce (settings : Settings) (m : State) (names : List String) : String → List Event → Prop where
  | held (held : m.session.consumer = some consumer) :
      SubscribesOnce settings m names consumer
        [⟨within, .sent m.transport (.subscription settings consumer names) (.ok answer)⟩]
  | created (unheld : m.session.consumer = none) (written : creationBody settings = .ok body)
      (named : Denotes CreatedConsumer.ofText made ⟨consumer⟩) :
      SubscribesOnce settings m names consumer
        [⟨creating, .sent m.transport (.creation settings body) (.ok made)⟩,
          ⟨within, .sent m.transport (.subscription settings consumer names) (.ok answer)⟩]

/-- What subscribing to topics comes to, the session it leaves, and what is seen of it. -/
structure Replaces (settings : Settings) (topics : Topics) (m : State) (r : Except Failure Unit)
    (left : Session String Value) (signals : List Event) : Prop where
  granted : r = .ok () → ∃ members names consumer, topics.elements = .ok members ∧
    left = ⟨some consumer, members.filter Value.truthy, true⟩ ∧
    Arguments.Texts (members.filter Value.truthy) names ∧ SubscribesOnce settings m names consumer signals
  kept : ∀ e, r = .error e → left.topics = m.session.topics
  topicless : ∀ members, topics.elements = .ok members → (∀ v ∈ members, v.truthy = false) →
    r = .error topiclessFailure ∧ left = m.session ∧ signals = []
  broken : ∀ e, topics.elements = .error e → r = .error e ∧ left = m.session ∧ signals = []

/-! ## The topics that are wanted -/

section
variable {topics : Topics} {names : List Value} {members : List Value} {e : Failure}

/-- The elements that count as true are wanted, if there are any. -/
theorem wantedTopics_of_elements (through : topics.elements = .ok members) :
    wantedTopics topics =
      if members.filter Value.truthy = [] then .error topiclessFailure
      else .ok (members.filter Value.truthy) := by
  have nonempty (given : List Value) : (if given.isEmpty then .error topiclessFailure else .ok given) =
      if given = [] then Except.error topiclessFailure else .ok given := by
    cases given <;> rfl
  cases topics with
  | absent =>
    cases through
    rfl
  | single name =>
    cases through
    exact nonempty _
  | many given failure =>
    cases failure with
    | none =>
      cases through
      exact nonempty _
    | some e => cases through

theorem wantedTopics_of_broken (broken : topics.elements = .error e) : wantedTopics topics = .error e := by
  cases topics with
  | absent => cases broken
  | single name => cases broken
  | many given failure =>
    cases failure with
    | none => cases broken
    | some other =>
      cases broken
      rfl

theorem elements_of_wantedTopics (wanted : wantedTopics topics = .ok names) :
    ∃ members, topics.elements = .ok members ∧ names = members.filter Value.truthy ∧ names ≠ [] := by
  cases through : topics.elements with
  | error e => cases (wantedTopics_of_broken through).symm.trans wanted
  | ok members =>
    rw [wantedTopics_of_elements through] at wanted
    split at wanted
    · cases wanted
    · rename_i some
      cases wanted
      exact ⟨members, rfl, rfl, some⟩

end

/-! ## The law -/

section
variable {surroundings : Surroundings} {settings : Settings} {caller : Thread} {c : Chronicle} {m : State}
  {topics : Topics} {left : Session String Value} {signals : List Event} {r : Except Failure Unit}

/-- Where no consumer is held, none is stored, and there are no topics. -/
theorem empty_of_lacking {s : Session String Value} (proper : s.Proper)
    (lacking : s.hasConsumer = false) : s.consumer = none ∧ s.topics = [] := by
  rw [hasConsumer_eq_isSome, heldConsumer?_eq_consumer proper.filled] at lacking
  have unheld := Option.not_isSome_iff_eq_none.mp (Bool.eq_false_iff.mp lacking)
  exact ⟨unheld, proper.founded unheld⟩

/-- A consumer is created only where there are no topics yet, so that none are lost however that ends. -/
theorem Creates.topics_eq {api : Api}
    (creates : Creates surroundings caller settings (m.inside caller settings api) r left signals)
    (topicless : m.session.topics = []) : left.topics = m.session.topics := by
  rw [topicless]
  cases creates with
  | groupless missing => exact topicless
  | _ => rfl

theorem Equips.topics_eq (equips : Equips surroundings caller settings m left signals)
    (proper : m.session.Proper) : left.topics = m.session.topics := by
  cases equips with
  | held holding => rfl
  | created lacking creates => exact creates.topics_eq (empty_of_lacking proper lacking).2

theorem Equips.subscribesOnce {names : List String} {consumer : String} {within : State} {answer : Option String}
    (equips : Equips surroundings caller settings m left signals) (proper : m.session.Proper)
    (held : heldConsumer? left = some consumer) :
    left.consumer = some consumer ∧ SubscribesOnce settings m names consumer
      (signals ++ [⟨within, .sent m.transport (.subscription settings consumer names) (.ok answer)⟩]) := by
  obtain ⟨named, -⟩ := heldConsumer?_eq_some.mp held
  cases equips with
  | held holding => exact ⟨named, .held named⟩
  | created lacking creates =>
    cases creates with
    | made written amid denoted quiet =>
      cases named
      exact ⟨rfl, .created (empty_of_lacking proper lacking).1 written denoted⟩

/-- Where some topics are wanted, a subscription neither is refused for want of them nor ends with them. -/
theorem Replaces.wanting {chosen : List Value} (wanted : wantedTopics topics = .ok chosen)
    (granted : r = .ok () → ∃ names consumer, left = ⟨some consumer, chosen, true⟩ ∧ Arguments.Texts chosen names ∧
      SubscribesOnce settings m names consumer signals)
    (kept : ∀ e, r = .error e → left.topics = m.session.topics) : Replaces settings topics m r left signals := by
  obtain ⟨members, through, rfl, some⟩ := elements_of_wantedTopics wanted
  constructor
  · intro well
    obtain ⟨names, consumer, rest⟩ := granted well
    exact ⟨members, names, consumer, through, rest⟩
  · exact kept
  · intro others same untrue
    cases through.symm.trans same
    refine absurd (List.filter_eq_nil_iff.mpr fun v member => ?_) some
    simp [untrue v member]
  · intro e broken
    cases through.symm.trans broken

theorem Subscribes.replaces (subscribes : Subscribes surroundings caller settings topics m r left signals)
    (proper : m.session.Proper) (active : m.session.active = true) (quiet : surroundings.LogsQuietly) :
    Replaces settings topics m r left signals := by
  cases subscribes with
  | @topicless e refused =>
    constructor
    · exact nofun
    · exact fun _ _ => rfl
    · intro members through untrue
      have none : members.filter Value.truthy = [] :=
        List.filter_eq_nil_iff.mpr fun v member => by simp [untrue v member]
      rw [wantedTopics_of_elements through, if_pos none] at refused
      cases refused
      exact ⟨rfl, rfl, rfl⟩
    · intro other broken
      cases (wantedTopics_of_broken broken).symm.trans refused
      exact ⟨rfl, rfl, rfl⟩
  | uncreated wanted lacking creates =>
    exact .wanting wanted nofun fun _ _ => creates.topics_eq (empty_of_lacking proper lacking).2
  | unwritten wanted equips refused => exact .wanting wanted nofun fun _ _ => equips.topics_eq proper
  | failed wanted texts equips held amid e => exact .wanting wanted nofun fun _ _ => equips.topics_eq proper
  | done wanted texts equips held amid calm =>
    cases calm quiet
    obtain ⟨named, once⟩ := equips.subscribesOnce proper held
    refine .wanting wanted (fun _ => ⟨_, _, ?_, texts, once⟩) nofun
    rw [named, equips.active active]

end

/-- Whoever subscribes an active channel that nobody has claimed, in whichever state threads have brought it, either
replaces its topics by the elements that count as true, in order and as often as they are given, or leaves them as
they are. Success takes one request for the subscription to the texts of these elements, after one for a consumer if
none is held. Where no element counts as true, and where the elements cannot be gone through, nothing is requested.
What is given is only read: the new topics depend on nothing but its elements. -/
theorem subscription_replaces_or_keeps {surroundings : Surroundings} {settings : Settings} {caller : Thread}
    {c : Chronicle} (attained : c.memory.Attained settings caller) (unclaimed : c.memory.guard = .free)
    (active : c.memory.session.active = true) (quiet : surroundings.LogsQuietly) (depth : Nat) (topics : Topics) :
    Leads (surroundings.hosting settings caller depth) (subscribe settings topics) c fun r later =>
      ∃ left signals, Replaces settings topics c.memory r left signals ∧
        c.Becomes surroundings left c.memory.context signals later := by
  refine (leads_subscribe (.inl unclaimed) active topics).weaken ?_
  rintro r later ⟨left, signals, subscribes, became⟩
  exact ⟨left, signals, subscribes.replaces attained.proper active quiet, became⟩

/-! ## Topics that are replaced -/

section
variable {topics : Topics} {members : List Value} {names : List String}

/-- What a subscription of a consumer that was created comes to, once it is known to go well. -/
private theorem granted_of_replaces
    (led : Leads ((Surroundings.scripted [] [] (.ok .null)).hosting committing 0 1) (subscribe committing topics)
      founded fun r later => ∃ left signals, Replaces committing topics founded.memory r left signals ∧
        founded.Becomes (.scripted [] [] (.ok .null)) left founded.memory.context signals later)
    (well : (exec ((Surroundings.scripted [] [] (.ok .null)).hosting committing 0 1) (subscribe committing topics)
      founded).1.isOk = true)
    (held : (exec ((Surroundings.scripted [] [] (.ok .null)).hosting committing 0 1) (subscribe committing topics)
      founded).2.memory.session.consumer = some "c")
    (through : topics.elements = .ok members) (texts : Arguments.Texts (members.filter Value.truthy) names) :
    ∃ later signals, exec ((Surroundings.scripted [] [] (.ok .null)).hosting committing 0 1)
        (subscribe committing topics) founded = (.ok (), later) ∧
      later.signals = founded.signals ++ signals ∧ SubscribesOnce committing founded.memory names "c" signals ∧
      later.memory.session.topics = members.filter Value.truthy ∧
      Replaces committing topics founded.memory (.ok ()) later.memory.session signals := by
  unfold Leads at led
  cases ran : exec ((Surroundings.scripted [] [] (.ok .null)).hosting committing 0 1)
      (subscribe committing topics) founded with
  | mk r later =>
    rw [ran] at led well held
    obtain ⟨left, signals, replaces, became⟩ := led
    cases eq_ok_of_isOk well
    cases became.state.session
    obtain ⟨others, again, consumer, elements, same, spelled, once⟩ := replaces.granted rfl
    cases through.symm.trans elements
    cases texts.unique spelled
    cases (congrArg Session.consumer same).symm.trans held
    exact ⟨later, signals, rfl, became.signals, once, congrArg Session.topics same, replaces⟩

end

/-- Two names with a blank one and something that is no name at all between them. -/
def twoAmongBlanks : Topics := .many [.text "b", .text "", .null, .text "a", .text "b"] none

/-- A consumer was created, and subscribing it sends one request and leaves it with the names that are not blank. -/
theorem founded_subscription_replaces :
    founded.memory.Attained committing 0 ∧ founded.memory.guard = .free ∧ founded.memory.session.active = true ∧
      (Surroundings.scripted [] [] (.ok .null)).LogsQuietly ∧ ∃ later signals,
        exec ((Surroundings.scripted [] [] (.ok .null)).hosting committing 0 1)
          (subscribe committing twoAmongBlanks) founded = (.ok (), later) ∧
        later.signals = founded.signals ++ signals ∧
        SubscribesOnce committing founded.memory ["b", "a", "b"] "c" signals ∧
        Replaces committing twoAmongBlanks founded.memory (.ok ()) later.memory.session signals := by
  have unclaimed : founded.memory.guard = .free := by decide +kernel
  have active : founded.memory.session.active = true := by decide +kernel
  have quiet : (Surroundings.scripted [] [] (.ok .null)).LogsQuietly := fun _ _ => rfl
  have led := subscription_replaces_or_keeps founded_attained unclaimed active quiet 1 twoAmongBlanks
  obtain ⟨later, signals, ran, added, once, -, replaces⟩ := granted_of_replaces led (by decide +kernel)
    (by decide +kernel) rfl (Arguments.texts_of_text ["b", "a", "b"])
  exact ⟨founded_attained, unclaimed, active, quiet, later, signals, ran, added, once, replaces⟩

/-- Bytes are subscribed by the text that they encode and recorded as they are: the topics of the request, which are
texts, are not the elements, and neither are they the topics that are recorded. -/
theorem bytes_are_subscribed_by_their_text :
    ∃ later signals, exec ((Surroundings.scripted [] [] (.ok .null)).hosting committing 0 1)
        (subscribe committing inBytes) founded = (.ok (), later) ∧
      later.signals = founded.signals ++ signals ∧
      SubscribesOnce committing founded.memory ["t"] "c" signals ∧
      later.memory.session.topics = [.bytes [0x74]] ∧
      ∀ names : List String, names.map Value.text ≠ later.memory.session.topics := by
  have unclaimed : founded.memory.guard = .free := by decide +kernel
  have active : founded.memory.session.active = true := by decide +kernel
  have led : Leads ((Surroundings.scripted [] [] (.ok .null)).hosting committing 0 1) (subscribe committing inBytes)
      founded fun r later => ∃ left signals, Replaces committing inBytes founded.memory r left signals ∧
        founded.Becomes (.scripted [] [] (.ok .null)) left founded.memory.context signals later := by
    refine (leads_subscribe (.inl unclaimed) active inBytes).weaken ?_
    rintro r later ⟨left, signals, subscribes, became⟩
    exact ⟨left, signals, subscribes.replaces founded_attained.proper active fun _ _ => rfl, became⟩
  obtain ⟨later, signals, ran, added, once, recorded, -⟩ := granted_of_replaces led (by decide +kernel)
    (by decide +kernel) rfl texts_inBytes
  have recorded : later.memory.session.topics = [.bytes [0x74]] := recorded
  refine ⟨later, signals, ran, added, once, recorded, ?_⟩
  rw [recorded]
  exact fun names => map_text_ne_bytes names _

end ConsumerChannel.Channel
