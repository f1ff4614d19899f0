import ConsumerChannel.Guard
import ConsumerChannel.Value

/-!
The session of a channel: the consumer that the service keeps for it, the topics of the last
successful subscription, and whether the channel is still active. An inactive session is frozen.
-/
namespace ConsumerChannel

/-- A session over any sort of consumer identity and topic. -/
structure Session (Id Topic : Type) where
  consumer : Option Id
  topics : List Topic
  active : Bool
  deriving DecidableEq, Repr

namespace Session
variable {Id Topic : Type}

/-- An active session without a consumer. -/
def fresh : Session Id Topic := ⟨none, [], true⟩

/-- Whether a consumer is held; a blank identity counts as none. -/
def hasConsumer [Presence Id] (s : Session Id Topic) : Bool :=
  match s.consumer with
  | none => false
  | some id => Presence.present id

/-- Whether topics are recorded. -/
def isSubscribed (s : Session Id Topic) : Bool := !s.topics.isEmpty

/-- A session without topics is known by its consumer and by whether it is active. -/
theorem eq_of_topicless {s : Session Id Topic} {consumer : Option Id} {active : Bool}
    (held : s.consumer = consumer) (topicless : s.topics.isEmpty = true) (state : s.active = active) :
    s = ⟨consumer, [], active⟩ := by
  cases s
  cases held
  cases List.isEmpty_iff.mp topicless
  cases state
  rfl

/-- A change of an active session; a frozen one refuses it. -/
def change (s : Session Id Topic) (api : Option String) (changed : Except Failure (Session Id Topic)) :
    Except Failure (Session Id Topic) :=
  if s.active then changed else .error (.permanent destroyedMessage api)

/-- The session with a consumer. -/
def setConsumer (s : Session Id Topic) (id : Option Id) (api : Option String) :
    Except Failure (Session Id Topic) :=
  s.change api (.ok { s with consumer := id })

/-- The session with other topics. Topics cannot be recorded without a consumer. -/
def replaceTopics [Presence Id] (s : Session Id Topic) (topics : List Topic) (api : Option String) :
    Except Failure (Session Id Topic) :=
  s.change api
    (if !topics.isEmpty && !s.hasConsumer then
      .error (.permanent "Cannot record subscriptions without a consumer" api)
    else .ok { s with topics := topics })

/-- The session without consumer and topics. -/
def reset (s : Session Id Topic) (api : Option String) : Except Failure (Session Id Topic) :=
  s.change api (.ok { s with consumer := none, topics := [] })

/-- The session frozen as it is. -/
def deactivate (s : Session Id Topic) : Session Id Topic := { s with active := false }

end Session

end ConsumerChannel
