import ConsumerChannel.Proofs.Delivery

/-! How a loop recovers a lost session. Wherever a request of the loop finds its consumer lost, the consumer
is deleted, the transport replaced and a consumer created on the new one; then the topics of the run are
subscribed again, unless the loop is to end. -/
namespace ConsumerChannel.Channel
open Operation

/-! ## The law -/

section
variable (surroundings : Surroundings) (settings : Settings)

/-- A request for a consumer is answered with the loss of its session. -/
def Event.Loses (e : Event) (n : Nat) (consumer : String) : Prop :=
  ∃ request failure, e.happening = .sent n request (.error failure) ∧ failure.class? = some .sessionLost ∧
    ((∃ topics, request = .subscription settings consumer topics) ∨
      request = .pull settings consumer settings.consumeTimeout ∨ request = .offsets settings consumer)

/-- The callback has come back with nothing but wishes to go on. -/
def Wished (past : List Event) : Prop :=
  ∀ m wish, ⟨m, .returned (.ok wish)⟩ ∈ past → wish.truthy = true

/-- The service has deleted a consumer, or had lost it. -/
def Deleted (answer : Except Failure (Option String)) : Prop :=
  (∃ text, answer = .ok text) ∨ ∃ e, answer = .error e ∧ e.class? = some .sessionLost

/-- The service has named a new consumer. -/
def Names (answer : Except Failure (Option String)) (consumer : String) : Prop :=
  ∃ text, answer = .ok text ∧ Denotes CreatedConsumer.ofText text ⟨consumer⟩

/-- How a run goes on with a new consumer: it subscribes it or ends. -/
structure Resumes (result : Except Failure Unit) (past : List Event) (n : Nat) (consumer : String) (m : State)
    (rest : List Event) : Prop where
  subscribes : rest = [] ∨ ∃ k topics answer more,
    rest = ⟨k, .sent n (.subscription settings consumer topics) answer⟩ :: more
  goesOn : settings.retryOnFail.truthy = true → Wished past → surroundings.Undisturbed →
    m.flags.stopRequested = false → result ≠ .error (.fault .unfinished) → rest ≠ []
  ends : settings.retryOnFail.truthy = false ∨ ¬ Wished past ∨
    surroundings.Undisturbed ∧ m.flags.stopRequested = true → rest = [] ∧ result = .ok ()

/-- What follows the loss of a consumer: its deletion and, if that goes well, the end of its transport, a new
one and a new consumer. -/
inductive Rebuilds (result : Except Failure Unit) (past : List Event) (n : Nat) (consumer : String) :
    List Event → Prop where
  | undeleted {m : State} {e : Failure} (other : e.class? ≠ some .sessionLost) :
      Rebuilds result past n consumer [⟨m, .sent n (.deletion settings consumer) (.error e)⟩]
  | uncreated {m k l o : State} {answer reply : Except Failure (Option String)} {fresh : Nat} {body : String}
      (deleted : Deleted answer) (nameless : ∀ other, ¬ Names reply other) :
      Rebuilds result past n consumer [⟨m, .sent n (.deletion settings consumer) answer⟩,
        ⟨k, .closed n (.ok ())⟩, ⟨l, .opened (.ok fresh)⟩, ⟨o, .sent fresh (.creation settings body) reply⟩]
  | rebuilt {m k l o : State} {answer reply : Except Failure (Option String)} {fresh : Nat}
      {body other : String}
      {rest : List Event} (deleted : Deleted answer) (named : Names reply other)
      (resumes : Resumes surroundings settings result past fresh other o rest) :
      Rebuilds result past n consumer (⟨m, .sent n (.deletion settings consumer) answer⟩ ::
        ⟨k, .closed n (.ok ())⟩ :: ⟨l, .opened (.ok fresh)⟩ ::
          ⟨o, .sent fresh (.creation settings body) reply⟩ :: rest)

end

/-! ## Losses -/

section
variable {settings : Settings} {past signals more : List Event} {e : Event} {n k : Nat}
  {consumer other : String}

theorem consumerAddress_inj {suffix : String}
    (same : consumerAddress settings consumer ++ suffix = consumerAddress settings other ++ suffix) :
    consumer = other := by
  unfold consumerAddress at same
  simpa using same

theorem Request.pull_inj {timeout : Value}
    (same : Request.pull settings consumer timeout = Request.pull settings other timeout) :
    consumer = other := by
  have paths := congrArg Request.path same
  unfold Request.pull at paths
  cases positive : timeout.isPositive with
  | error f =>
    rw [positive] at paths
    exact consumerAddress_inj paths
  | ok above =>
    rw [positive] at paths
    cases above with
    | false => exact consumerAddress_inj paths
    | true =>
      simp only [String.append_assoc] at paths
      exact consumerAddress_inj paths

/-- One request is for one consumer, through one transport. -/
theorem Event.Loses.unique (first : e.Loses settings n consumer) (second : e.Loses settings k other) :
    k = n ∧ other = consumer := by
  obtain ⟨request, failure, sent, -, asks⟩ := first
  obtain ⟨again, _, resent, -, asksAgain⟩ := second
  rw [sent] at resent
  simp only [Happening.sent.injEq] at resent
  obtain ⟨rfl, rfl, -⟩ := resent
  refine ⟨rfl, ?_⟩
  rcases asks with ⟨topics, rfl⟩ | rfl | rfl
  · rcases asksAgain with ⟨names, same⟩ | same | same
    · exact (consumerAddress_inj (congrArg Request.path same)).symm
    · exact nomatch congrArg Request.method same
    · exact nomatch congrArg Request.body same
  · rcases asksAgain with ⟨names, same⟩ | same | same
    · exact nomatch congrArg Request.method same
    · exact (Request.pull_inj same).symm
    · exact nomatch congrArg Request.method same
  · rcases asksAgain with ⟨names, same⟩ | same | same
    · exact nomatch congrArg Request.body same
    · exact nomatch congrArg Request.method same
    · exact (consumerAddress_inj (congrArg Request.path same)).symm

/-- No consumer is found lost. -/
def Spared (settings : Settings) (signals : List Event) : Prop :=
  ∀ e ∈ signals, ∀ n consumer, ¬ e.Loses settings n consumer

theorem Spared.append (first : Spared settings signals) (second : Spared settings more) :
    Spared settings (signals ++ more) := List.forall_mem_append.mpr ⟨first, second⟩

/-- What is neither a request nor an answer to one loses nothing. -/
theorem not_loses_of_not_sent (other : ∀ n request answer, e.happening ≠ .sent n request answer) :
    ¬ e.Loses settings n consumer := by
  rintro ⟨request, failure, sent, -⟩
  exact other _ _ _ sent

theorem Event.Repairs.not_loses (repairs : e.Repairs settings) : ¬ e.Loses settings n consumer := by
  rintro ⟨request, failure, sent, -, asks⟩
  have differs : request.table = .existing ∧ request.method ≠ .delete := by
    rcases asks with ⟨topics, rfl⟩ | rfl | rfl
    · exact ⟨rfl, nofun⟩
    · exact ⟨rfl, nofun⟩
    · exact ⟨rfl, nofun⟩
  cases repairs with
  | creation sends =>
    obtain ⟨k, created⟩ := sends
    rw [sent] at created
    cases created
    exact nomatch differs.1
  | deletion sends =>
    obtain ⟨k, deleted⟩ := sends
    rw [sent] at deleted
    cases deleted
    exact differs.2 rfl
  | closed closed => exact nomatch sent.symm.trans closed
  | opened opened => exact nomatch sent.symm.trans opened

theorem Event.Repairs.not_returned (repairs : e.Repairs settings) (answer : Except Failure Value) :
    e.happening ≠ .returned answer := by
  intro back
  cases repairs with
  | creation sends =>
    obtain ⟨k, created⟩ := sends
    exact nomatch back.symm.trans created
  | deletion sends =>
    obtain ⟨k, deleted⟩ := sends
    exact nomatch back.symm.trans deleted
  | closed closed => exact nomatch back.symm.trans closed
  | opened opened => exact nomatch back.symm.trans opened

theorem wished_append : Wished (signals ++ more) ↔ Wished signals ∧ Wished more := by
  constructor
  · intro wished
    exact ⟨fun m wish member => wished m wish (List.mem_append_left _ member),
      fun m wish member => wished m wish (List.mem_append_right _ member)⟩
  · rintro ⟨first, second⟩ m wish member
    rcases List.mem_append.mp member with known | new
    · exact first m wish known
    · exact second m wish new

/-- Where no callback comes back, none has had enough. -/
theorem wished_of_not_returned (quiet : ∀ e ∈ signals, ∀ answer, e.happening ≠ .returned answer) :
    Wished signals := fun _ wish member => absurd rfl (quiet _ member (.ok wish))

end

/-! ## Rounds that fail -/

/-- The topics of a loop are such that a subscription to the names was sent for them. -/
def Sendable (topics : List Value) (names : List String) : Prop :=
  ∃ chosen, wantedTopics (.many topics none) = .ok chosen ∧ Arguments.Texts chosen names

/-- Where a part of a round has come to when it fails: no consumer was found lost, or just now the one that
is held. -/
inductive Strikes (settings : Settings) (topics : List Value) (e : Failure) (d : Chronicle) :
    List Event → Prop where
  | spared (spared : Spared settings signals) : Strikes settings topics e d signals
  | lost {signals : List Event} {loss : Event} {consumer : String} {names : List String}
      (before : Spared settings signals) (loses : loss.Loses settings d.memory.transport consumer)
      (lost : e.class? = some .sessionLost)
      (held : heldConsumer? d.memory.session = some consumer) (active : d.memory.session.active = true)
      (sendable : Sendable topics names) : Strikes settings topics e d (signals ++ [loss])

section
variable {surroundings : Surroundings} {caller : Thread} {settings : Settings} {callback : CallbackId}
  {topics : List Value} {c d later : Chronicle} {m : State} {left : Session String Value}
  {signals more : List Event} {e : Failure} {names : List String}

/-- A loop sends subscriptions to one list of topics only. -/
theorem Sendable.unique {others : List String} (sendable : Sendable topics names)
    (again : Sendable topics others) :
    others = names := by
  obtain ⟨chosen, wanted, texts⟩ := sendable
  obtain ⟨_, rewanted, retexts⟩ := again
  cases wanted.symm.trans rewanted
  exact texts.unique retexts

theorem Strikes.after (first : Spared settings signals) (strikes : Strikes settings topics e d more) :
    Strikes settings topics e d (signals ++ more) := by
  cases strikes with
  | spared spared => exact .spared (first.append spared)
  | lost before loses lost held active sendable =>
    rw [← List.append_assoc]
    exact .lost (first.append before) loses lost held active sendable

/-- A request for the consumer that is held fails: if its session is lost, that is the loss. -/
theorem strikes_sent {api : Api} {request : Request} {consumer : String} {within : State}
    (asks : (∃ topics, request = .subscription settings consumer topics) ∨
      request = .pull settings consumer settings.consumeTimeout ∨ request = .offsets settings consumer)
    (held : heldConsumer? d.memory.session = some consumer) (active : d.memory.session.active = true)
    (sendable : Sendable topics names) :
    Strikes settings topics (e.tag api.name) d [⟨within, .sent d.memory.transport request (.error e)⟩] := by
  by_cases lost : e.class? = some .sessionLost
  · exact .lost (List.forall_mem_nil _) ⟨request, e, rfl, lost, asks⟩ ((class?_tag _).trans lost) held active
      sendable
  · refine .spared (List.forall_mem_singleton.mpr ?_)
    rintro n other ⟨_, failure, sent, isLost, -⟩
    cases sent
    exact lost isLost

theorem spared_of_repairs (repairs : ∀ e ∈ signals, e.Repairs settings) : Spared settings signals :=
  fun e member _ _ => (repairs e member).not_loses

theorem spared_of_not_error {n : Nat} {within : State} {request : Request} (answer : Option String) :
    Spared settings [⟨within, .sent n request (.ok answer)⟩] := by
  refine List.forall_mem_singleton.mpr ?_
  rintro n other ⟨_, failure, sent, -⟩
  cases sent

theorem Subscribes.strikes
    (subscribes : Subscribes surroundings caller settings (.many topics none) m (.error e) left signals)
    (quiet : surroundings.LogsQuietly) (active : m.session.active = true)
    (session : later.memory.session = left) (through : later.memory.transport = m.transport) :
    Strikes settings topics e later signals := by
  generalize same : (Except.error e : Except Failure Unit) = r at subscribes
  have still : later.memory.session.active = true := by
    rw [session]
    exact subscribes.active active
  cases subscribes with
  | topicless refused => exact .spared (List.forall_mem_nil _)
  | uncreated wanted lacking creates => exact .spared (spared_of_repairs creates.repairs)
  | unwritten wanted equips refused => exact .spared (spared_of_repairs equips.repairs)
  | failed wanted texts equips held amid f =>
    cases same
    refine .after (spared_of_repairs equips.repairs) ?_
    rw [← through]
    exact strikes_sent (.inl ⟨_, rfl⟩) (by rw [session, held]) still ⟨_, wanted, texts⟩
  | done wanted texts equips held amid granted =>
    rw [granted quiet] at same
    cases same

/-- Once the topics of a loop are subscribed, no consumer was found lost. -/
theorem Subscribes.spared
    (subscribes : Subscribes surroundings caller settings (.many topics none) m (.ok ()) left signals) :
    Spared settings signals ∧ ∃ names, Sendable topics names := by
  generalize same : (Except.ok () : Except Failure Unit) = r at subscribes
  cases subscribes with
  | done wanted texts equips held amid granted =>
    exact ⟨(spared_of_repairs equips.repairs).append (spared_of_not_error _), _, _, wanted, texts⟩
  | _ => cases same

theorem Consumes.strikes
    (consumes : Consumes surroundings caller settings settings.consumeTimeout m (.error e) left signals)
    (active : m.session.active = true) (session : later.memory.session = left)
    (through : later.memory.transport = m.transport) (sendable : Sendable topics names) :
    Strikes settings topics e later signals := by
  have same := consumes.session_eq
  subst same
  generalize same : (Except.error e : Except Failure Batch) = r at consumes
  cases consumes with
  | failed subscribed held amid f =>
    cases same
    rw [← through]
    exact strikes_sent (.inr (.inl rfl)) (by rw [session, held]) (by rw [session, active]) sendable
  | unread subscribed held amid meaningless misread => exact .spared (spared_of_not_error _)
  | read subscribed held amid denoted granted => exact .spared (spared_of_not_error _)
  | _ => exact .spared (List.forall_mem_nil _)

theorem Consumes.spared {batch : Batch}
    (consumes : Consumes surroundings caller settings settings.consumeTimeout m (.ok batch) left signals) :
    Spared settings signals := by
  generalize same : (Except.ok batch : Except Failure Batch) = r at consumes
  cases consumes with
  | read subscribed held amid denoted granted => exact spared_of_not_error _
  | _ => cases same

theorem Commits.strikes (commits : Commits surroundings caller settings m (.error e) left signals)
    (active : m.session.active = true) (session : later.memory.session = left)
    (through : later.memory.transport = m.transport) (sendable : Sendable topics names) :
    Strikes settings topics e later signals := by
  have same := commits.session_eq
  subst same
  generalize same : (Except.error e : Except Failure Unit) = r at commits
  cases commits with
  | failed manual held amid f =>
    cases same
    rw [← through]
    exact strikes_sent (.inr (.inr rfl)) (by rw [session, held]) (by rw [session, active]) sendable
  | unheld manual absent => exact .spared (List.forall_mem_nil _)
  | _ => cases same

theorem Commits.spared (commits : Commits surroundings caller settings m (.ok ()) left signals) :
    Spared settings signals := by
  generalize same : (Except.ok () : Except Failure Unit) = r at commits
  cases commits with
  | automatic automatic => exact List.forall_mem_nil _
  | sent manual held amid answer => exact spared_of_not_error _
  | _ => cases same

end

/-! ## Rounds -/

/-- What is seen of the first half of a cycle. -/
def Courses (settings : Settings) (topics : List Value) (later : Chronicle) (seen : List Event) :
    Except Failure (Option Bool) → Prop
  | .error e => Strikes settings topics e later seen ∧ Wished seen
  | .ok none => Spared settings seen
  | .ok (some goOn) => Spared settings seen ∧ (∃ names, Sendable topics names) ∧ (goOn = true ↔ Wished seen)

section
variable {surroundings : Surroundings} {caller : Thread} {settings : Settings} {callback : CallbackId}
  {topics : List Value} {c d later : Chronicle} {m : State} {left : Session String Value}
  {signals more : List Event} {e : Failure} {names : List String}

theorem wished_of_repairs (repairs : ∀ e ∈ signals, e.Repairs settings) : Wished signals :=
  wished_of_not_returned fun e member => (repairs e member).not_returned

theorem wished_of_builds {kind : Topics} (builds : ∀ e ∈ signals, e.Builds settings kind) :
    Wished signals := by
  apply wished_of_not_returned
  intro e member answer back
  cases builds e member with
  | repairs repairs => exact repairs.not_returned answer back
  | subscription wanted texts sends =>
    obtain ⟨n, sent⟩ := sends
    exact nomatch sent.symm.trans back

theorem Consumes.wished {timeout : Value} {r : Except Failure Batch}
    (consumes : Consumes surroundings caller settings timeout m r left signals) : Wished signals := by
  apply wished_of_not_returned
  cases consumes with
  | failed subscribed held amid f => exact List.forall_mem_singleton.mpr nofun
  | unread subscribed held amid meaningless misread => exact List.forall_mem_singleton.mpr nofun
  | read subscribed held amid denoted granted => exact List.forall_mem_singleton.mpr nofun
  | _ => exact List.forall_mem_nil _

theorem Commits.wished {r : Except Failure Unit}
    (commits : Commits surroundings caller settings m r left signals) : Wished signals := by
  apply wished_of_not_returned
  cases commits with
  | failed manual held amid f => exact List.forall_mem_singleton.mpr nofun
  | sent manual held amid answer => exact List.forall_mem_singleton.mpr nofun
  | _ => exact List.forall_mem_nil _

theorem Readies.ready {subscribed : Bool}
    (readies : Readies surroundings caller settings topics c subscribed (.ok ()) later)
    (known : subscribed = true → ∃ names, Sendable topics names) :
    ∃ seen, later.signals = c.signals ++ seen ∧ Spared settings seen ∧ Wished seen ∧
      ∃ names, Sendable topics names := by
  cases readies with
  | already =>
    exact ⟨[], by simp, List.forall_mem_nil _, wished_of_not_returned (List.forall_mem_nil _), known rfl⟩
  | subscribing subscribes became =>
    obtain ⟨spared, sendable⟩ := subscribes.spared
    exact ⟨_, became.signals, spared, wished_of_builds subscribes.builds, sendable⟩

/-- A callback comes back after stops at most: no consumer is lost by it. -/
private theorem called_courses {batch : Batch} {consumer : Option String} {answer : Except Failure Value}
    {depth : Nat} (stops : surroundings.OnlyStops)
    (called : surroundings.outside (perform surroundings settings caller depth)
      (.callback callback batch consumer) d = (answer, later)) :
    later.memory.session = d.memory.session ∧ ∃ seen, later.signals = d.signals ++ seen ∧
      Spared settings seen ∧ (Wished seen ↔ ∀ wish, answer = .ok wish → wish.truthy = true) := by
  obtain ⟨session, -, own, n, ended, added⟩ := outside_callback_rests stops depth called
  refine ⟨session, _, added, ?_, ?_, ?_⟩
  · refine List.forall_mem_cons.mpr ⟨fun n other => not_loses_of_not_sent nofun, ?_⟩
    refine List.forall_mem_append.mpr ⟨?_, List.forall_mem_singleton.mpr ?_⟩
    · intro e member n other
      exact not_loses_of_not_sent fun k request reply sent => nomatch (ended e member).symm.trans sent
    · exact fun n other => not_loses_of_not_sent nofun
  · rintro wished wish rfl
    exact wished n wish (by simp)
  · intro wishes m wish member
    rcases List.mem_cons.mp member with here | within
    · cases here
    · rcases List.mem_append.mp within with moved | last
      · exact nomatch ended _ moved
      · cases List.mem_singleton.mp last
        exact wishes wish rfl

theorem Fetches.courses {depth : Nat} {subscribed : Bool} {r : Except Failure (Option Bool)}
    (fetches : Fetches surroundings caller settings (perform surroundings settings caller depth) callback
      topics c subscribed r later)
    (quiet : surroundings.LogsQuietly) (stops : surroundings.OnlyStops)
    (active : c.memory.session.active = true)
    (known : subscribed = true → ∃ names, Sendable topics names) :
    ∃ seen, later.signals = c.signals ++ seen ∧ Courses settings topics later seen r := by
  have handed {d k : Chronicle} {batch : Batch} {left : Session String Value} {signals : List Event}
      {answer : Except Failure Value}
      (readies : Readies surroundings caller settings topics c subscribed (.ok ()) d)
      (consumes : Consumes surroundings caller settings settings.consumeTimeout d.memory (.ok batch) left
        signals)
      (pulled : d.Becomes surroundings left d.memory.context signals k)
      (called : surroundings.outside (perform surroundings settings caller depth)
        (.callback callback batch left.consumer) k = (answer, later)) :
      ∃ seen, later.signals = c.signals ++ seen ∧ Spared settings seen ∧ (∃ names, Sendable topics names) ∧
        later.memory.session.active = true ∧ (Wished seen ↔ ∀ wish, answer = .ok wish → wish.truthy = true) := by
    obtain ⟨before, first, spared, wished, sendable⟩ := readies.ready known
    obtain ⟨session, own, last, silent, wishes⟩ := called_courses stops called
    refine ⟨before ++ signals ++ own, ?_, (spared.append consumes.spared).append silent, sendable, ?_, ?_⟩
    · rw [last, pulled.signals, first]
      simp
    · rw [session, pulled.state.session, consumes.session_eq]
      exact readies.active active
    · rw [wished_append, wished_append, wishes]
      exact ⟨fun all => all.2, fun wishes => ⟨⟨wished, consumes.wished⟩, wishes⟩⟩
  cases fetches with
  | unready readies =>
    cases readies with
    | subscribing subscribes became =>
      refine ⟨_, became.signals, ?_, wished_of_builds subscribes.builds⟩
      exact subscribes.strikes quiet active became.state.session became.state.transport
  | stopped readies asked =>
    obtain ⟨before, first, spared, -⟩ := readies.ready known
    exact ⟨before, first, spared⟩
  | unpulled readies consumes pulled =>
    obtain ⟨before, first, spared, wished, names, sendable⟩ := readies.ready known
    refine ⟨before ++ _, by rw [pulled.signals, first, List.append_assoc], .after spared ?_,
      wished_append.mpr ⟨wished, consumes.wished⟩⟩
    exact consumes.strikes (readies.active active) pulled.state.session pulled.state.transport sendable
  | raised readies consumes pulled called =>
    obtain ⟨seen, added, spared, -, -, wishes⟩ := handed readies consumes pulled called
    exact ⟨seen, added, .spared spared, wishes.mpr nofun⟩
  | handled readies consumes pulled called =>
    obtain ⟨seen, added, spared, sendable, still, wishes⟩ := handed readies consumes pulled called
    rw [still]
    refine ⟨seen, added, spared, sendable, ?_⟩
    rw [wishes]
    exact ⟨fun truthy wish same => by cases same; exact truthy, fun all => all _ rfl⟩

end

/-! ## Building the session anew -/

section
variable {surroundings : Surroundings} {caller : Thread} {settings : Settings} {c d later : Chronicle}
  {m : State} {left : Session String Value} {signals seen : List Event} {consumer body : String}
  {r : Except Failure Unit} {n : Nat}

theorem deletionResult_ok {answer : Except Failure (Option String)} (well : deletionResult answer = .ok ()) :
    Deleted answer := by
  cases answer with
  | ok text => exact .inl ⟨text, rfl⟩
  | error e =>
    by_cases lost : e.class? = some .sessionLost
    · exact .inr ⟨e, rfl, lost⟩
    · simp [deletionResult, lost] at well

theorem deletionResult_error {answer : Except Failure (Option String)} {e : Failure}
    (ill : deletionResult answer = .error e) :
    ∃ f, answer = .error f ∧ f.class? ≠ some .sessionLost ∧ e = f.tag Api.delete.name := by
  cases answer with
  | ok text => cases ill
  | error f =>
    by_cases lost : f.class? = some .sessionLost
    · simp [deletionResult, lost] at ill
    · simp only [deletionResult, lost, ↓reduceIte, Except.error.injEq] at ill
      exact ⟨f, rfl, lost, ill.symm⟩

/-- Deleting a consumer that is held is one request. -/
theorem Deletes.sends (deletes : Deletes surroundings caller settings m r left signals)
    (dependable : surroundings.Dependable) (held : heldConsumer? m.session = some consumer) :
    left = .fresh ∧ ∃ within answer, r = deletionResult answer ∧
      signals = [⟨within, .sent m.transport (.deletion settings consumer) answer⟩] := by
  cases deletes with
  | unheld absent => cases held.symm.trans absent
  | sent holds amid settled =>
    cases held.symm.trans holds
    exact ⟨rfl, _, _, settled dependable, rfl⟩

/-- Creating a consumer is one request if its body can be written, and makes the consumer that the service
names. -/
theorem Creates.asks (creates : Creates surroundings caller settings m r left signals)
    (dependable : surroundings.Dependable) (grouped : settings.group.truthy = true)
    (written : creationBody settings = .ok body) :
    ∃ within reply, signals = [⟨within, .sent m.transport (.creation settings body) reply⟩] ∧
      (surroundings.Undisturbed → within.flags = m.flags) ∧
      ((∃ other, Names reply other ∧ r = .ok () ∧ left = ⟨some other, [], true⟩) ∨
        (∀ other, ¬ Names reply other) ∧ ∃ e, r = .error e ∧ left = .fresh) := by
  cases creates with
  | groupless missing => exact nomatch grouped.symm.trans missing
  | unsent e reason => exact nomatch written.symm.trans (reason dependable)
  | failed known amid e =>
    cases written.symm.trans known
    refine ⟨_, _, rfl, amid.flags, .inr ⟨?_, _, rfl, rfl⟩⟩
    rintro other ⟨text, same, -⟩
    cases same
  | unread known amid meaningless misread =>
    cases written.symm.trans known
    refine ⟨_, _, rfl, amid.flags, .inr ⟨?_, _, rfl, rfl⟩⟩
    rintro other ⟨text, same, denotes⟩
    cases same
    exact meaningless _ denotes
  | made known amid named granted =>
    cases written.symm.trans known
    exact ⟨_, _, rfl, amid.flags, .inl ⟨_, ⟨_, rfl, named⟩, granted dependable.logs, rfl⟩⟩

/-- What building the session of a lost consumer anew comes to, and what is seen of it. -/
inductive Restores (surroundings : Surroundings) (settings : Settings) (n : Nat) (consumer : String)
    (later : Chronicle) : Except Failure Unit → List Event → Prop where
  | undeleted {m : State} {e f : Failure} (other : e.class? ≠ some .sessionLost) :
      Restores surroundings settings n consumer later (.error f)
        [⟨m, .sent n (.deletion settings consumer) (.error e)⟩]
  | uncreated {m k l o : State} {answer reply : Except Failure (Option String)} {fresh : Nat} {body : String}
      {f : Failure} (deleted : Deleted answer) (nameless : ∀ other, ¬ Names reply other) :
      Restores surroundings settings n consumer later (.error f)
        [⟨m, .sent n (.deletion settings consumer) answer⟩, ⟨k, .closed n (.ok ())⟩, ⟨l, .opened (.ok fresh)⟩,
          ⟨o, .sent fresh (.creation settings body) reply⟩]
  | rebuilt {m k l o : State} {answer reply : Except Failure (Option String)} {fresh : Nat}
      {body other : String}
      (deleted : Deleted answer) (named : Names reply other)
      (session : later.memory.session = ⟨some other, [], true⟩) (through : later.memory.transport = fresh)
      (flags : surroundings.Undisturbed → later.memory.flags = o.flags) :
      Restores surroundings settings n consumer later (.ok ())
        [⟨m, .sent n (.deletion settings consumer) answer⟩, ⟨k, .closed n (.ok ())⟩, ⟨l, .opened (.ok fresh)⟩,
          ⟨o, .sent fresh (.creation settings body) reply⟩]

theorem Restores.repairs (restores : Restores surroundings settings n consumer later r seen) :
    ∀ e ∈ seen, e.Repairs settings := by
  have rebuilding {m k l o : State} {answer reply : Except Failure (Option String)} {fresh : Nat}
      {body : String} :
      ∀ e ∈ ([⟨m, .sent n (.deletion settings consumer) answer⟩, ⟨k, .closed n (.ok ())⟩,
        ⟨l, .opened (.ok fresh)⟩, ⟨o, .sent fresh (.creation settings body) reply⟩] : List Event),
          e.Repairs settings := by
    refine List.forall_mem_cons.mpr ⟨.deletion ⟨_, rfl⟩, List.forall_mem_cons.mpr ⟨.closed rfl, ?_⟩⟩
    exact List.forall_mem_cons.mpr ⟨.opened rfl, List.forall_mem_singleton.mpr (.creation ⟨_, rfl⟩)⟩
  cases restores with
  | undeleted other => exact List.forall_mem_singleton.mpr (.deletion ⟨_, rfl⟩)
  | uncreated deleted nameless => exact rebuilding
  | rebuilt deleted named session through flags => exact rebuilding

theorem Recreates.restores (recreates : Recreates surroundings caller settings c r later)
    (dependable : surroundings.Dependable) (grouped : settings.group.truthy = true)
    (written : creationBody settings = .ok body) (active : c.memory.session.active = true)
    (held : heldConsumer? c.memory.session = some consumer) :
    ∃ seen, later.signals = c.signals ++ seen ∧
      Restores surroundings settings c.memory.transport consumer later r seen := by
  cases recreates with
  | destroyed passed inactive => exact nomatch active.symm.trans inactive
  | undeleted passed _ deletes deleted =>
    obtain ⟨-, within, answer, result, rfl⟩ :=
      deletes.sends dependable (by rwa [passed.state.session])
    obtain ⟨f, rfl, other, -⟩ := deletionResult_error result.symm
    have added := deleted.signals
    rw [passed.signals, passed.state.transport, List.append_nil] at added
    exact ⟨_, added, .undeleted other⟩
  | unclosed passed _ deletes deleted closed careless => exact absurd dependable careless
  | unopened passed _ deletes deleted closed opened careless => exact absurd dependable careless
  | rebuilt passed _ deletes deleted closed opened creates created =>
    obtain ⟨-, within, answer, result, rfl⟩ :=
      deletes.sends dependable (by rwa [passed.state.session])
    obtain ⟨amid, reply, rfl, flags, comes⟩ := creates.asks dependable grouped written
    have added := created.signals
    rw [signals_remember, opened.signals, closed.signals, deleted.signals, passed.signals] at added
    simp only [List.append_nil, List.append_assoc, List.cons_append, List.nil_append] at added
    refine ⟨_, added, ?_⟩
    rw [deleted.state.transport, passed.state.transport]
    rcases comes with ⟨other, named, rfl, rfl⟩ | ⟨nameless, e, rfl, rfl⟩
    · refine .rebuilt (deletionResult_ok result.symm) named created.state.session created.state.transport ?_
      intro calm
      rw [created.state.flags calm, flags calm]
      rfl
    · exact .uncreated (deletionResult_ok result.symm) nameless

end

/-! ## Rounds with losses -/

/-- What a round comes to: no consumer is found lost, or one is and its session built anew. -/
inductive Weathers (surroundings : Surroundings) (settings : Settings) (topics : List Value)
    (later : Chronicle) :
    Except Failure LoopState → List Event → Prop where
  | spared (spared : Spared settings seen)
      (goes : ∀ next, r = .ok next → next.goOn = true →
        Wished seen ∧ (next.subscribed = true → ∃ names, Sendable topics names)) :
      Weathers surroundings settings topics later r seen
  | struck {signals rest : List Event} {loss : Event} {n : Nat} {consumer : String} {names : List String}
      {goOn : Bool} {r : Except Failure Unit} (before : Spared settings signals)
      (loses : loss.Loses settings n consumer)
      (sendable : Sendable topics names) (wishes : goOn = true ↔ Wished signals)
      (restores : Restores surroundings settings n consumer later r rest) :
      Weathers surroundings settings topics later
        (r.map fun _ => ⟨false, goOn && settings.retryOnFail.truthy⟩) (signals ++ loss :: rest)

section
variable {surroundings : Surroundings} {caller : Thread} {settings : Settings} {callback : CallbackId}
  {topics : List Value} {c d later : Chronicle} {signals seen : List Event} {e : Failure} {body : String}
  {depth rounds n : Nat}

theorem Recovers.next_eq {goOn : Bool} {next : LoopState}
    (recovers : Recovers surroundings caller settings goOn e c (.ok next) later) :
    next = ⟨false, goOn && settings.retryOnFail.truthy⟩ := by
  generalize same : (Except.ok next : Except Failure LoopState) = r at recovers
  cases recovers with
  | foreign other => cases same
  | @lost r _ lost recreates =>
    cases r with
    | ok _ => exact Except.ok.inj same
    | error e => cases same
  | @fatal r _ fatal cleans => cases r <;> cases same

theorem Recovers.weathers {goOn : Bool} {r : Except Failure LoopState}
    (recovers : Recovers surroundings caller settings goOn e d r later) (dependable : surroundings.Dependable)
    (grouped : settings.group.truthy = true) (written : creationBody settings = .ok body)
    (strikes : Strikes settings topics e d signals) (wishes : goOn = true ↔ Wished signals) :
    ∃ rest, later.signals = d.signals ++ rest ∧
      Weathers surroundings settings topics later r (signals ++ rest) := by
  cases strikes with
  | spared spared =>
    obtain ⟨rest, added, repairs⟩ := recovers.repairs
    refine ⟨rest, added, .spared (spared.append (spared_of_repairs repairs)) ?_⟩
    rintro next rfl going
    cases recovers.next_eq
    have wished : Wished signals := wishes.mp (Bool.and_eq_true_iff.mp going).1
    exact ⟨wished_append.mpr ⟨wished, wished_of_repairs repairs⟩, nofun⟩
  | @lost before loss consumer names spared loses lost held active sendable =>
    cases recovers with
    | foreign other => simp [lost] at other
    | fatal fatal cleans => simp [lost] at fatal
    | lost _ recreates =>
      obtain ⟨rest, added, restores⟩ := recreates.restores dependable grouped written active held
      refine ⟨rest, added, ?_⟩
      rw [List.append_assoc]
      refine .struck spared loses sendable ?_ restores
      have silent : Wished [loss] := by
        apply wished_of_not_returned
        obtain ⟨request, failure, sent, -⟩ := loses
        exact List.forall_mem_singleton.mpr fun answer back => nomatch sent.symm.trans back
      rw [wishes, wished_append]
      exact ⟨And.left, fun wished => ⟨wished, silent⟩⟩

theorem Cycles.weathers {subscribed : Bool} {r : Except Failure LoopState}
    (cycles : Cycles surroundings caller settings (perform surroundings settings caller depth) callback
      topics c subscribed r later)
    (dependable : surroundings.Dependable) (stops : surroundings.OnlyStops)
    (grouped : settings.group.truthy = true) (written : creationBody settings = .ok body)
    (active : c.memory.session.active = true) (known : subscribed = true → ∃ names, Sendable topics names) :
    ∃ seen, later.signals = c.signals ++ seen ∧ Weathers surroundings settings topics later r seen := by
  cases cycles with
  | failed fetches recovers =>
    obtain ⟨seen, added, strikes, wished⟩ := fetches.courses dependable.logs stops active known
    obtain ⟨rest, more, weathers⟩ := recovers.weathers dependable grouped written strikes (by simpa using wished)
    exact ⟨seen ++ rest, by rw [more, added, List.append_assoc], weathers⟩
  | ended fetches =>
    obtain ⟨seen, added, spared⟩ := fetches.courses dependable.logs stops active known
    refine ⟨seen, added, .spared spared ?_⟩
    rintro next ⟨⟩ going
    cases going
  | committed fetches commits became =>
    obtain ⟨seen, added, spared, sendable, wishes⟩ := fetches.courses dependable.logs stops active known
    refine ⟨seen ++ _, by rw [became.signals, added, List.append_assoc],
      .spared (spared.append commits.spared) ?_⟩
    rintro next ⟨⟩ going
    exact ⟨wished_append.mpr ⟨wishes.mp going, commits.wished⟩, fun _ => sendable⟩
  | uncommitted fetches commits became recovers =>
    obtain ⟨seen, added, spared, ⟨names, sendable⟩, wishes⟩ :=
      fetches.courses dependable.logs stops active known
    have strikes := commits.strikes fetches.active became.state.session became.state.transport sendable
    have wishing := wishes.trans (iff_self_and.mpr fun _ => commits.wished)
    obtain ⟨rest, more, weathers⟩ := recovers.weathers dependable grouped written (strikes.after spared)
      (wishing.trans wished_append.symm)
    refine ⟨seen ++ _ ++ rest, ?_, weathers⟩
    rw [more, became.signals, added, List.append_assoc, List.append_assoc, List.append_assoc]

/-- With a consumer that is held and topics to be subscribed, a round begins with their subscription. -/
theorem Readies.subscribes {names : List String} {consumer : String} {r : Except Failure Unit}
    (readies : Readies surroundings caller settings topics c false r later)
    (held : heldConsumer? c.memory.session = some consumer) (sendable : Sendable topics names) :
    ∃ within answer, later.signals = c.signals ++
      [⟨within, .sent c.memory.transport (.subscription settings consumer names) answer⟩] := by
  cases readies with
  | subscribing subscribes became =>
    have holding : c.memory.session.hasConsumer = true := by rw [hasConsumer_eq_isSome, held]; rfl
    have equipped {session : Session String Value} {signals : List Event}
        (equips : Equips surroundings caller settings c.memory session signals) :
        session = c.memory.session ∧ signals = [] := by
      cases equips with
      | held holding => exact ⟨rfl, rfl⟩
      | created lacking creates => exact nomatch holding.symm.trans lacking
    obtain ⟨chosen, wants, texts⟩ := sendable
    cases subscribes with
    | topicless refused => exact nomatch wants.symm.trans refused
    | uncreated wanted lacking creates => exact nomatch holding.symm.trans lacking
    | unwritten wanted equips refused =>
      cases wanted.symm.trans wants
      exact nomatch (TopicsBody.ofArguments_eq_ok_iff.mpr texts).symm.trans refused
    | failed wanted retexts equips holds amid f =>
      obtain ⟨rfl, rfl⟩ := equipped equips
      cases held.symm.trans holds
      cases wanted.symm.trans wants
      cases texts.unique retexts
      exact ⟨_, _, became.signals⟩
    | done wanted retexts equips holds amid granted =>
      obtain ⟨rfl, rfl⟩ := equipped equips
      cases held.symm.trans holds
      cases wanted.symm.trans wants
      cases texts.unique retexts
      exact ⟨_, _, became.signals⟩

end

/-! ## Loops -/

/-- A subscription to topics is asked for. -/
def Event.AsksFor (settings : Settings) (e : Event) (names : List String) : Prop :=
  ∃ consumer answer, e.Sends (.subscription settings consumer names) answer

section
variable {surroundings : Surroundings} {caller : Thread} {settings : Settings} {callback : CallbackId}
  {topics : List Value} {c d later : Chronicle} {signals seen : List Event} {body : String}
  {depth rounds n : Nat}

theorem Event.Repairs.asks_for_none {e : Event} (repairs : e.Repairs settings) (names : List String) :
    ¬ e.AsksFor settings names := by
  rintro ⟨consumer, answer, n, sent⟩
  cases repairs with
  | creation sends =>
    obtain ⟨k, created⟩ := sends
    have same := sent.symm.trans created
    simp only [Happening.sent.injEq] at same
    exact nomatch congrArg Request.table same.2.1
  | deletion sends =>
    obtain ⟨k, deleted⟩ := sends
    have same := sent.symm.trans deleted
    simp only [Happening.sent.injEq] at same
    exact nomatch congrArg Request.method same.2.1
  | closed closed => exact nomatch sent.symm.trans closed
  | opened opened => exact nomatch sent.symm.trans opened

theorem asks_for_none_of_not_sent {e : Event}
    (other : ∀ n request answer, e.happening ≠ .sent n request answer)
    (names : List String) : ¬ e.AsksFor settings names := by
  rintro ⟨consumer, answer, n, sent⟩
  exact other _ _ _ sent

theorem asks_for_none_of_bodiless {within : State} {request : Request}
    {answer : Except Failure (Option String)}
    (bodiless : request.body = none) (names : List String) :
    ¬ Event.AsksFor settings ⟨within, .sent n request answer⟩ names := by
  rintro ⟨consumer, another, sends⟩
  rw [← sends.request.1] at bodiless
  cases bodiless

/-- What is seen of a round after its topics are subscribed: no further subscription, and pulls only for the
consumer that is held and subscribed. -/
structure Event.Proceeds (settings : Settings) (e : Event) : Prop where
  subscribes : ∀ names, ¬ e.AsksFor settings names
  pulls : ∀ consumer answer, e.Sends (.pull settings consumer settings.consumeTimeout) answer →
    e.memory.session.isSubscribed = true ∧ heldConsumer? e.memory.session = some consumer

theorem Event.Repairs.proceeds {e : Event} (repairs : e.Repairs settings) : e.Proceeds settings :=
  ⟨repairs.asks_for_none, fun _ _ sends => absurd ⟨_, _, _, sends⟩ repairs.plain.not_pull⟩

theorem proceeds_of_not_sent {e : Event} (other : ∀ n request answer, e.happening ≠ .sent n request answer) :
    e.Proceeds settings :=
  ⟨asks_for_none_of_not_sent other, fun _ _ ⟨_, sent⟩ => absurd sent (other _ _ _)⟩

theorem Consumes.proceeds {m : State} {left : Session String Value} {r : Except Failure Batch}
    (consumes : Consumes surroundings caller settings settings.consumeTimeout m r left signals) :
    ∀ e ∈ signals, e.Proceeds settings := by
  have pull {consumer : String} {within : State} {answer : Except Failure (Option String)}
      (subscribed : m.session.isSubscribed = true) (held : heldConsumer? m.session = some consumer)
      (amid : m.Amid surroundings caller settings .consume m.session within) :
      Event.Proceeds settings
        ⟨within, .sent m.transport (.pull settings consumer settings.consumeTimeout) answer⟩ := by
    refine ⟨asks_for_none_of_bodiless rfl, ?_⟩
    intro other another sends
    cases Request.pull_inj sends.request.1
    rw [amid.session]
    exact ⟨subscribed, held⟩
  cases consumes with
  | failed subscribed held amid f => exact List.forall_mem_singleton.mpr (pull subscribed held amid)
  | unread subscribed held amid meaningless misread =>
    exact List.forall_mem_singleton.mpr (pull subscribed held amid)
  | read subscribed held amid denoted granted => exact List.forall_mem_singleton.mpr (pull subscribed held amid)
  | _ => exact List.forall_mem_nil _

theorem Commits.proceeds {m : State} {left : Session String Value} {r : Except Failure Unit}
    (commits : Commits surroundings caller settings m r left signals) :
    ∀ e ∈ signals, e.Proceeds settings := by
  have offsets {within : State} {consumer : String} {answer : Except Failure (Option String)} :
      Event.Proceeds settings ⟨within, .sent m.transport (.offsets settings consumer) answer⟩ := by
    refine ⟨asks_for_none_of_bodiless rfl, ?_⟩
    intro other another sends
    exact absurd ⟨_, _, _, sends⟩ (Event.IsCommit.not_pull ⟨consumer, answer, _, rfl⟩)
  cases commits with
  | failed manual held amid f => exact List.forall_mem_singleton.mpr offsets
  | sent manual held amid text => exact List.forall_mem_singleton.mpr offsets
  | _ => exact List.forall_mem_nil _

theorem Fetches.readied {subscribed : Bool} {r : Except Failure (Option Bool)}
    (fetches : Fetches surroundings caller settings (perform surroundings settings caller depth) callback
      topics c subscribed r later) (stops : surroundings.OnlyStops) :
    ∃ result d, Readies surroundings caller settings topics c subscribed result d ∧
      d.Adds (Event.Proceeds settings) later := by
  have calls {k : Chronicle} {batch : Batch} {consumer : Option String} {answer : Except Failure Value}
      (called : surroundings.outside (perform surroundings settings caller depth)
        (.callback callback batch consumer) k = (answer, later)) :
      k.Adds (Event.Proceeds settings) later := by
    obtain ⟨-, -, own, n, ended, added⟩ := outside_callback_rests stops depth called
    refine ⟨_, added, List.forall_mem_cons.mpr ⟨proceeds_of_not_sent nofun, ?_⟩⟩
    refine List.forall_mem_append.mpr ⟨?_, List.forall_mem_singleton.mpr (proceeds_of_not_sent nofun)⟩
    intro e member
    exact proceeds_of_not_sent fun n request answer sent => nomatch (ended e member).symm.trans sent
  cases fetches with
  | unready readies => exact ⟨_, _, readies, .none rfl⟩
  | stopped readies asked => exact ⟨_, _, readies, .none rfl⟩
  | unpulled readies consumes pulled => exact ⟨_, _, readies, pulled.adds consumes.proceeds⟩
  | raised readies consumes pulled called =>
    exact ⟨_, _, readies, (pulled.adds consumes.proceeds).trans (calls called)⟩
  | handled readies consumes pulled called =>
    exact ⟨_, _, readies, (pulled.adds consumes.proceeds).trans (calls called)⟩

theorem Cycles.readied {subscribed : Bool} {r : Except Failure LoopState}
    (cycles : Cycles surroundings caller settings (perform surroundings settings caller depth) callback
      topics c subscribed r later) (stops : surroundings.OnlyStops) :
    ∃ result d, Readies surroundings caller settings topics c subscribed result d ∧
      d.Adds (Event.Proceeds settings) later := by
  cases cycles with
  | failed fetches recovers =>
    obtain ⟨result, k, readies, rest⟩ := fetches.readied stops
    exact ⟨result, k, readies, rest.trans (recovers.repairs.weaken fun _ => Event.Repairs.proceeds)⟩
  | ended fetches => exact fetches.readied stops
  | committed fetches commits became =>
    obtain ⟨result, k, readies, rest⟩ := fetches.readied stops
    exact ⟨result, k, readies, rest.trans (became.adds commits.proceeds)⟩
  | uncommitted fetches commits became recovers =>
    obtain ⟨result, k, readies, rest⟩ := fetches.readied stops
    exact ⟨result, k, readies, (rest.trans (became.adds commits.proceeds)).trans
      (recovers.repairs.weaken fun _ => Event.Repairs.proceeds)⟩

/-- What is seen of a loop: subscriptions only to its topics, and pulls only for the consumer that is held
and subscribed. -/
structure Event.Carries (settings : Settings) (topics : List Value) (e : Event) : Prop where
  subscribes : (∃ names, e.AsksFor settings names) → ∃ names, e.AsksFor settings names ∧ Sendable topics names
  pulls : ∀ consumer answer, e.Sends (.pull settings consumer settings.consumeTimeout) answer →
    e.memory.session.isSubscribed = true ∧ heldConsumer? e.memory.session = some consumer

theorem Event.Proceeds.carries {e : Event} (proceeds : e.Proceeds settings) : e.Carries settings topics :=
  ⟨fun ⟨names, asks⟩ => absurd asks (proceeds.subscribes names), proceeds.pulls⟩

theorem Event.Builds.carries {e : Event} (builds : e.Builds settings (.many topics none)) :
    e.Carries settings topics := by
  refine ⟨?_, fun _ _ sends => absurd ⟨_, _, _, sends⟩ builds.plain.not_pull⟩
  rintro ⟨names, asks⟩
  cases builds with
  | repairs repairs => exact absurd asks (repairs.asks_for_none names)
  | subscription wanted texts sends => exact ⟨_, ⟨_, _, sends⟩, _, wanted, texts⟩

theorem Loops.carries {state : LoopState} {r : Except Failure Unit}
    (loops : Loops surroundings caller settings (perform surroundings settings caller depth) callback topics
      rounds state c r later) (stops : surroundings.OnlyStops) :
    c.Adds (Event.Carries settings topics) later := by
  have round {c d : Chronicle} {subscribed : Bool} {r : Except Failure LoopState}
      (cycles : Cycles surroundings caller settings (perform surroundings settings caller depth) callback topics
        c subscribed r d) : c.Adds (Event.Carries settings topics) d := by
    obtain ⟨result, k, readies, rest⟩ := cycles.readied stops
    exact (readies.builds.weaken fun _ => Event.Builds.carries).trans
      (rest.weaken fun _ => Event.Proceeds.carries)
  induction loops with
  | done ended => exact .none rfl
  | exhausted going free => exact .none rfl
  | broken going free cycles => exact round cycles
  | next going free cycles loops ih => exact (round cycles).trans ih

/-- A loop with a new consumer subscribes it or ends. -/
theorem Loops.resumes {goOn : Bool} {r : Except Failure Unit} {consumer : String} {names : List String}
    {past rest : List Event} {m : State}
    (loops : Loops surroundings caller settings (perform surroundings settings caller depth) callback topics
      rounds ⟨false, goOn && settings.retryOnFail.truthy⟩ c r later)
    (stops : surroundings.OnlyStops) (held : heldConsumer? c.memory.session = some consumer)
    (sendable : Sendable topics names) (wishes : goOn = true ↔ Wished past)
    (flags : surroundings.Undisturbed → c.memory.flags = m.flags)
    (added : later.signals = c.signals ++ rest) :
    Resumes surroundings settings r past c.memory.transport consumer m rest := by
  have round {d : Chronicle} {r : Except Failure LoopState} {more : List Event}
      (cycles : Cycles surroundings caller settings (perform surroundings settings caller depth) callback topics
        c false r d) (goes : later.signals = d.signals ++ more) : ∃ k topics answer more,
          rest = ⟨k, .sent c.memory.transport (.subscription settings consumer topics) answer⟩ :: more := by
    obtain ⟨result, k, readies, others, follows, -⟩ := cycles.readied stops
    obtain ⟨within, answer, subscribes⟩ := readies.subscribes held sendable
    refine ⟨within, names, answer, others ++ more, ?_⟩
    rw [goes, follows, subscribes, List.append_assoc, List.append_assoc] at added
    exact (List.append_cancel_left added).symm
  have ends (going : (goOn && settings.retryOnFail.truthy) = true)
      (free : c.memory.flags.stopRequested = false) :
      ¬ (settings.retryOnFail.truthy = false ∨ ¬ Wished past ∨
        surroundings.Undisturbed ∧ m.flags.stopRequested = true) := by
    obtain ⟨goOn, retry⟩ := Bool.and_eq_true_iff.mp going
    rintro (never | enough | ⟨calm, asked⟩)
    · exact nomatch retry.symm.trans never
    · exact enough (wishes.mp goOn)
    · rw [flags calm, asked] at free
      cases free
  have silent (same : later = c) : rest = [] := by
    rw [same] at added
    exact List.self_eq_append_right.mp added
  cases loops with
  | done ended =>
    refine ⟨.inl (silent rfl), ?_, fun _ => ⟨silent rfl, rfl⟩⟩
    intro retry wished calm free
    rcases ended with ended | asked
    · simp [wishes.mpr wished, retry] at ended
    · rw [flags calm, free] at asked
      cases asked
  | exhausted going free =>
    exact ⟨.inl (silent rfl), fun _ _ _ _ known => absurd rfl known,
      fun ended => absurd ended (ends going free)⟩
  | broken going free cycles =>
    obtain ⟨k, topics, answer, more, rfl⟩ := round cycles (List.append_nil _).symm
    exact ⟨.inr ⟨k, topics, answer, more, rfl⟩, fun _ _ _ _ _ => List.cons_ne_nil _ _,
      fun ended => absurd ended (ends going free)⟩
  | next going free cycles loops =>
    obtain ⟨others, goes, -⟩ := loops.carries stops
    obtain ⟨k, topics, answer, more, rfl⟩ := round cycles goes
    exact ⟨.inr ⟨k, topics, answer, more, rfl⟩, fun _ _ _ _ _ => List.cons_ne_nil _ _,
      fun ended => absurd ended (ends going free)⟩

end

/-! ## Runs -/

section
variable {surroundings : Surroundings} {caller : Thread} {settings : Settings} {callback : CallbackId}
  {topics : List Value} {c later : Chronicle} {signals rest past future : List Event} {loss other : Event}
  {consumer body : String} {depth rounds n : Nat}

/-- Among signals with one loss in them, that is the place of any loss. -/
theorem loss_position (before : Spared settings signals) (after : Spared settings rest)
    (loses : other.Loses settings n consumer) (same : signals ++ loss :: rest = past ++ other :: future) :
    past = signals ∧ other = loss ∧ future = rest := by
  rcases split_append same with ⟨more, rfl, -⟩ | ⟨more, rfl, tail⟩
  · exact absurd loses (before other (by simp) n consumer)
  · rcases List.cons_eq_append_iff.mp tail with ⟨rfl, here⟩ | ⟨others, rfl, beyond⟩
    · cases here
      exact ⟨by simp, rfl, rfl⟩
    · exact absurd loses (after other (by simp [beyond]) n consumer)

/-- The service cannot name a consumer with an empty text. -/
theorem Names.filled {reply : Except Failure (Option String)} (named : Names reply consumer) :
    consumer ≠ "" := by
  obtain ⟨_, -, text, -, -, read⟩ := named
  exact CreatedConsumer.id_ne_empty read

theorem Restores.rebuilds_of_error {e : Failure} {result : Except Failure Unit}
    (restores : Restores surroundings settings n consumer later (.error e) rest) :
    Rebuilds surroundings settings result past n consumer rest := by
  cases restores with
  | undeleted other => exact .undeleted other
  | uncreated deleted nameless => exact .uncreated deleted nameless

/-- A loop that goes on with a session built anew resumes its work. -/
theorem Loops.rebuilds_of_ok {goOn : Bool} {r : Except Failure Unit} {names : List String} {more : List Event}
    (loops : Loops surroundings caller settings (perform surroundings settings caller depth) callback topics
      rounds ⟨false, goOn && settings.retryOnFail.truthy⟩ c r later)
    (stops : surroundings.OnlyStops) (restores : Restores surroundings settings n consumer c (.ok ()) rest)
    (sendable : Sendable topics names) (wishes : goOn = true ↔ Wished past)
    (added : later.signals = c.signals ++ more) :
    Rebuilds surroundings settings r past n consumer (rest ++ more) := by
  cases restores with
  | rebuilt deleted named session through flags =>
    have held := heldConsumer?_eq_some.mpr ⟨congrArg Session.consumer session, named.filled⟩
    have resumes := loops.resumes stops held sendable wishes flags added
    rw [through] at resumes
    exact .rebuilt deleted named resumes

theorem Loops.rebuilds {state : LoopState} {r : Except Failure Unit}
    (loops : Loops surroundings caller settings (perform surroundings settings caller depth) callback topics
      rounds state c r later)
    (dependable : surroundings.Dependable) (stops : surroundings.OnlyStops)
    (grouped : settings.group.truthy = true) (written : creationBody settings = .ok body)
    (active : state.goOn = true → c.memory.session.active = true)
    (known : state.goOn = true → state.subscribed = true → ∃ names, Sendable topics names)
    (past : List Event) (wished : state.goOn = true → Wished past) :
    ∃ seen, later.signals = c.signals ++ seen ∧
      ∀ before loss after n consumer, seen = before ++ loss :: after → loss.Loses settings n consumer →
        Rebuilds surroundings settings r (past ++ before) n consumer after := by
  induction loops generalizing past with
  | done ended => exact ⟨[], by simp, fun before loss after n consumer none => by simp at none⟩
  | exhausted going free => exact ⟨[], by simp, fun before loss after n consumer none => by simp at none⟩
  | @broken c e later rounds state going free cycles =>
    obtain ⟨seen, added, weathers⟩ :=
      cycles.weathers dependable stops grouped written (active going) (known going)
    refine ⟨seen, added, ?_⟩
    intro before loss after n consumer same loses
    generalize failed : (Except.error e : Except Failure LoopState) = result at weathers
    cases weathers with
    | spared spared goes => exact absurd loses (spared loss (by simp [same]) n consumer)
    | @struck signals rest loss n consumer names goOn r spared first sendable wishes restores =>
      obtain ⟨rfl, rfl, rfl⟩ := loss_position spared (spared_of_repairs restores.repairs) loses same
      obtain ⟨rfl, rfl⟩ := first.unique loses
      cases r with
      | ok _ => cases failed
      | error f => exact restores.rebuilds_of_error
  | @next c after d rounds r later state going free cycles loops ih =>
    obtain ⟨seen, added, weathers⟩ :=
      cycles.weathers dependable stops grouped written (active going) (known going)
    have wished := wished going
    generalize went : (Except.ok after : Except Failure LoopState) = result at weathers
    cases weathers with
    | spared spared goes =>
      obtain ⟨more, goesOn, rebuilds⟩ := ih cycles.active (fun going => (goes after went.symm going).2)
        (past ++ seen) (fun going => wished_append.mpr ⟨wished, (goes after went.symm going).1⟩)
      refine ⟨seen ++ more, by rw [goesOn, added, List.append_assoc], ?_⟩
      intro before loss after n consumer same loses
      rcases split_append same with ⟨rest, here, -⟩ | ⟨rest, rfl, there⟩
      · exact absurd loses (spared loss (by simp [here]) n consumer)
      · rw [← List.append_assoc]
        exact rebuilds rest loss after n consumer there loses
    | @struck signals rest loss n consumer names goOn r spared first sendable wishes restores =>
      cases r with
      | error e => cases went
      | ok _ =>
        cases went
        have silent : Wished (loss :: rest) := by
          apply wished_of_not_returned
          obtain ⟨request, failure, sent, -⟩ := first
          exact List.forall_mem_cons.mpr ⟨fun answer back => (nomatch sent.symm.trans back),
            fun e member => (restores.repairs e member).not_returned⟩
        obtain ⟨more, goesOn, rebuilds⟩ := ih cycles.active nofun
          (past ++ (signals ++ loss :: rest)) (fun going => wished_append.mpr ⟨wished, wished_append.mpr
            ⟨wishes.mp (Bool.and_eq_true_iff.mp going).1, silent⟩⟩)
        refine ⟨signals ++ loss :: rest ++ more, by rw [goesOn, added, List.append_assoc], ?_⟩
        intro before other after n consumer same loses
        rcases split_append same with ⟨others, here, rfl⟩ | ⟨others, rfl, there⟩
        · obtain ⟨rfl, rfl, rfl⟩ := loss_position spared (spared_of_repairs restores.repairs) loses here
          obtain ⟨rfl, rfl⟩ := first.unique loses
          refine loops.rebuilds_of_ok stops restores sendable ?_ goesOn
          rw [wishes, wished_append]
          exact ⟨fun wishing => ⟨wished, wishing⟩, And.right⟩
        · rw [← List.append_assoc]
          exact rebuilds others other after n consumer there loses

end

/-- How a run makes up for the consumers that it loses. -/
structure Regains (surroundings : Surroundings) (settings : Settings) (recorded : Session String Value)
    (topics : Topics) (result : Except Failure Unit) (signals : List Event) : Prop where
  /-- Each loss is made up for at once. -/
  rebuilds : ∀ past loss future n consumer, signals = past ++ loss :: future →
    loss.Loses settings n consumer → Rebuilds surroundings settings result past n consumer future
  /-- Every subscription is to the same topics: those given, or else those recorded at the start. -/
  carries : ∃ names, ∀ e ∈ signals, (∃ others, e.AsksFor settings others) → e.AsksFor settings names ∧
    ∃ wanted, chosenTopics recorded topics = .ok wanted ∧ Sendable wanted names
  /-- Nothing is pulled for a new consumer before it is subscribed. -/
  awaits : ∀ past creation between pull future consumer answer,
    signals = past ++ creation :: between ++ pull :: future → creation.RequestsConsumer settings →
      pull.Sends (.pull settings consumer settings.consumeTimeout) answer →
        ∃ subscription ∈ between, ∃ names, subscription.SubscribesTo settings consumer names

/-- A run that sees nothing has nothing to make up for. -/
theorem Regains.nothing {surroundings : Surroundings} {settings : Settings} {recorded : Session String Value}
    {topics : Topics} {result : Except Failure Unit} :
    Regains surroundings settings recorded topics result [] where
  rebuilds _ _ _ _ _ none _ := by simp at none
  carries := ⟨[], List.forall_mem_nil _⟩
  awaits _ _ _ _ _ _ _ none _ _ := by simp at none

section
variable {settings : Settings} {before past between future : List Event} {creation pull loss : Event}
  {consumer : String} {n : Nat}

/-- A consumer that is lost was made by a request that could be written. -/
theorem Lawful.written (lawful : Lawful settings (past ++ loss :: future))
    (loses : loss.Loses settings n consumer) :
    ∃ body, creationBody settings = .ok body := by
  obtain ⟨request, failure, sent, -, asks⟩ := loses
  obtain ⟨-, addressed⟩ := lawful past loss future rfl
  have addressed := addressed request _ ⟨n, sent⟩
  have table : request.table = .existing := by
    rcases asks with ⟨topics, rfl⟩ | rfl | rfl <;> rfl
  have standing : ∃ id, Standing settings past id := by
    cases addressed with
    | creation body => cases table
    | subscription standing topics => exact ⟨_, standing⟩
    | inquiry standing => exact ⟨_, standing⟩
    | pull standing subscribed timeout => exact ⟨_, standing⟩
    | offsets standing => exact ⟨_, standing⟩
    | deletion standing => exact ⟨_, standing⟩
  obtain ⟨id, earlier, creation, since, body, answer, -, written, -⟩ := standing
  exact ⟨body, written⟩

/-- Between the creation of a consumer and a pull for it lies its subscription. -/
theorem Lawful.awaits (lawful : Lawful settings (past ++ creation :: between ++ pull :: future))
    (creates : creation.RequestsConsumer settings) (subscribed : pull.memory.session.isSubscribed = true)
    (held : heldConsumer? pull.memory.session = some consumer) :
    ∃ subscription ∈ between, ∃ names, subscription.SubscribesTo settings consumer names := by
  obtain ⟨sound, -⟩ := lawful _ pull future rfl
  have recorded : pull.memory.session.topics ≠ [] := by
    intro none
    simp [Session.isSubscribed, none] at subscribed
  obtain ⟨id, same, -, names, earlier, subscription, since, -, split, subscribes, quiet⟩ := sound recorded
  cases (heldConsumer?_eq_some.mp held).1.symm.trans same
  rcases split_append split with ⟨rest, -, rfl⟩ | ⟨rest, -, tail⟩
  · exact absurd creates (quiet creation (by simp)).1
  · rcases List.cons_eq_append_iff.mp tail with ⟨rfl, here⟩ | ⟨others, rfl, beyond⟩
    · cases here
      obtain ⟨answer, n, sent⟩ := subscribes
      obtain ⟨body, another, k, created⟩ := creates
      have requests := sent.symm.trans created
      simp only [Happening.sent.injEq] at requests
      cases congrArg Request.table requests.2.1
    · exact ⟨subscription, by simp [beyond], _, subscribes⟩

end

/-- A run with a callback that touches the channel only to stop it makes up for every consumer that it loses:
it deletes it, takes a new transport into use and creates another consumer, and subscribes that one to the
same topics before it pulls on, unless the run is to end. -/
theorem run_regains_lost_consumers (surroundings : Surroundings) (settings : Settings) (caller : Thread)
    (depth rounds : Nat) (callback : Option CallbackId) (topics : Topics) (c : Chronicle)
    (reached : Reachable settings caller c) (dependable : surroundings.Dependable)
    (stops : surroundings.OnlyStops) :
    ∃ signals, (exec (surroundings.hosting settings caller depth)
        (run settings rounds callback topics) c).2.signals = c.signals ++ signals ∧
      Regains surroundings settings c.memory.session topics
        (exec (surroundings.hosting settings caller depth)
          (run settings rounds callback topics) c).1 signals := by
  have entrusted := reached.entrusted
  have within : ∀ moves d, Entrusted settings caller d →
      Entrusted settings caller (perform surroundings settings caller depth moves d) :=
    perform_keeps (entrusted_upheld surroundings settings caller) depth
  have lawful := ((entrusted_upheld surroundings settings caller _).run within rounds callback topics
    c entrusted).faithful.lawful
  have runs : Runs surroundings caller settings (perform surroundings settings caller depth) rounds callback
      topics c _ _ :=
    leads_run dependable.logs (leavesGuard_of_onlyEnds stops.onlyEnds depth) entrusted.opened rounds
  generalize exec (surroundings.hosting settings caller depth)
    (run settings rounds callback topics) c = ran at lawful runs ⊢
  obtain ⟨r, later⟩ := ran
  have lawful : Lawful settings later.signals := lawful
  show ∃ signals, later.signals = c.signals ++ signals ∧
    Regains surroundings settings c.memory.session topics r signals
  cases runs with
  | inactive inactive => exact ⟨[], by simp, .nothing⟩
  | refused passed unready => exact ⟨[], passed.signals, .nothing⟩
  | @looped _ _ _ _ _ id names active grouped chosen wanted begins stages loops finishes =>
    obtain ⟨signals, added, carries⟩ := loops.carries stops
    have seen : later.signals = c.signals ++ signals := by rw [finishes.signals, added, begins.signals]
    rw [seen] at lawful
    refine ⟨signals, seen, ?_, ?_, ?_⟩
    · intro past loss future n consumer same loses
      rw [same, ← List.append_assoc] at lawful
      obtain ⟨body, written⟩ := lawful.written loses
      obtain ⟨others, again, rebuilds⟩ := loops.rebuilds dependable stops grouped written
        (fun _ => by rw [begins.session, active]) nofun
        [] fun _ _ _ none => nomatch none
      cases List.append_cancel_left (again.symm.trans added)
      exact rebuilds past loss future n consumer same loses
    · by_cases some : ∃ texts, Sendable names texts
      · obtain ⟨texts, sendable⟩ := some
        refine ⟨texts, ?_⟩
        intro e member asks
        obtain ⟨others, asks, again⟩ := (carries e member).subscribes asks
        cases sendable.unique again
        exact ⟨asks, names, wanted, sendable⟩
      · refine ⟨[], ?_⟩
        intro e member asks
        obtain ⟨others, -, again⟩ := (carries e member).subscribes asks
        exact absurd ⟨others, again⟩ some
    · intro past creation between pull future consumer answer same creates sends
      obtain ⟨subscribed, held⟩ := (carries pull (by simp [same])).pulls consumer answer sends
      rw [same, ← List.append_assoc, ← List.append_assoc] at lawful
      exact lawful.awaits creates subscribed held

/-- Whether a request through a transport is answered with a lost session. -/
def Event.findsLost (e : Event) (n : Nat) (request : Request) : Bool :=
  match e.happening with
  | .sent used sent (.error failure) => used == n && sent == request && failure.class? == some .sessionLost
  | _ => false

theorem Event.findsLost_iff {e : Event} {n : Nat} {request : Request} : e.findsLost n request = true ↔
    ∃ failure, e.happening = .sent n request (.error failure) ∧ failure.class? = some .sessionLost := by
  unfold findsLost
  constructor
  · intro found
    split at found
    · rename_i used sent failure happened
      simp only [Bool.and_eq_true, beq_iff_eq] at found
      obtain ⟨⟨rfl, rfl⟩, lost⟩ := found
      exact ⟨failure, happened, lost⟩
    · cases found
  · rintro ⟨failure, happened, lost⟩
    rw [happened]
    simp [lost]

/-- A service that loses its first consumer when that is to be subscribed, and a callback that stops the
loop. -/
def Surroundings.losesFirst : Surroundings :=
  .scripted [.ok (some "\x7b\"consumerInstanceId\": \"c\"\x7d"),
    .error (.channel .sessionLost "unknown consumer" none (some 404) none), .ok none,
    .ok (some "\x7b\"consumerInstanceId\": \"d\"\x7d"), .ok none, .ok (some "\x7b\"records\": []\x7d")]
    [.stop 0] (.ok (.bool true))

/-- Stopping from within the callback is no obstacle to making up for a loss. -/
theorem run_regains_lost_consumers_stopped :
    Reachable committing 0 (.start 0) ∧ Surroundings.losesFirst.Dependable ∧
      Surroundings.losesFirst.OnlyStops ∧ ∃ signals,
        (exec (Surroundings.losesFirst.hosting committing 0 1)
          (run committing 3 (some 0) (.single "t")) (.start 0)).2.signals =
            (Chronicle.start 0).signals ++ signals ∧
        Regains .losesFirst committing .fresh (.single "t")
          (exec (Surroundings.losesFirst.hosting committing 0 1)
            (run committing 3 (some 0) (.single "t")) (.start 0)).1 signals ∧
        ∃ loss ∈ signals, loss.Loses committing 0 "c" := by
  have reached : Reachable committing 0 (.start 0) := ⟨.losesFirst, 0, [], 0, rfl⟩
  have dependable : Surroundings.losesFirst.Dependable := Surroundings.scripted_dependable ..
  have stops : Surroundings.losesFirst.OnlyStops := fun _ => List.forall_mem_singleton.mpr trivial
  obtain ⟨signals, added, regains⟩ :=
    run_regains_lost_consumers _ committing 0 1 3 (some 0) (.single "t") (.start 0) reached dependable stops
  refine ⟨reached, dependable, stops, signals, added, regains, ?_⟩
  have found : (exec (Surroundings.losesFirst.hosting committing 0 1)
      (run committing 3 (some 0) (.single "t")) (.start 0)).2.signals.any
        (·.findsLost 0 (.subscription committing "c" ["t"])) = true := by decide +kernel
  obtain ⟨loss, member, lost⟩ := List.any_eq_true.mp found
  rw [added] at member
  obtain ⟨failure, happened, lost⟩ := Event.findsLost_iff.mp lost
  exact ⟨loss, member, _, failure, happened, lost, .inl ⟨_, rfl⟩⟩

end ConsumerChannel.Channel
