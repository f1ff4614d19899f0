import ConsumerChannel.Http.Endpoint
import ConsumerChannel.Proofs.Recovery
import ConsumerChannel.Proofs.Winding

/-! What the status of an answer decides. An endpoint sorts a bad answer by the table that comes with the request, an
operation puts its name to the failure, and a loop deals with the failure by its class. What an operation makes of an
answer is read off its outcomes, and where a loop goes from there off its calls. -/
namespace ConsumerChannel

/-! ## Tables -/

/-- What a failed status means for an operation. -/
def Api.meaning (api : Api) (status : Int) : Category :=
  if status = 400 then .permanent
  else if status = 404 then
    if api = .create then .permanent else .sessionLost
  else .transient

/-- What trouble of an operation comes to: the operation fails, but a consumer that the service does not know counts
as deleted. -/
def Api.suffer (api : Api) (e : Failure) : Except Failure Unit :=
  if api = .delete ∧ e.class? = some .sessionLost then .ok () else .error e

theorem Api.suffer_eq_or (api : Api) (e : Failure) : api.suffer e = .ok () ∨ api.suffer e = .error e := by
  unfold suffer
  split
  · exact .inl rfl
  · exact .inr rfl

namespace StatusTable

theorem classify_cons (listed status : Int) (category : Category) (rest : StatusTable) :
    classify ((listed, category) :: rest) status = if status = listed then category else classify rest status := by
  unfold classify
  by_cases same : status = listed
  · simp [same]
  · simp [same, Ne.symm same]

/-- A status is looked up in a table; one that the table does not list is transient. -/
theorem classify_eq_lookup (table : StatusTable) (status : Int) :
    table.classify status = (table.lookup status).getD .transient := by
  induction table with
  | nil => rfl
  | cons row rest ih =>
    rw [classify_cons, ih, List.lookup_cons]
    by_cases same : status = row.1
    · simp [same]
    · simp [same, beq_eq_false_iff_ne.mpr same]

/-- The tables of the operations say what the statuses mean. -/
theorem classify_ofApi (api : Api) (status : Int) : (ofApi api).classify status = api.meaning status := by
  have unlisted : classify [] status = .transient := rfl
  have created : creation.classify status =
      if status = 400 then .permanent else if status = 404 then .permanent else .transient := by
    simp only [creation, classify_cons, unlisted, ite_self]
    grind
  have addressed : existing.classify status =
      if status = 400 then .permanent else if status = 404 then .sessionLost else .transient := by
    simp only [existing, classify_cons, unlisted, ite_self]
    grind
  cases api with
  | create => exact created
  | _ => exact addressed

end StatusTable

theorem FailureClass.category_ofCategory (category : Category) :
    (FailureClass.ofCategory category).category = category := by
  cases category <;> rfl

/-! ## Endpoints -/

namespace Http
variable {endpoint : Endpoint} {request : Channel.Request} {outcome : Outcome} {api : Api} {e : Failure}

/-- What an endpoint makes of what came of a request. -/
def verdict (endpoint : Endpoint) (request : Channel.Request) : Outcome → Except Failure (Option String)
  | .answered response =>
    if response.isGood then .ok (if response.text = "" then none else some response.text)
    else .error (.ofStatus request.table response.status response.failureMessage none none)
  | .unreachable name text =>
    .error (.channel .transient (request.method.name ++ " " ++ endpoint.url request.path ++ " failed: " ++ name) none
      none (some (.foreign name text)))
  | .broken failure => .error failure

/-- The failure of an answer with a bad status, or of a network that failed, under the name of an operation. Any other
outcome is no such trouble. -/
def Outcome.trouble? (endpoint : Endpoint) (api : Api) (request : Channel.Request) : Outcome → Option Failure
  | .answered response =>
    if 400 ≤ response.status ∧ response.status < 600 then
      some (.channel (.ofCategory (api.meaning response.status)) response.failureMessage (some api.name)
        (some response.status) none)
    else none
  | .unreachable name text =>
    some (.channel .transient (request.method.name ++ " " ++ endpoint.url request.path ++ " failed: " ++ name)
      (some api.name) none (some (.foreign name text)))
  | .broken _ => none

private theorem execute_exchange_bind {σ : Type} {host : (q : Query) → σ → q.Answer × σ} (exchanged : Exchange)
    (next : Outcome → Sending (Option String)) (s : σ) :
    (exchange exchanged >>= next).run.execute host s =
      (next (host (.exchange exchanged) s).1).run.execute host (host (.exchange exchanged) s).2 := rfl

private theorem execute_log_bind {σ : Type} {host : (q : Query) → σ → q.Answer × σ}
    (quiet : ∀ r s, (host (.log r) s).1 = .ok ()) (r : LogRecord) (next : Unit → Sending (Option String)) (s : σ) :
    (log r >>= next).run.execute host s = (next ()).run.execute host (host (.log r) s).2 := by
  show Program.execute host (ExceptT.bindCont next (host (.log r) s).1) (host (.log r) s).2 = _
  rw [quiet]
  rfl

/-- As long as records are logged, what an endpoint makes of a request depends on what came of it only. -/
theorem execute_perform {σ : Type} {host : (q : Query) → σ → q.Answer × σ}
    (quiet : ∀ r s, (host (.log r) s).1 = .ok ()) (s : σ) :
    ((perform endpoint request).run.execute host s).1 = verdict endpoint request
      (host (.exchange ⟨request.method, endpoint.url request.path, request.body⟩) s).1 := by
  unfold perform
  rw [execute_exchange_bind]
  cases (host (.exchange ⟨request.method, endpoint.url request.path, request.body⟩) s).1 with
  | broken failure => rfl
  | unreachable name text =>
    simp only [execute_log_bind quiet]
    rfl
  | answered response =>
    simp only [verdict]
    split
    · simp only [execute_log_bind quiet]
      split <;> rfl
    · simp only [execute_log_bind quiet]
      rfl

/-- Trouble is a failure of the endpoint, to which the operation puts its name. -/
theorem verdict_of_trouble (tabled : request.table = .ofApi api)
    (troubled : outcome.trouble? endpoint api request = some e) :
    ∃ f, verdict endpoint request outcome = .error f ∧ f.tag api.name = e := by
  cases outcome with
  | broken failure => cases troubled
  | unreachable name text =>
    cases troubled
    exact ⟨_, rfl, rfl⟩
  | answered response =>
    simp only [Outcome.trouble?, Option.ite_none_right_eq_some, Option.some.injEq] at troubled
    obtain ⟨bad, rfl⟩ := troubled
    have ill : response.isGood = false := by
      simp only [Response.isGood, Bool.or_eq_false_iff, decide_eq_false_iff_not]
      omega
    simp only [verdict, ill, Bool.false_eq_true, ↓reduceIte, tabled, Failure.ofStatus, Failure.ofCategory,
      StatusTable.classify_ofApi]
    exact ⟨_, rfl, rfl⟩

/-- Trouble has one of the three classes. -/
theorem class_of_trouble (troubled : outcome.trouble? endpoint api request = some e) :
    ∃ category, e.class? = some (.ofCategory category) := by
  cases outcome with
  | broken failure => cases troubled
  | unreachable name text =>
    cases troubled
    exact ⟨.transient, rfl⟩
  | answered response =>
    simp only [Outcome.trouble?, Option.ite_none_right_eq_some, Option.some.injEq] at troubled
    obtain ⟨-, rfl⟩ := troubled
    exact ⟨_, rfl⟩

end Http

namespace Channel
open Operation

/-! ## Operations -/

/-- A move sends a request in the name of an operation; subscribing may create a consumer first. -/
inductive Move.Sends (settings : Settings) : Move → Api → Request → Prop where
  | create : Sends settings .create .create (.creation settings body)
  | equip : Sends settings (.subscribe topics) .create (.creation settings body)
  | subscribe : Sends settings (.subscribe topics) .subscribe (.subscription settings consumer names)
  | subscriptions : Sends settings .subscriptions .subscriptions (.inquiry settings consumer)
  | delete : Sends settings .delete .delete (.deletion settings consumer)
  | consume : Sends settings (.consume timeout) .consume (.pull settings consumer timeout)
  | commit : Sends settings .commit .commit (.offsets settings consumer)

/-- A request that a move sends in the name of an operation meets trouble. -/
def Event.Troubles (endpoint : Http.Endpoint) (settings : Settings) (move : Move) (api : Api) (e : Failure)
    (event : Event) : Prop :=
  ∃ n request outcome, event.happening = .sent n request (Http.verdict endpoint request outcome) ∧
    move.Sends settings api request ∧ outcome.trouble? endpoint api request = some e

section
variable {surroundings : Surroundings} {caller : Thread} {settings : Settings} {endpoint : Http.Endpoint}
  {move : Move} {api : Api} {e : Failure} {event : Event} {m : State} {r : Except Failure Unit}
  {left : Session String Value} {signals : List Event} {request : Request}

/-- Every request carries the table of the operation in whose name it is sent. -/
theorem Move.Sends.table (sends : move.Sends settings api request) : request.table = .ofApi api := by
  cases sends <;> rfl

private theorem creation_ne_subscription {body consumer : String} {topics : List String} :
    Request.creation settings body ≠ .subscription settings consumer topics := by
  intro same
  have paths : consumersPath settings = consumerAddress settings consumer ++ "/subscription" :=
    congrArg Request.path same
  have lengths := congrArg String.length paths
  simp only [consumerAddress, String.length_append] at lengths
  have positive : "/subscription".length = 13 := rfl
  omega

/-- A move sends a request in the name of one operation. -/
theorem Move.Sends.unique {other : Api} (first : move.Sends settings api request)
    (second : move.Sends settings other request) : api = other := by
  cases first with
  | equip =>
    generalize same : Request.creation settings _ = sent at second
    cases second with
    | equip => rfl
    | subscribe => exact absurd same creation_ne_subscription
  | subscribe =>
    generalize same : Request.subscription settings _ _ = sent at second
    cases second with
    | equip => exact absurd same.symm creation_ne_subscription
    | subscribe => rfl
  | create =>
    generalize Request.creation settings _ = sent at second
    cases second
    rfl
  | subscriptions =>
    generalize Request.inquiry settings _ = sent at second
    cases second
    rfl
  | delete =>
    generalize Request.deletion settings _ = sent at second
    cases second
    rfl
  | consume =>
    generalize Request.pull settings _ _ = sent at second
    cases second
    rfl
  | commit =>
    generalize Request.offsets settings _ = sent at second
    cases second
    rfl

/-- The failure of a request that met trouble, under the name of the operation. -/
theorem Event.Troubles.failed {n : Nat} {answer : Except Failure (Option String)} {own : Api}
    (troubles : Event.Troubles endpoint settings move api e ⟨m, .sent n request answer⟩)
    (sends : move.Sends settings own request) : own = api ∧ ∃ f, answer = .error f ∧ f.tag api.name = e := by
  obtain ⟨_, _, outcome, ⟨⟩, sent, troubled⟩ := troubles
  exact ⟨sends.unique sent, Http.verdict_of_trouble sent.table troubled⟩

/-- A request that is answered well met no trouble. -/
theorem Event.Troubles.not_answered {n : Nat} {answer : Option String} :
    ¬ Event.Troubles endpoint settings move api e ⟨m, .sent n request (.ok answer)⟩ := by
  rintro ⟨_, _, outcome, sent, sends, troubled⟩
  obtain ⟨f, failed, -⟩ := Http.verdict_of_trouble sends.table troubled
  rw [failed] at sent
  cases sent

theorem Creates.suffers (creates : Creates surroundings caller settings m r left signals)
    (member : event ∈ signals) (sends : ∀ body, move.Sends settings .create (.creation settings body))
    (troubles : event.Troubles endpoint settings move api e) : api ≠ .delete ∧ r = .error e := by
  cases creates with
  | groupless missing => cases member
  | unsent e reason => cases member
  | failed written amid f =>
    cases List.mem_singleton.mp member
    obtain ⟨rfl, _, ⟨⟩, rfl⟩ := troubles.failed (sends _)
    exact ⟨nofun, rfl⟩
  | unread written amid meaningless misread =>
    cases List.mem_singleton.mp member
    exact absurd troubles Event.Troubles.not_answered
  | made written amid named quiet =>
    cases List.mem_singleton.mp member
    exact absurd troubles Event.Troubles.not_answered

/-- A consumer that was got for a subscription was got without trouble. -/
theorem Equips.not_troubles {topics : Topics} (equips : Equips surroundings caller settings m left signals)
    (member : event ∈ signals) : ¬ event.Troubles endpoint settings (.subscribe topics) api e := by
  intro troubles
  cases equips with
  | held holding => cases member
  | created lacking creates =>
    obtain ⟨-, ⟨⟩⟩ := creates.suffers member (fun _ => .equip) troubles

theorem Subscribes.suffers {topics : Topics}
    (subscribes : Subscribes surroundings caller settings topics m r left signals)
    (member : event ∈ signals) (troubles : event.Troubles endpoint settings (.subscribe topics) api e) :
    api ≠ .delete ∧ r = .error e := by
  cases subscribes with
  | topicless refused => cases member
  | uncreated wanted lacking creates => exact creates.suffers member (fun _ => .equip) troubles
  | unwritten wanted equips refused => exact absurd troubles (equips.not_troubles member)
  | failed wanted texts equips held amid f =>
    rcases List.mem_append.mp member with early | last
    · exact absurd troubles (equips.not_troubles early)
    · cases List.mem_singleton.mp last
      obtain ⟨rfl, _, ⟨⟩, rfl⟩ := troubles.failed .subscribe
      exact ⟨nofun, rfl⟩
  | done wanted texts equips held amid quiet =>
    rcases List.mem_append.mp member with early | last
    · exact absurd troubles (equips.not_troubles early)
    · cases List.mem_singleton.mp last
      exact absurd troubles Event.Troubles.not_answered

theorem Deletes.suffers (dependable : surroundings.Dependable)
    (deletes : Deletes surroundings caller settings m r left signals)
    (member : event ∈ signals) (troubles : event.Troubles endpoint settings .delete api e) :
    r = api.suffer e ∧ left = .fresh := by
  cases deletes with
  | unheld absent => cases member
  | sent held amid settled =>
    cases List.mem_singleton.mp member
    obtain ⟨rfl, f, rfl, rfl⟩ := troubles.failed .delete
    rw [settled dependable]
    refine ⟨?_, rfl⟩
    simp only [deletionResult, Api.suffer, class?_tag, true_and]

theorem Inquires.suffers {r : Except Failure (List String)}
    (inquires : Inquires surroundings caller settings m r left signals)
    (member : event ∈ signals) (troubles : event.Troubles endpoint settings .subscriptions api e) :
    api ≠ .delete ∧ r.map (fun _ => ()) = .error e := by
  cases inquires with
  | unheld absent => cases member
  | failed held amid f =>
    cases List.mem_singleton.mp member
    obtain ⟨rfl, _, ⟨⟩, rfl⟩ := troubles.failed .subscriptions
    exact ⟨nofun, rfl⟩
  | unread held amid filled meaningless misread =>
    cases List.mem_singleton.mp member
    exact absurd troubles Event.Troubles.not_answered
  | listed held amid denoted =>
    cases List.mem_singleton.mp member
    exact absurd troubles Event.Troubles.not_answered

theorem Consumes.suffers {timeout : Value} {r : Except Failure Batch}
    (consumes : Consumes surroundings caller settings timeout m r left signals)
    (member : event ∈ signals) (troubles : event.Troubles endpoint settings (.consume timeout) api e) :
    api ≠ .delete ∧ r.map (fun _ => ()) = .error e := by
  cases consumes with
  | unsubscribed topicless => cases member
  | unheld absent => cases member
  | incomparable fault => cases member
  | failed subscribed held amid f =>
    cases List.mem_singleton.mp member
    obtain ⟨rfl, _, ⟨⟩, rfl⟩ := troubles.failed .consume
    exact ⟨nofun, rfl⟩
  | unread subscribed held amid meaningless misread =>
    cases List.mem_singleton.mp member
    exact absurd troubles Event.Troubles.not_answered
  | read subscribed held amid denoted quiet =>
    cases List.mem_singleton.mp member
    exact absurd troubles Event.Troubles.not_answered

theorem Commits.suffers (commits : Commits surroundings caller settings m r left signals)
    (member : event ∈ signals) (troubles : event.Troubles endpoint settings .commit api e) :
    api ≠ .delete ∧ r = .error e := by
  cases commits with
  | automatic automatic => cases member
  | unheld manual absent => cases member
  | failed manual held amid f =>
    cases List.mem_singleton.mp member
    obtain ⟨rfl, _, ⟨⟩, rfl⟩ := troubles.failed .commit
    exact ⟨nofun, rfl⟩
  | sent manual held amid answer =>
    cases List.mem_singleton.mp member
    exact absurd troubles Event.Troubles.not_answered

/-- Trouble is what an operation comes to. -/
theorem Acts.suffers (dependable : surroundings.Dependable)
    (acts : Acts surroundings caller settings m move r left signals) (member : event ∈ signals)
    (troubles : event.Troubles endpoint settings move api e) :
    r = api.suffer e ∧ (api = .delete → left = .fresh) := by
  have failed (fails : api ≠ .delete ∧ r = .error e) : r = api.suffer e ∧ (api = .delete → left = .fresh) := by
    obtain ⟨other, ill⟩ := fails
    exact ⟨by rw [ill, Api.suffer, if_neg fun same => other same.1], fun same => absurd same other⟩
  cases acts with
  | create creates => exact failed (creates.suffers member (fun _ => .create) troubles)
  | subscribe subscribes => exact failed (subscribes.suffers member troubles)
  | subscriptions inquires => exact failed (inquires.suffers member troubles)
  | delete deletes =>
    obtain ⟨result, fresh⟩ := deletes.suffers dependable member troubles
    exact ⟨result, fun _ => fresh⟩
  | consume consumes => exact failed (consumes.suffers member troubles)
  | commit commits => exact failed (commits.suffers member troubles)

end

/-! ## Loops -/

/-- The operations that a call of a loop consists of. -/
def Phase.moves (settings : Settings) (topics : List Value) : Phase → List Move
  | .subscribing => [.subscribe (.many topics none)]
  | .pulling => [.consume settings.consumeTimeout]
  | .handing _ _ => []
  | .committing _ => [.commit]
  | .recreating _ _ => [.delete, .create]
  | .cleaning _ => [.delete]
  | .settled _ => []

/-- A request of a call meets trouble. -/
def Stride.Troubled (endpoint : Http.Endpoint) (settings : Settings) (topics : List Value) (api : Api) (e : Failure)
    (stride : Stride) : Prop :=
  ∃ signals event move, stride.after.signals = stride.before.signals ++ signals ∧ event ∈ signals ∧
    move ∈ stride.phase.moves settings topics ∧ event.Troubles endpoint settings move api e

/-- A call fails with the trouble that it meets. Building a session anew goes on if the service does not know the
consumer that is to be deleted, and trouble of cleaning up is not raised. -/
def Phase.Takes (api : Api) (e : Failure) (failure : Option Failure) : Phase → Prop
  | .recreating _ _ => api.suffer e = .ok () ∨ failure = some e
  | .cleaning _ => failure = none
  | _ => failure = some e

/-- How a loop deals with the failure of a call, in the calls that are left: it builds a lost session anew, and for
any other failure it cleans up and raises the failure. -/
structure DealsWith (r : Except Failure Unit) (stride : Stride) (rest : List Stride) (e : Failure) : Prop where
  lost : e.class? = some .sessionLost → ∃ goOn recovery more, stride.next = .recreating goOn e ∧
    rest = recovery :: more ∧ recovery.phase = .recreating goOn e ∧
    ∀ second, recovery.failure = some second → more = [] ∧ r = .error second
  fatal : e.class? = some .permanent ∨ e.class? = some .transient → stride.next = .cleaning e ∧
    ∃ cleanup, rest = [cleanup] ∧ cleanup.phase = .cleaning e ∧ (cleanup.failure = none → r = .error e)

section
variable {surroundings : Surroundings} {nested : List Move → Chronicle → Chronicle} {caller : Thread}
  {c d last later : Chronicle} {settings : Settings} {callback : CallbackId} {topics : List Value}
  {endpoint : Http.Endpoint} {move : Move} {api : Api} {e : Failure} {event : Event} {signals : List Event}
  {past rest : List Stride} {stride : Stride} {r : Except Failure Unit} {phase next : Phase}
  {failure : Option Failure}

theorem Deletes.not_troubles_create {m : State} {left : Session String Value}
    (deletes : Deletes surroundings caller settings m r left signals) (member : event ∈ signals) :
    ¬ event.Troubles endpoint settings .create api e := by
  rintro ⟨n, request, outcome, sent, sends, -⟩
  cases sends with
  | create =>
    cases deletes with
    | unheld absent => cases member
    | sent held amid settled =>
      cases List.mem_singleton.mp member
      cases sent

theorem Creates.not_troubles_delete {m : State} {left : Session String Value}
    (creates : Creates surroundings caller settings m r left signals) (member : event ∈ signals) :
    ¬ event.Troubles endpoint settings .delete api e := by
  rintro ⟨n, request, outcome, sent, sends, -⟩
  cases sends with
  | delete =>
    cases creates with
    | groupless missing => cases member
    | unsent e reason => cases member
    | failed written amid f =>
      cases List.mem_singleton.mp member
      cases sent
    | unread written amid meaningless misread =>
      cases List.mem_singleton.mp member
      cases sent
    | made written amid named quiet =>
      cases List.mem_singleton.mp member
      cases sent

/-- Building a session anew fails with the trouble that it meets, unless that is none to the deletion. -/
theorem Recreates.suffers (dependable : surroundings.Dependable)
    (recreates : Recreates surroundings caller settings c r later) :
    c.Adds (fun event => ∀ move api e, move = .delete ∨ move = .create → event.Troubles endpoint settings move api e →
      api.suffer e = .ok () ∨ r = .error e) later := by
  have deletion {m : State} {s : Except Failure Unit} {left : Session String Value} {signals : List Event}
      (deletes : Deletes surroundings caller settings m s left signals) (comes : s = .ok () ∨ s = r) :
      ∀ event ∈ signals, ∀ move api e, move = .delete ∨ move = .create →
        event.Troubles endpoint settings move api e → api.suffer e = .ok () ∨ r = .error e := by
    rintro event member move api e (rfl | rfl) troubles
    · obtain ⟨rfl, -⟩ := deletes.suffers dependable member troubles
      rcases comes with well | rfl
      · exact .inl well
      · exact api.suffer_eq_or e
    · exact absurd troubles (deletes.not_troubles_create member)
  have unsent {m : State} {h : Happening} (other : ∀ n request answer, h ≠ .sent n request answer) :
      ∀ move api e, move = .delete ∨ move = .create → Event.Troubles endpoint settings move api e ⟨m, h⟩ →
        api.suffer e = .ok () ∨ r = .error e := by
    rintro move api e - ⟨n, request, outcome, sent, -⟩
    exact absurd sent (other _ _ _)
  have start {kind : Event → Prop} {d : Chronicle} (passed : c.Passes surroundings d) : c.Adds kind d :=
    passed.adds (List.forall_mem_nil _)
  cases recreates with
  | destroyed passed inactive => exact start passed
  | undeleted passed active deletes deleted => exact (start passed).trans (deleted.adds (deletion deletes (.inr rfl)))
  | unclosed passed active deletes deleted closed careless => exact absurd dependable careless
  | unopened passed active deletes deleted closed opened careless => exact absurd dependable careless
  | rebuilt passed active deletes deleted closed opened creates created =>
    have before := (start passed).trans (deleted.adds (deletion deletes (.inl rfl)))
    refine ((before.trans (.one closed.signals (unsent nofun))).trans (.one opened.signals (unsent nofun))).trans
      (created.adds ?_)
    rintro event member move api e (rfl | rfl) troubles
    · exact absurd troubles (creates.not_troubles_delete member)
    · exact .inr (creates.suffers member (fun _ => .create) troubles).2

/-- Trouble of a deletion that cleans up is not raised. -/
theorem Cleans.suffers (dependable : surroundings.Dependable)
    (cleans : Cleans surroundings caller settings c r later) :
    c.Adds (fun event => ∀ api e, event.Troubles endpoint settings .delete api e → r = .ok ()) later := by
  cases cleans with
  | destroyed passed inactive => exact passed.adds (List.forall_mem_nil _)
  | @deleted d s k _ signals left passed active deletes deleted last =>
    refine ((passed.adds (List.forall_mem_nil _)).trans (deleted.adds ?_)).trans (last.adds (List.forall_mem_nil _))
    intro event member api e troubles
    obtain ⟨rfl, -⟩ := deletes.suffers dependable member troubles
    obtain ⟨n, request, outcome, -, -, troubled⟩ := troubles
    obtain ⟨category, known⟩ := Http.class_of_trouble troubled
    rcases api.suffer_eq_or e with well | ill
    · rw [well]
      rfl
    · simp [ill, cleanupResult, known]

/-- A call takes the trouble that it meets. -/
theorem Deed.takes (dependable : surroundings.Dependable)
    (deed : Deed surroundings caller settings nested callback topics c phase failure next d)
    (added : d.signals = c.signals ++ signals) (member : event ∈ signals)
    (asks : move ∈ phase.moves settings topics) (troubles : event.Troubles endpoint settings move api e) :
    phase.Takes api e failure := by
  have mine {session : Session String Value} {context : LogContext} {more : List Event}
      (became : c.Becomes surroundings session context more d) : event ∈ more := by
    rwa [List.append_cancel_left (added.symm.trans became.signals)] at member
  have told {kind : Event → Prop} (adds : c.Adds kind d) : kind event := by
    obtain ⟨more, goes, all⟩ := adds
    exact all event (List.append_cancel_left (added.symm.trans goes) ▸ member)
  cases deed with
  | subscribed ran subscribes became =>
    cases List.mem_singleton.mp asks
    exact absurd (subscribes.suffers (mine became) troubles).2 nofun
  | unsubscribed ran subscribes became =>
    cases List.mem_singleton.mp asks
    exact congrArg some (Except.error.inj (subscribes.suffers (mine became) troubles).2)
  | pulled ran consumes became =>
    cases List.mem_singleton.mp asks
    exact absurd (consumes.suffers (mine became) troubles).2 nofun
  | unpulled ran consumes became =>
    cases List.mem_singleton.mp asks
    exact congrArg some (Except.error.inj (consumes.suffers (mine became) troubles).2)
  | handed handed => cases asks
  | raised handed => cases asks
  | committed ran commits became =>
    cases List.mem_singleton.mp asks
    exact absurd (commits.suffers (mine became) troubles).2 nofun
  | uncommitted ran commits became =>
    cases List.mem_singleton.mp asks
    exact congrArg some (Except.error.inj (commits.suffers (mine became) troubles).2)
  | recreated ran recreates =>
    rcases told (recreates.suffers dependable) move api e (by simpa [Phase.moves] using asks) troubles with
      well | ⟨⟨⟩⟩
    exact .inl well
  | unrecreated ran recreates =>
    rcases told (recreates.suffers dependable) move api e (by simpa [Phase.moves] using asks) troubles with
      well | ill
    · exact .inl well
    · exact .inr (congrArg some (Except.error.inj ill))
  | cleaned ran cleans => rfl
  | uncleaned ran cleans =>
    cases List.mem_singleton.mp asks
    exact absurd (told (cleans.suffers dependable) api e troubles) nofun

/-- A permanent or transient failure is followed by cleaning up. -/
theorem Deed.cleans
    (deed : Deed surroundings caller settings nested callback topics c phase (some e) next d)
    (guarded : phase.Guarded) (fatal : e.class? = some .permanent ∨ e.class? = some .transient) :
    next = .cleaning e := by
  cases deed with
  | unsubscribed ran subscribes became => exact failed_of_fatal fatal
  | unpulled ran consumes became => exact failed_of_fatal fatal
  | raised handed => exact failed_of_fatal fatal
  | uncommitted ran commits became => exact failed_of_fatal fatal
  | unrecreated ran recreates => exact guarded.elim
  | uncleaned ran cleans => exact guarded.elim

/-- A loop that is about to clean up does so in its last call. -/
theorem Unrolls.cleans
    (unrolls : Unrolls surroundings caller settings nested callback topics (.cleaning e) c rest r last) :
    ∃ cleanup, rest = [cleanup] ∧ cleanup.phase = .cleaning e ∧ (cleanup.failure = none → r = .error e) := by
  cases unrolls with
  | unfinished asks => cases asks
  | call deed onward =>
    cases deed with
    | cleaned ran cleans =>
      obtain ⟨rfl, rfl, -⟩ := onward.of_settled
      exact ⟨_, rfl, rfl, fun _ => rfl⟩
    | uncleaned ran cleans =>
      obtain ⟨rfl, rfl, -⟩ := onward.of_settled
      exact ⟨_, rfl, rfl, nofun⟩

/-- A loop that is about to build its session anew does so in its next call, and is over if that fails. -/
theorem Unrolls.recreates {goOn : Bool}
    (unrolls : Unrolls surroundings caller settings nested callback topics (.recreating goOn e) c rest r last) :
    ∃ recovery more, rest = recovery :: more ∧ recovery.phase = .recreating goOn e ∧
      ∀ second, recovery.failure = some second → more = [] ∧ r = .error second := by
  cases unrolls with
  | unfinished asks => cases asks
  | call deed onward =>
    cases deed with
    | recreated ran recreates => exact ⟨_, _, rfl, rfl, nofun⟩
    | unrecreated ran recreates =>
      refine ⟨_, _, rfl, rfl, ?_⟩
      rintro second ⟨⟩
      obtain ⟨none, ill, -⟩ := onward.of_settled
      exact ⟨none, ill⟩

/-- A loop deals with every failure of its calls. -/
theorem Unrolls.dealsWith
    (unrolls : Unrolls surroundings caller settings nested callback topics phase c (past ++ stride :: rest) r last)
    (guarded : stride.phase.Guarded) (failed : stride.failure = some e) : DealsWith r stride rest e := by
  obtain ⟨deed, onward⟩ := unrolls.split
  rw [failed] at deed
  constructor
  · intro lost
    obtain ⟨goOn, next⟩ := deed.recovers guarded lost
    rw [next] at onward
    obtain ⟨recovery, more, left⟩ := onward.recreates
    exact ⟨goOn, recovery, more, next, left⟩
  · intro fatal
    have next := deed.cleans guarded fatal
    rw [next] at onward
    exact ⟨next, onward.cleans⟩

end

/-- An endpoint whose records are logged sorts a bad answer by the table that it is given, if it is given one; a
network that fails is transient trouble, with its failure as the cause. -/
def SortsByTable (endpoint : Http.Endpoint) : Prop :=
  ∀ (σ : Type) (host : (q : Http.Query) → σ → q.Answer × σ) (s : σ) (method : Method) (path : String)
    (body : Option String) (table : Option StatusTable), (∀ r t, (host (.log r) t).1 = .ok ()) →
    let request : Request := ⟨method, path, body, table.getD []⟩
    let came := (host (.exchange ⟨method, endpoint.url path, body⟩) s).1
    let sent := ((Http.perform endpoint request).run.execute host s).1
    sent = Http.verdict endpoint request came ∧
      (∀ response, came = .answered response → 400 ≤ response.status → response.status < 600 →
        ∃ category, category = (table.bind fun t => t.lookup response.status).getD .transient ∧
          (FailureClass.ofCategory category).category = category ∧
          sent = .error (.channel (.ofCategory category) response.failureMessage none (some response.status) none)) ∧
      ∀ name text, came = .unreachable name text →
        ∃ message, sent = .error (.channel .transient message none none (some (.foreign name text)))

/-- Whatever trouble an operation meets is what it comes to. A deletion that comes to a good end over trouble leaves
an empty session. -/
def Suffers (endpoint : Http.Endpoint) (settings : Settings) (move : Move) (c : Chronicle) (r : Except Failure Unit)
    (later : Chronicle) : Prop :=
  ∀ signals, later.signals = c.signals ++ signals → ∀ event ∈ signals, ∀ api e,
    event.Troubles endpoint settings move api e →
      r = api.suffer e ∧ (api = .delete → later.memory.session = .fresh)

/-- What a run comes to, call by call: it is refused, or the calls of its loop take the trouble that they meet, and
the loop deals with their failures. -/
inductive Deals (surroundings : Surroundings) (caller : Thread) (settings : Settings)
    (nested : List Move → Chronicle → Chronicle) (endpoint : Http.Endpoint) (callback : Option CallbackId)
    (topics : Topics) (c : Chronicle) : Except Failure Unit → Chronicle → Prop where
  | refused (unready : ¬ (c.memory.session.active = true ∧ Ready settings callback topics c.memory))
      (signals : later.signals = c.signals) :
      Deals surroundings caller settings nested endpoint callback topics c r later
  | looped {id : CallbackId} {names : List Value} {strides : List Stride} (chosen : callback = some id)
      (wanted : chosenTopics c.memory.session topics = .ok names) (begins : c.Begins surroundings caller first)
      (unrolls : Unrolls surroundings caller settings nested id names (.onward ⟨false, true⟩ first.memory.flags) first
        strides r last)
      (takes : ∀ stride ∈ strides, ∀ api e, stride.Troubled endpoint settings names api e →
        stride.phase.Takes api e stride.failure)
      (deals : ∀ past stride rest e, strides = past ++ stride :: rest → stride.phase.Guarded →
        stride.failure = some e → DealsWith r stride rest e)
      (finishes : c.Finishes surroundings last later) :
      Deals surroundings caller settings nested endpoint callback topics c r later

section
variable {surroundings : Surroundings} {nested : List Move → Chronicle → Chronicle} {caller : Thread}
  {c : Chronicle} {settings : Settings} (endpoint : Http.Endpoint)

theorem sortsByTable : SortsByTable endpoint := by
  intro σ host s method path body table quiet request came sent
  have same : sent = Http.verdict endpoint request came := Http.execute_perform quiet s
  refine ⟨same, fun response answered low high => ?_, fun name text unreachable => ?_⟩
  · have bad : response.isGood = false := by
      simp only [Http.Response.isGood, Bool.or_eq_false_iff, decide_eq_false_iff_not]
      omega
    have sorted : request.table.classify response.status =
        (table.bind fun t => t.lookup response.status).getD .transient := by
      rw [StatusTable.classify_eq_lookup]
      cases table <;> rfl
    refine ⟨_, sorted, FailureClass.category_ofCategory _, ?_⟩
    rw [same, answered]
    simp only [Http.verdict, bad, Bool.false_eq_true, ↓reduceIte]
    rfl
  · rw [same, unreachable]
    exact ⟨_, rfl⟩

theorem leads_suffers (dependable : surroundings.Dependable) (leaves : LeavesGuard surroundings nested caller)
    (opened : c.memory.guard.OpenTo caller) (move : Move) :
    Leads (surroundings.host nested caller) (move.operation settings) c (Suffers endpoint settings move c) := by
  refine (leads_move dependable.logs leaves opened move).weaken ?_
  intro r later makes signals added event member api e troubles
  have nothing (same : later.signals = c.signals) : event ∈ ([] : List Event) := by
    rwa [List.self_eq_append_right.mp (same.symm.trans added)] at member
  cases makes with
  | refused inactive refused => cases nothing rfl
  | acted active acts became =>
    rw [List.append_cancel_left (added.symm.trans became.signals)] at member
    obtain ⟨result, emptied⟩ := acts.suffers dependable member troubles
    exact ⟨result, fun same => became.state.session.trans (emptied same)⟩
  | _ =>
    obtain ⟨n, request, outcome, -, sends, -⟩ := troubles
    cases sends

theorem leads_deals (dependable : surroundings.Dependable) (leaves : LeavesGuard surroundings nested caller)
    (opened : c.memory.guard.OpenTo caller) (rounds : Nat) (callback : Option CallbackId) (topics : Topics) :
    Leads (surroundings.host nested caller) (run settings rounds callback topics) c
      (Deals surroundings caller settings nested endpoint callback topics c) := by
  refine (leads_run dependable.logs leaves opened rounds).weaken ?_
  intro r later runs
  cases runs with
  | inactive inactive => exact .refused (fun ready => nomatch inactive.symm.trans ready.1) rfl
  | refused passed unready =>
    exact .refused (fun ready => unready ready.2) (passed.signals.trans (List.append_nil _))
  | looped active grouped chosen wanted begins stages loops finishes cleared =>
    obtain ⟨strides, unrolls⟩ :=
      unrolls_loop dependable.logs leaves begins.opened (fun _ => by rw [begins.session, active]) stages.looped
    refine .looped chosen wanted begins unrolls ?_ ?_ finishes
    · rintro stride member api e ⟨signals, event, move, added, among, asks, troubles⟩
      obtain ⟨past, rest, rfl⟩ := List.append_of_mem member
      exact unrolls.split.1.takes dependable added among asks troubles
    · rintro past stride rest e rfl guarded failed
      exact unrolls.dealsWith guarded failed

end

/-- A bad answer means to an operation what its status says, and to a loop what that makes of it. An endpoint sorts
the status by the table that comes with the request. Bad statuses and failing networks that the requests of an
operation meet are what the operation comes to, with the class that they mean to it; only a consumer that the service
does not know is deleted well. In a run, a call fails with the trouble that it meets. The loop builds a lost session
anew, and after any other such failure it deletes the consumer and raises the failure. -/
theorem failures_follow_statuses {surroundings : Surroundings} {settings : Settings} {caller : Thread} {c : Chronicle}
    (dependable : surroundings.Dependable) (opened : c.memory.guard.OpenTo caller) (depth : Nat)
    (endpoint : Http.Endpoint) :
    SortsByTable endpoint ∧
      (∀ move : Move, Leads (surroundings.hosting settings caller depth) (move.operation settings) c
        (Suffers endpoint settings move c)) ∧
      ∀ rounds callback topics, Leads (surroundings.hosting settings caller depth)
        (run settings rounds callback topics) c
        (Deals surroundings caller settings (perform surroundings settings caller depth) endpoint callback topics
          c) :=
  have leaves : LeavesGuard surroundings (perform surroundings settings caller depth) caller :=
    leavesGuard dependable.logs depth
  ⟨sortsByTable endpoint, leads_suffers endpoint dependable leaves opened,
    leads_deals endpoint dependable leaves opened⟩

/-- The endpoint of a service. -/
def plainEndpoint : Http.Endpoint := ⟨"https://service", none, .null, .int 1⟩

/-- The answer of a service that does not know what it is asked for. -/
def unknownPath : Http.Response := ⟨404, some "Not Found", [], []⟩

/-- A service that knows no consumer. -/
def Surroundings.forgetful : Surroundings :=
  { Surroundings.scripted [] [] (.ok (.bool true)) with
    reply := fun events call =>
      match call with
      | .send _ request => Http.verdict plainEndpoint request (.answered unknownPath)
      | other => (Surroundings.scripted [] [] (.ok (.bool true))).reply events other }

/-- A channel that holds a consumer. -/
def Chronicle.holding : Chronicle := ⟨{ State.initial with session := ⟨some "c", [.text "t"], true⟩ }, []⟩

/-- A commit fails with the loss of the session where a deletion comes to a good end, and a run may follow. -/
theorem forgotten_consumer_is_lost :
    Surroundings.forgetful.Dependable ∧ Chronicle.holding.memory.guard.OpenTo 0 ∧
      (exec (Surroundings.forgetful.hosting committing 0 1) (commit committing) .holding).1 =
        .error (.channel .sessionLost unknownPath.failureMessage (some "commit") (some 404) none) ∧
      (exec (Surroundings.forgetful.hosting committing 0 1) (delete committing) .holding).1 = .ok () ∧
      (exec (Surroundings.forgetful.hosting committing 0 1) (delete committing) .holding).2.memory.session = .fresh ∧
      Leads (Surroundings.forgetful.hosting committing 0 1) (run committing 1 (some 0) .absent) .holding
        (Deals .forgetful 0 committing (perform .forgetful committing 0 1) plainEndpoint (some 0) .absent
          .holding) := by
  have dependable : Surroundings.forgetful.Dependable :=
    ⟨fun _ _ => rfl, fun _ _ => rfl, fun _ _ => rfl, fun _ _ => rfl, fun _ => ⟨_, rfl⟩⟩
  have opened : Chronicle.holding.memory.guard.OpenTo 0 := .inl rfl
  obtain ⟨-, suffers, deals⟩ :=
    @failures_follow_statuses .forgetful committing 0 .holding dependable opened 1 plainEndpoint
  have committed : ∃ m,
      (exec (Surroundings.forgetful.hosting committing 0 1) (commit committing) .holding).2.signals =
        [] ++ [⟨m, .sent 0 (.offsets committing "c")
          (Http.verdict plainEndpoint (.offsets committing "c") (.answered unknownPath))⟩] := ⟨_, rfl⟩
  have deleted : ∃ m,
      (exec (Surroundings.forgetful.hosting committing 0 1) (delete committing) .holding).2.signals =
        [] ++ [⟨m, .sent 0 (.deletion committing "c")
          (Http.verdict plainEndpoint (.deletion committing "c") (.answered unknownPath))⟩] := ⟨_, rfl⟩
  obtain ⟨m, committed⟩ := committed
  obtain ⟨n, deleted⟩ := deleted
  obtain ⟨lost, -⟩ := suffers .commit _ committed _ (.head _) .commit _ ⟨_, _, _, rfl, .commit, rfl⟩
  obtain ⟨well, empty⟩ := suffers .delete _ deleted _ (.head _) .delete _ ⟨_, _, _, rfl, .delete, rfl⟩
  exact ⟨dependable, opened, lost, well, empty rfl, deals 1 (some 0) .absent⟩

end Channel

end ConsumerChannel
