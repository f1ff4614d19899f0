import ConsumerChannel.Proofs.Shapes
import ConsumerChannel.Proofs.Verdicts

/-! What becomes of an answer. Its status decides whether an endpoint refuses it or hands its text on, and the text
alone decides what an operation makes of that: either the text says what the operation asks for, or the operation fails
with transient trouble of its own name and leaves nothing half done. -/
namespace ConsumerChannel

namespace Shape
variable {shape : Shape α} {reader : Json → Checked α} {text : String}

/-- A text says one thing at most. -/
theorem ReadBy.unique (read : shape.ReadBy reader) {a b : α} (means : shape.SaidBy text a)
    (other : shape.SaidBy text b) : a = b :=
  Except.ok.inj ((read.ofText.mpr means).symm.trans (read.ofText.mpr other))

end Shape

namespace Channel
open Operation

/-! ## Statuses -/

/-- A status that an endpoint refuses. -/
def Refused (status : Int) : Prop := 400 ≤ status ∧ status < 600

instance (status : Int) : Decidable (Refused status) := inferInstanceAs (Decidable (_ ∧ _))

theorem Refused.iff {response : Http.Response} : Refused response.status ↔ response.isGood = false := by
  simp only [Refused, Http.Response.isGood, Bool.or_eq_false_iff, decide_eq_false_iff_not]
  omega

/-- An endpoint whose records are logged sorts an answer by its status alone. A refused one is a failure that carries
the status, of the class that the table has for it, or transient if there is no table or none in it. Of any other
answer it gives the text, or nothing if that is empty. -/
def SortsAnswers (endpoint : Http.Endpoint) : Prop :=
  ∀ (σ : Type) (host : (q : Http.Query) → σ → q.Answer × σ) (s : σ) (method : Method) (path : String)
    (body : Option String) (table : Option StatusTable) (response : Http.Response),
    (∀ r t, (host (.log r) t).1 = .ok ()) →
    (host (.exchange ⟨method, endpoint.url path, body⟩) s).1 = .answered response →
    let sent := ((Http.perform endpoint ⟨method, path, body, table.getD []⟩).run.execute host s).1
    (Refused response.status → sent = .error (.channel
      (.ofCategory ((table.bind fun t => t.lookup response.status).getD .transient)) response.failureMessage none
      (some response.status) none)) ∧
    (¬ Refused response.status → sent = .ok (if response.text = "" then none else some response.text))

/-- A refused answer is never a success to an operation, but for a deletion that the service knows no consumer for.
The operation fails with the status, with the class that it means to the operation, and under its name. -/
def HeedsRefusals (endpoint : Http.Endpoint) (settings : Settings) (move : Move) (c : Chronicle)
    (r : Except Failure Unit) (later : Chronicle) : Prop :=
  ∀ signals m n request response api, later.signals = c.signals ++ signals →
    (⟨m, .sent n request (Http.verdict endpoint request (.answered response))⟩ : Event) ∈ signals →
    move.Sends settings api request → Refused response.status →
    r = .error (.channel (.ofCategory (api.meaning response.status)) response.failureMessage (some api.name)
      (some response.status) none) ∨ api = .delete ∧ response.status = 404 ∧ r = .ok ()

theorem sortsAnswers (endpoint : Http.Endpoint) : SortsAnswers endpoint := by
  intro σ host s method path body table response quiet answered sent
  have same : sent = Http.verdict endpoint ⟨method, path, body, table.getD []⟩ (.answered response) :=
    answered ▸ Http.execute_perform quiet s
  refine ⟨fun refused => ?_, fun accepted => ?_⟩
  · obtain ⟨-, sorted, -⟩ := sortsByTable endpoint σ host s method path body table quiet
    obtain ⟨_, rfl, -, failed⟩ := sorted response answered refused.1 refused.2
    exact failed
  · have good : response.isGood = true := by simpa using accepted ∘ Refused.iff.mpr
    rw [same]
    exact if_pos good

/-- Only one status means that the service does not know a consumer. -/
private theorem unknown_of_class {api : Api} {status : Int} {message : String} {name : Option String}
    (lost : (Failure.channel (.ofCategory (api.meaning status)) message name (some status) none).class? =
      some .sessionLost) : status = 404 := by
  have category : api.meaning status = .sessionLost := by
    cases known : api.meaning status with
    | sessionLost => rfl
    | _ => simp [Failure.class?, known, FailureClass.ofCategory] at lost
  unfold Api.meaning at category
  grind

theorem leads_heedsRefusals {surroundings : Surroundings} {nested : List Move → Chronicle → Chronicle} {caller : Thread}
    {c : Chronicle} {settings : Settings} (endpoint : Http.Endpoint) (dependable : surroundings.Dependable)
    (leaves : LeavesGuard surroundings nested caller) (opened : c.memory.guard.OpenTo caller) (move : Move) :
    Leads (surroundings.host nested caller) (move.operation settings) c (HeedsRefusals endpoint settings move c) := by
  refine (leads_suffers endpoint dependable leaves opened move).weaken ?_
  intro r later suffers signals m n request response api added member sends refused
  obtain ⟨result, -⟩ := suffers signals added _ member api _ ⟨n, request, _, rfl, sends, if_pos refused⟩
  rw [result, Api.suffer]
  split
  · next forgiven =>
    obtain ⟨rfl, lost⟩ := forgiven
    exact .inr ⟨rfl, unknown_of_class lost, rfl⟩
  · exact .inl rfl

/-- An answer is refused just if its status is from 400 to 599. Such a status is a failure of the endpoint, of the
class that the table has for it, and of the operation that asked, whatever else is in the answer. With any other
status the text is handed on. -/
theorem answers_are_refused_from_400_to_599 {surroundings : Surroundings} {settings : Settings} {caller : Thread}
    {c : Chronicle} (dependable : surroundings.Dependable) (opened : c.memory.guard.OpenTo caller) (depth : Nat)
    (endpoint : Http.Endpoint) :
    SortsAnswers endpoint ∧ ∀ move : Move, Leads (surroundings.hosting settings caller depth)
      (move.operation settings) c (HeedsRefusals endpoint settings move c) :=
  ⟨sortsAnswers endpoint, leads_heedsRefusals endpoint dependable (leavesGuard dependable.logs depth) opened⟩

/-- A service that answers everything with one response. -/
def Surroundings.responding (response : Http.Response) : Surroundings :=
  { Surroundings.scripted [] [] (.ok (.bool true)) with
    reply := fun events call =>
      match call with
      | .send _ request => Http.verdict plainEndpoint request (.answered response)
      | other => (Surroundings.scripted [] [] (.ok (.bool true))).reply events other }

theorem Surroundings.responding_dependable (response : Http.Response) : (responding response).Dependable :=
  ⟨fun _ _ => rfl, fun _ _ => rfl, fun _ _ => rfl, fun _ _ => rfl, fun _ => ⟨_, rfl⟩⟩

/-- The answer of a service that breaks down, although it says that all is well. -/
def brokenDown : Http.Response := ⟨503, some "Service Unavailable", Text.encode "well", []⟩

/-- A commit that is answered so fails. -/
theorem broken_down_service_commits_nothing :
    (Surroundings.responding brokenDown).Dependable ∧ Chronicle.holding.memory.guard.OpenTo 0 ∧
      SortsAnswers plainEndpoint ∧
      (exec ((Surroundings.responding brokenDown).hosting committing 0 1) (commit committing) .holding).1 =
        .error (.channel .transient brokenDown.failureMessage (some "commit") (some 503) none) := by
  have dependable : (Surroundings.responding brokenDown).Dependable := Surroundings.responding_dependable _
  have opened : Chronicle.holding.memory.guard.OpenTo 0 := .inl rfl
  obtain ⟨sorts, heeds⟩ :=
    @answers_are_refused_from_400_to_599 _ committing 0 .holding dependable opened 1 plainEndpoint
  have committed : ∃ m,
      (exec ((Surroundings.responding brokenDown).hosting committing 0 1) (commit committing) .holding).2.signals =
        [] ++ [⟨m, .sent 0 (.offsets committing "c")
          (Http.verdict plainEndpoint (.offsets committing "c") (.answered brokenDown))⟩] := ⟨_, rfl⟩
  obtain ⟨m, committed⟩ := committed
  have refused : Refused brokenDown.status := by decide +kernel
  rcases heeds .commit _ _ _ _ _ .commit committed (.head _) .commit refused with failed | ⟨⟨⟩, -⟩
  exact ⟨dependable, opened, sorts, failed⟩

/-- The answer of a service that leaves the choice to whoever asks. -/
def manyChoices : Http.Response :=
  ⟨300, some "Multiple Choices", Text.encode "\x7b\"consumerInstanceId\": \"phantom\"\x7d", []⟩

/-- A network that brings one answer to everything. -/
def network (response : Http.Response) : (q : Http.Query) → Unit → q.Answer × Unit
  | .exchange _, s => (.answered response, s)
  | .log _, s => (.ok (), s)

/-- An answer with a status beyond 299 is taken for a success: a consumer is recorded that nobody created. -/
theorem choices_found_phantom :
    ¬ (200 ≤ manyChoices.status ∧ manyChoices.status < 300) ∧
      (∀ path body, ((Http.perform plainEndpoint ⟨.post, path, body, .ofApi .create⟩).run.execute
        (network manyChoices) ()).1 = .ok (some manyChoices.text)) ∧
      ∃ later, exec ((Surroundings.responding manyChoices).hosting committing 0 1) (create committing) (.start 0) =
          (.ok (), later) ∧ later.memory.session = ⟨some "phantom", [], true⟩ := by
  refine ⟨by decide, fun path body => ?_, ?_⟩
  · have accepted : ¬ Refused manyChoices.status := by decide +kernel
    have filled : manyChoices.text ≠ "" := by decide +kernel
    have sorted := sortsAnswers plainEndpoint Unit (network manyChoices) () .post path body (some (.ofApi .create)) _
      (fun _ _ => rfl) rfl
    exact (sorted.2 accepted).trans (congrArg Except.ok (if_neg filled))
  · have well : (exec ((Surroundings.responding manyChoices).hosting committing 0 1) (create committing)
        (.start 0)).1.isOk = true := by decide +kernel
    have founded : (exec ((Surroundings.responding manyChoices).hosting committing 0 1) (create committing)
        (.start 0)).2.memory.session = ⟨some "phantom", [], true⟩ :=
      Session.eq_of_topicless (by decide +kernel) (by decide +kernel) (by decide +kernel)
    cases ran : exec ((Surroundings.responding manyChoices).hosting committing 0 1) (create committing) (.start 0) with
    | mk r later =>
      rw [ran] at well founded
      cases r with
      | error e => cases well
      | ok _ => exact ⟨later, rfl, founded⟩

/-! ## Texts -/

/-- What an operation makes of a text that ought to say a value of a shape. -/
inductive Grasps (api : Api) (shape : Shape α) (text : String) : Except Failure α → Prop where
  | said (means : shape.SaidBy text a) (only : ∀ b, shape.SaidBy text b → b = a) : Grasps api shape text (.ok a)
  | empty (empty : text = "") (senseless : ∀ a, ¬ shape.SaidBy text a) :
      Grasps api shape text (.error (emptyFailure api))
  | illegible (filled : text ≠ "") (senseless : ∀ a, ¬ shape.SaidBy text a) (issues : List Issue) :
      Grasps api shape text (.error (illegibleFailure api issues))

/-- A new consumer is recorded under the name that the text says. A text that says none leaves no consumer and no
topics. -/
inductive Founds (text : String) : Except Failure Unit → Session String Value → Prop where
  | founded (grasps : Grasps .create .identity text (.ok created)) (named : created.id ≠ "") :
      Founds text (.ok ()) ⟨some created.id, [], true⟩
  | unfounded (grasps : Grasps .create .identity text (.error e)) : Founds text (.error e) ⟨none, [], true⟩

/-- The topics that a text lists. An empty text lists none. -/
inductive Lists (text : String) : Except Failure (List String) → Prop where
  | none (empty : text = "") : Lists text (.ok [])
  | some (filled : text ≠ "") (grasps : Grasps .subscriptions .topics text r) : Lists text r

/-- The one request of an operation is not refused, and this is the text of the answer; an answer may have none. -/
def Receives (before after : Chronicle) (text : String) : Prop :=
  ∃ m n request answer, after.signals = before.signals ++ [⟨m, .sent n request (.ok answer)⟩] ∧ answer.getD "" = text

section
variable {surroundings : Surroundings} {nested : List Move → Chronicle → Chronicle} {caller : Thread}
  {c later : Chronicle} {settings : Settings} {m : State} {left : Session String Value} {signals : List Event}
  {shape : Shape α} {reader : Json → Checked α} {api : Api} {answer : Option String}

theorem grasps_comprehended (read : shape.ReadBy reader) (api : Api) (answer : Option String) :
    Grasps api shape (answer.getD "") (comprehended api (Batch.readText reader) answer) := by
  have senseless {issues : List Issue} (refused : Batch.readText reader (answer.getD "") = .error issues) (a : α) :
      ¬ shape.SaidBy (answer.getD "") a := fun means => nomatch refused.symm.trans (read.ofText.mpr means)
  unfold comprehended
  split
  · next empty =>
    have blank : Batch.readText reader (answer.getD "") = .error [⟨[], .invalidJson⟩] := by
      rw [empty]
      rfl
    exact .empty empty (senseless blank)
  · next filled =>
    cases result : Batch.readText reader (answer.getD "") with
    | ok a => exact .said (read.ofText.mp result) fun b means => read.unique means (read.ofText.mp result)
    | error issues => exact .illegible filled (senseless result) issues

theorem comprehended_of_denotes (api : Api) {read : String → Checked α} {a : α} (denotes : Denotes read answer a) :
    comprehended api read answer = .ok a := by
  obtain ⟨text, rfl, filled, known⟩ := denotes
  simp only [comprehended, Option.getD_some, if_neg filled, known]
  rfl

/-- Reads what an operation with one request received off its outcome. -/
theorem Receives.signals_eq {text : String} (receives : Receives c later text)
    (added : later.signals = c.signals ++ signals) :
    ∃ m n request answer, signals = [⟨m, .sent n request (.ok answer)⟩] ∧ answer.getD "" = text := by
  obtain ⟨m, n, request, answer, ends, denoted⟩ := receives
  exact ⟨m, n, request, answer, List.append_cancel_left (added.symm.trans ends), denoted⟩

theorem Creates.founds {r : Except Failure Unit} {text : String}
    (creates : Creates surroundings caller settings m r left signals)
    (explains : Explains surroundings .create CreatedConsumer.ofText r signals) (quiet : surroundings.LogsQuietly)
    (receives : ∃ m n request answer, signals = [⟨m, .sent n request (.ok answer)⟩] ∧ answer.getD "" = text) :
    Founds text r left := by
  obtain ⟨_, n, request, answer, rfl, rfl⟩ := receives
  have grasps := grasps_comprehended Shape.identity_readBy .create answer
  generalize sent : [_] = signals at creates
  cases creates with
  | groupless missing => cases sent
  | unsent e reason => cases sent
  | failed written amid e => cases sent
  | unread written amid meaningless misread =>
    cases sent
    have made := explains quiet _ _ _ _ _ rfl rfl
    exact .unfounded (made ▸ grasps)
  | @made _ body within _ id written amid named calm =>
    cases sent
    cases calm quiet
    have made := comprehended_of_denotes .create named
    obtain ⟨text, -, -, known⟩ := named
    have grasped : Grasps .create .identity _ (.ok ⟨id⟩) := made ▸ grasps
    exact .founded grasped (CreatedConsumer.id_ne_empty known)

theorem Inquires.lists {r : Except Failure (List String)} {text : String}
    (inquires : Inquires surroundings caller settings m r left signals)
    (explains : Explains surroundings .subscriptions topicsOfText r signals) (quiet : surroundings.LogsQuietly)
    (receives : ∃ m n request answer, signals = [⟨m, .sent n request (.ok answer)⟩] ∧ answer.getD "" = text) :
    Lists text r := by
  obtain ⟨_, n, request, answer, rfl, rfl⟩ := receives
  have grasps := grasps_comprehended Shape.topics_readBy .subscriptions answer
  generalize sent : [_] = signals at inquires
  cases inquires with
  | unheld absent => cases sent
  | failed held amid e => cases sent
  | unread held amid filled meaningless misread =>
    cases sent
    have made := explains quiet _ _ _ _ _ rfl rfl
    refine .some ?_ (made ▸ grasps)
    cases answer with
    | none => exact absurd rfl filled.1
    | some text => exact fun empty => filled.2 (congrArg some empty)
  | listed held amid denoted =>
    cases sent
    rcases denoted with ⟨rfl | rfl, rfl⟩ | denotes
    · exact .none rfl
    · exact .none rfl
    · have made := comprehended_of_denotes .subscriptions denotes
      obtain ⟨text, rfl, filled, -⟩ := denotes
      exact .some filled (made ▸ grasps)

theorem Inquires.session_eq {r : Except Failure (List String)}
    (inquires : Inquires surroundings caller settings m r left signals) : left = m.session := by
  cases inquires <;> rfl

theorem Consumes.grasps {timeout : Value} {r : Except Failure Batch} {text : String}
    (consumes : Consumes surroundings caller settings timeout m r left signals)
    (explains : Explains surroundings .consume Batch.ofText r signals) (quiet : surroundings.LogsQuietly)
    (receives : ∃ m n request answer, signals = [⟨m, .sent n request (.ok answer)⟩] ∧ answer.getD "" = text) :
    Grasps .consume .batch text r := by
  obtain ⟨_, n, request, answer, rfl, rfl⟩ := receives
  have grasps := grasps_comprehended Shape.batch_readBy .consume answer
  generalize sent : [_] = signals at consumes
  cases consumes with
  | unsubscribed topicless => cases sent
  | unheld absent => cases sent
  | incomparable fault => cases sent
  | failed subscribed held amid e => cases sent
  | unread subscribed held amid meaningless misread =>
    cases sent
    have made := explains quiet _ _ _ _ _ rfl rfl
    exact made ▸ grasps
  | read subscribed held amid denoted calm =>
    cases sent
    cases calm quiet
    exact comprehended_of_denotes .consume denoted ▸ grasps

end

/-- An endpoint hands on the text of every answer with a status from 200 to 299, which may be none if it is empty. -/
def HandsOnTexts (endpoint : Http.Endpoint) : Prop :=
  ∀ (σ : Type) (host : (q : Http.Query) → σ → q.Answer × σ) (s : σ) (request : Request) (response : Http.Response),
    (∀ r t, (host (.log r) t).1 = .ok ()) →
    (host (.exchange ⟨request.method, endpoint.url request.path, request.body⟩) s).1 = .answered response →
    200 ≤ response.status → response.status < 300 →
    ∃ answer, ((Http.perform endpoint request).run.execute host s).1 = .ok answer ∧ answer.getD "" = response.text

theorem handsOnTexts (endpoint : Http.Endpoint) : HandsOnTexts endpoint := by
  intro σ host s request response quiet answered low high
  rw [Http.execute_perform quiet, answered]
  have good : response.isGood = true := by
    simp only [Http.Response.isGood, Bool.or_eq_true, decide_eq_true_eq]
    omega
  refine ⟨_, if_pos good, ?_⟩
  split
  · next empty => exact empty.symm
  · rfl

section
variable {surroundings : Surroundings} {nested : List Move → Chronicle → Chronicle} {caller : Thread}
  {c : Chronicle} {settings : Settings}

/-- An operation that is refused at once receives nothing. -/
theorem not_receives_self {text : String} : ¬ Receives c c text := by
  rintro ⟨m, n, request, answer, added, -⟩
  simp at added

theorem leads_founds (quiet : surroundings.LogsQuietly) (opened : c.memory.guard.OpenTo caller) :
    Leads (surroundings.host nested caller) (create settings) c fun r later =>
      ∀ text, Receives c later text → Founds text r later.memory.session := by
  cases active : c.memory.session.active with
  | true =>
    refine (leads_create_explained opened active).weaken ?_
    rintro r later ⟨left, signals, ⟨creates, explains⟩, became⟩ text receives
    rw [became.state.session]
    exact creates.founds explains quiet (receives.signals_eq became.signals)
  | false =>
    unfold Leads create
    rw [exec_named_inactive opened active]
    exact fun text receives => absurd receives not_receives_self

theorem leads_lists (quiet : surroundings.LogsQuietly) (opened : c.memory.guard.OpenTo caller) :
    Leads (surroundings.host nested caller) (subscriptions settings) c fun r later =>
      later.memory.session = c.memory.session ∧ ∀ text, Receives c later text → Lists text r := by
  cases active : c.memory.session.active with
  | true =>
    refine (leads_subscriptions_explained opened active).weaken ?_
    rintro r later ⟨left, signals, ⟨inquires, explains⟩, became⟩
    exact ⟨became.state.session.trans inquires.session_eq, fun text receives =>
      inquires.lists explains quiet (receives.signals_eq became.signals)⟩
  | false =>
    unfold Leads subscriptions
    rw [exec_named_inactive opened active]
    exact ⟨rfl, fun text receives => absurd receives not_receives_self⟩

theorem leads_grasps (quiet : surroundings.LogsQuietly) (opened : c.memory.guard.OpenTo caller) (timeout : Value) :
    Leads (surroundings.host nested caller) (consume settings timeout) c fun r later =>
      later.memory.session = c.memory.session ∧ ∀ text, Receives c later text → Grasps .consume .batch text r := by
  cases active : c.memory.session.active with
  | true =>
    refine (leads_consume_explained opened active timeout).weaken ?_
    rintro r later ⟨left, signals, ⟨consumes, explains⟩, became⟩
    exact ⟨became.state.session.trans consumes.session_eq, fun text receives =>
      consumes.grasps explains quiet (receives.signals_eq became.signals)⟩
  | false =>
    unfold Leads consume
    rw [exec_named_inactive opened active]
    exact ⟨rfl, fun text receives => absurd receives not_receives_self⟩

end

/-- Whatever text a good answer has, it is handed on and taken for what it says. Creating records the consumer that
the text names, which is never an empty name, and topics and batches are what the text lists. An operation that the
text tells nothing to, because it is no document of the shape that it ought to have, fails with transient trouble of
its own name, caused by the issues that were found if there is a text. Then creating leaves neither consumer nor
topics. The others never touch the session, and to ask for topics an empty text is as good as an empty list. -/
theorem texts_are_grasped_or_transient {surroundings : Surroundings} {settings : Settings} {caller : Thread}
    {c : Chronicle} (quiet : surroundings.LogsQuietly) (opened : c.memory.guard.OpenTo caller) (depth : Nat)
    (endpoint : Http.Endpoint) :
    HandsOnTexts endpoint ∧
      Leads (surroundings.hosting settings caller depth) (create settings) c (fun r later =>
        ∀ text, Receives c later text → Founds text r later.memory.session) ∧
      Leads (surroundings.hosting settings caller depth) (subscriptions settings) c (fun r later =>
        later.memory.session = c.memory.session ∧ ∀ text, Receives c later text → Lists text r) ∧
      ∀ timeout, Leads (surroundings.hosting settings caller depth) (consume settings timeout) c fun r later =>
        later.memory.session = c.memory.session ∧ ∀ text, Receives c later text → Grasps .consume .batch text r :=
  ⟨handsOnTexts endpoint, leads_founds quiet opened, leads_lists quiet opened, leads_grasps quiet opened⟩

/-! ## A text that says little -/

/-- A document that names a consumer with nothing, and is a batch without records. -/
def namelessText : String := "\x7b\"consumerInstanceId\": \"\"\x7d"

/-- A service that answers so. -/
def Surroundings.nameless : Surroundings := .scripted [.ok (some namelessText)] [] (.ok .null)

/-- The answer to the only request, if it was not refused. -/
def onlyAnswer? (c : Chronicle) : Option (Option String) :=
  match c.signals with
  | [⟨_, .sent _ _ (.ok answer)⟩] => some answer
  | _ => none

private theorem receives_of_onlyAnswer {later : Chronicle} {answer : Option String}
    (only : onlyAnswer? later = some answer) :
    Receives .holding later (answer.getD "") := by
  unfold onlyAnswer? at only
  split at only
  · next m n request given single =>
    cases only
    exact ⟨m, n, request, _, single, rfl⟩
  · cases only

/-- No consumer is created from such an answer, and what was held is forgotten; a batch without records is pulled. -/
theorem nameless_text_founds_nothing :
    Surroundings.nameless.LogsQuietly ∧ Chronicle.holding.memory.guard.OpenTo 0 ∧ HandsOnTexts plainEndpoint ∧
      (∃ e later, exec (Surroundings.nameless.hosting committing 0 1) (create committing) .holding = (.error e, later) ∧
        Receives .holding later namelessText ∧ Founds namelessText (.error e) later.memory.session) ∧
      ∃ later, exec (Surroundings.nameless.hosting committing 0 1) (consume committing (.int 0)) .holding =
          (.ok ⟨[]⟩, later) ∧
        Receives .holding later namelessText ∧ Grasps .consume .batch namelessText (.ok ⟨[]⟩) ∧
        later.memory.session = Chronicle.holding.memory.session := by
  have quiet : Surroundings.nameless.LogsQuietly := fun _ _ => rfl
  have opened : Chronicle.holding.memory.guard.OpenTo 0 := .inl rfl
  obtain ⟨handsOn, founds, -, grasps⟩ :=
    @texts_are_grasped_or_transient .nameless committing 0 .holding quiet opened 1 plainEndpoint
  refine ⟨quiet, opened, handsOn, ?_, ?_⟩
  · have failed : (exec (Surroundings.nameless.hosting committing 0 1) (create committing)
        .holding).1.isOk = false := by decide +kernel
    have received : onlyAnswer? (exec (Surroundings.nameless.hosting committing 0 1) (create committing) .holding).2 =
        some (some namelessText) := by decide +kernel
    unfold Leads at founds
    cases ran : exec (Surroundings.nameless.hosting committing 0 1) (create committing) .holding with
    | mk r later =>
      rw [ran] at failed received founds
      have receives := receives_of_onlyAnswer received
      cases r with
      | ok _ => cases failed
      | error e => exact ⟨e, later, rfl, receives, founds _ receives⟩
  · have pulled : ((exec (Surroundings.nameless.hosting committing 0 1) (consume committing (.int 0)) .holding).1.map
        (·.records.length)).toOption = some 0 := by decide +kernel
    have received : onlyAnswer? (exec (Surroundings.nameless.hosting committing 0 1) (consume committing (.int 0))
        .holding).2 = some (some namelessText) := by decide +kernel
    have led := grasps (.int 0)
    unfold Leads at led
    cases ran : exec (Surroundings.nameless.hosting committing 0 1) (consume committing (.int 0)) .holding with
    | mk r later =>
      rw [ran] at pulled received led
      have receives := receives_of_onlyAnswer received
      obtain ⟨kept, grasped⟩ := led
      cases r with
      | error e => cases pulled
      | ok batch =>
        obtain ⟨records⟩ := batch
        cases records with
        | cons r rest => cases pulled
        | nil => exact ⟨later, rfl, receives, grasped _ receives, kept⟩

end Channel

end ConsumerChannel
