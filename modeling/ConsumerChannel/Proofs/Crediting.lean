import Mathlib.Data.List.Induction
import ConsumerChannel.Proofs.Vouching

/-! What log records are credited to. Whatever threads share a channel, and whatever their callbacks do with it: while a
thread has a request for a consumer under way, its log context says which group, which consumer and which operation the
request is about. There is one exception. A subscription that finds no consumer has one made first; making it names it
in the log context, but only until the making ends, and the subscription goes on with the context that it found, which
names no consumer. -/
namespace ConsumerChannel.Channel

/-! ## What is shared -/

namespace Credence
variable {k : Credence} {s : Step}

theorem after_context (other : s.part ≠ some .context) (answer : s.Reply) :
    (k.after (.step s) answer).context = k.context := by
  cases s <;> first | exact absurd rfl other | rfl | (cases answer <;> rfl)

/-- Only the guard decides whether a thread can know anything. -/
theorem after_unsure (other : s.part ≠ some .guard) (answer : s.Reply) :
    (k.after (.step s) answer).sight = .unsure ↔ k.sight = .unsure := by
  obtain ⟨context, sight⟩ := k
  cases s <;> first
    | exact absurd rfl other
    | exact Iff.rfl
    | cases sight <;> simp [after, looking, Sight.look, Sight.forget]

end Credence

/-- A step records another consumer, or none. -/
def Step.Records : Step → Prop
  | .setConsumer _ _ | .resetSession _ => True
  | _ => False

theorem Step.consumer_apply (s : Step) (keeps : ¬ s.Records) (t : Thread) (m : State) :
    (s.apply t m).2.session.consumer = m.session.consumer := by
  by_cases writes : s.part = some .session
  · cases s with
    | setConsumer id api => exact absurd trivial keeps
    | resetSession api => exact absurd trivial keeps
    | replaceTopics topics api =>
      exact Step.attempt_keeps (·.session.consumer = m.session.consumer) rfl fun later recorded =>
        Session.consumer_replaceTopics recorded
    | deactivate => rfl
    | _ => cases writes
  · have same : (s.apply t m).2.session = m.session := s.apply_leaves writes t m
    rw [same]

/-- What threads have of a channel and can vouch for, and what is in its memory, bear each other out. -/
structure Agrees (settings : Settings) (accounts : Thread → Holdings × Credence) (m : Shared) : Prop where
  tallies : Tallies (fun t => (accounts t).1) m
  contexts : ∀ t, (accounts t).2.context = m.contexts t
  claims : ∀ t, (accounts t).2.sight ≠ .unsure → 0 < (accounts t).1.claims
  seen : ∀ t consumer, (accounts t).2.sight = .seen consumer → m.state.session.consumer = consumer
  grouped : m.state.session.consumer ≠ none → settings.group ≠ .null

namespace Agrees
variable {settings : Settings} {accounts : Thread → Holdings × Credence} {m : Shared} {t : Thread} {s : Step}

section
variable (agrees : Agrees settings accounts m)
include agrees

theorem allowed : (accounts t).2.allows settings (.step s) (s.apply t (m.seenBy t)).1 := by
  cases s with
  | context => exact (agrees.contexts t).symm
  | session =>
    refine ⟨agrees.seen t, fun id recorded => ⟨agrees.tallies.session.named id recorded, agrees.grouped ?_⟩⟩
    intro nobody
    cases nobody.symm.trans recorded
  | _ => exact trivial

theorem context_stepped : ((accounts t).2.after (.step s) (s.apply t (m.seenBy t)).1).context =
    (s.apply t (m.seenBy t)).2.context := by
  by_cases writes : s.part = some .context
  · cases s with
    | changeContext change => exact congrArg (LogContext.apply · change) (agrees.contexts t)
    | _ => cases writes
  · have same : (s.apply t (m.seenBy t)).2.context = m.contexts t := s.apply_leaves writes t (m.seenBy t)
    rw [Credence.after_context writes, same, agrees.contexts t]

theorem claims_stepped (sure : ((accounts t).2.after (.step s) (s.apply t (m.seenBy t)).1).sight ≠ .unsure) :
    0 < ((accounts t).1.after (.step s) (s.apply t (m.seenBy t)).1).claims := by
  by_cases writes : s.part = some .guard
  · cases s with
    | acquire api =>
      generalize (Step.apply t (.acquire api) (m.seenBy t)).1 = answer at sure
      cases answer with
      | ok _ => exact Nat.succ_pos _
      | error e => exact agrees.claims t sure
    | release => exact absurd rfl sure
    | _ => cases writes
  · rw [Holdings.after_claims writes]
    exact agrees.claims t fun unsure => sure ((Credence.after_unsure writes _).mpr unsure)

/-- What the thread that takes a step has seen is there after it. -/
theorem seen_stepped {consumer : Option String}
    (seen : ((accounts t).2.after (.step s) (s.apply t (m.seenBy t)).1).sight = .seen consumer) :
    (s.apply t (m.seenBy t)).2.session.consumer = consumer := by
  have forgotten (sight : Sight) : sight.forget ≠ .seen consumer := by
    cases sight <;> exact nofun
  cases s with
  | setConsumer id api => exact absurd seen (forgotten _)
  | resetSession api => exact absurd seen (forgotten _)
  | session =>
    have looked : (accounts t).2.sight.look m.state.session.consumer = .seen consumer := seen
    revert looked
    cases (accounts t).2.sight with
    | unsure => exact nofun
    | claimed | seen known => exact Sight.seen.inj
  | acquire api =>
    rw [Step.consumer_apply _ (by exact id)]
    generalize (Step.apply t (.acquire api) (m.seenBy t)).1 = answer at seen
    cases answer with
    | ok _ => cases seen
    | error e => exact agrees.seen t consumer seen
  | release => cases seen
  | _ =>
    rw [Step.consumer_apply _ (by exact id)]
    exact agrees.seen t consumer seen

/-- What another thread has seen under the guard stays as it is. -/
theorem seen_otherwise (permitted : (accounts t).1.permits (.step s)) {u : Thread} (other : u ≠ t)
    {consumer : Option String} (seen : (accounts u).2.sight = .seen consumer) :
    (s.apply t (m.seenBy t)).2.session.consumer = consumer := by
  have theirs : 0 < (accounts u).1.claims := agrees.claims u (by rw [seen]; exact nofun)
  have unrecorded : ¬ s.Records := by
    intro records
    have mine : 0 < (accounts t).1.claims := by
      cases s with
      | setConsumer id api => exact permitted.1
      | resetSession api => exact permitted
      | _ => exact records.elim
    exact other (agrees.tallies.guard.alone theirs mine)
  rw [Step.consumer_apply s unrecorded]
  exact agrees.seen u consumer seen

theorem grouped_stepped (permitted : (accounts t).2.permits settings (.step s))
    (recorded : (s.apply t (m.seenBy t)).2.session.consumer ≠ none) : settings.group ≠ .null := by
  by_cases records : s.Records
  · cases s with
    | setConsumer id api => exact permitted
    | resetSession api =>
      refine agrees.grouped fun nobody => recorded ?_
      exact Step.attempt_keeps (·.session.consumer = none) nobody fun later forgotten =>
        Session.consumer_reset forgotten
    | _ => exact records.elim
  · rw [Step.consumer_apply s records] at recorded
    exact agrees.grouped recorded

end

/-- What threads have and can vouch for goes on to agree with what is in the memory. -/
theorem govern (settings : Settings) :
    (Holdings.discipline.and (crediting settings)).Governs (aroundChannel settings) (Agrees settings) where
  aside permitted may := by
    obtain ⟨calm, credible⟩ := permitted
    obtain ⟨⟨id, batch, consumer, rfl⟩, moves, rfl⟩ := may
    refine (((holdings_govern settings).aside calm ⟨⟨id, batch, consumer, rfl⟩, moves, rfl⟩).and
      (crediting_client moves credible)).weaken ?_
    rintro r later ⟨held, vouched⟩
    exact Prod.ext held vouched
  turn := by
    intro accounts t q m answer later agrees permitted answers
    obtain ⟨allowed, tallies⟩ := (holdings_govern settings).turn agrees.tallies permitted.1 answers
    cases q with
    | outside call =>
      cases answers
      refine ⟨⟨allowed, trivial⟩, ?_⟩
      show Agrees settings (assign accounts t (accounts t)) m
      rwa [assign_same]
    | step s =>
      obtain ⟨rfl, rfl⟩ := answers
      refine ⟨⟨allowed, agrees.allowed⟩, ?_, ?_, ?_, ?_, agrees.grouped_stepped permitted.2⟩
      · rwa [assign_project Prod.fst]
      · intro u
        by_cases same : u = t
        · subst same
          rw [assign_self]
          exact agrees.context_stepped.trans (assign_self ..).symm
        · rw [assign_other _ _ same]
          exact (agrees.contexts u).trans (assign_other _ _ same).symm
      · intro u sure
        by_cases same : u = t
        · subst same
          rw [assign_self] at sure ⊢
          exact agrees.claims_stepped sure
        · rw [assign_other _ _ same] at sure ⊢
          exact agrees.claims u sure
      · intro u consumer seen
        by_cases same : u = t
        · subst same
          rw [assign_self] at seen
          exact agrees.seen_stepped seen
        · rw [assign_other _ _ same] at seen
          exact agrees.seen_otherwise permitted.1 same seen

end Agrees

/-! ## Requests under way -/

/-- By its turns a thread has claimed the guard and given no claim up since: no operation has ended within the one that
it is in. -/
def Engaged (turns : List Turn) : Prop :=
  ∃ past t api since, turns = past ++ ⟨t, .step (.acquire api), .ok ()⟩ :: since ∧
    ∀ turn ∈ since, turn.query ≠ .step .release

/-- A thread has sent a request that is not answered yet. -/
def Crowd.HasUnderWay (crowd : Crowd Shared) (t : Thread) (request : Request) : Prop :=
  ∃ n next, crowd.programs t = .ask (.outside (.send n request)) next

/-- A request is under way in a log context: it asks for a new consumer, or the log context names group, consumer and
operation. Only a subscription within which another operation has ended, its consumer's creation, goes on in one that
names no consumer. -/
inductive Credited (settings : Settings) (turns : List Turn) (context : LogContext) : Request → Prop where
  | creation (body : String) : Credited settings turns context (.creation settings body)
  | named {id : String} {api : Api} {request : Request} (concerns : request.Concerns settings id api)
      (engaged : Engaged turns) (same : context = ⟨settings.group, .text id, .text api.name⟩) :
      Credited settings turns context request
  | nameless {id : String} {request : Request} (concerns : request.Concerns settings id .subscribe)
      (back : ¬ Engaged turns) (same : context = ⟨settings.group, .text "", .text Api.subscribe.name⟩) :
      Credited settings turns context request

private theorem engaged_snoc_acquire (turns : List Turn) (t : Thread) (api : Option String) :
    Engaged (turns ++ [⟨t, .step (.acquire api), .ok ()⟩]) :=
  ⟨turns, t, api, [], rfl, List.forall_mem_nil _⟩

private theorem engaged_snoc {turns : List Turn} {turn : Turn}
    (other : ∀ t api, turn ≠ ⟨t, .step (.acquire api), .ok ()⟩) :
    Engaged (turns ++ [turn]) ↔ Engaged turns ∧ turn.query ≠ .step .release := by
  constructor
  · rintro ⟨past, t, api, since, same, kept⟩
    rcases split_append same with ⟨rest, rfl, rfl⟩ | ⟨rest, -, last⟩
    · obtain ⟨earlier, latest⟩ := List.forall_mem_append.mp kept
      exact ⟨⟨past, t, api, rest, rfl, earlier⟩, latest turn List.mem_cons_self⟩
    · cases rest with
      | nil => exact absurd (List.cons.inj last).1 (other t api)
      | cons => simp at last
  · rintro ⟨⟨past, t, api, since, rfl, kept⟩, last⟩
    refine ⟨past, t, api, since ++ [turn], by simp, ?_⟩
    exact List.forall_mem_append.mpr ⟨kept, List.forall_mem_singleton.mpr last⟩

/-- A thread can know something of the consumer exactly while it is engaged. -/
private theorem unsure_iff_not_engaged (settings : Settings) (context : LogContext) (turns : List Turn) :
    ((crediting settings).account ⟨context, .unsure⟩ turns).sight = .unsure ↔ ¬ Engaged turns := by
  induction turns using List.reverseRecOn with
  | nil =>
    refine iff_of_true rfl ?_
    rintro ⟨past, t, api, since, none, -⟩
    simp at none
  | append_singleton turns turn ih =>
    obtain ⟨t, q, answer⟩ := turn
    have last : (crediting settings).account ⟨context, .unsure⟩ (turns ++ [⟨t, q, answer⟩]) =
        ((crediting settings).account ⟨context, .unsure⟩ turns).after q answer := List.foldl_append
    rw [last]
    have still (unguarded : q ≠ .step .release)
        (same : (((crediting settings).account ⟨context, .unsure⟩ turns).after q answer).sight = .unsure ↔
          ((crediting settings).account ⟨context, .unsure⟩ turns).sight = .unsure)
        (other : ∀ u api, (⟨t, q, answer⟩ : Turn) ≠ ⟨u, .step (.acquire api), .ok ()⟩) :
        (((crediting settings).account ⟨context, .unsure⟩ turns).after q answer).sight = .unsure ↔
          ¬ Engaged (turns ++ [⟨t, q, answer⟩]) := by
      rw [engaged_snoc other, same, ih]
      simp [unguarded]
    cases q with
    | outside call => exact still nofun Iff.rfl nofun
    | step s =>
      by_cases writes : s.part = some .guard
      · cases s with
        | acquire api =>
          cases answer with
          | ok _ => exact iff_of_false nofun (not_not_intro (engaged_snoc_acquire turns t api))
          | error e => exact still nofun Iff.rfl nofun
        | release =>
          refine iff_of_true rfl ?_
          rw [engaged_snoc (by rintro u api ⟨⟩)]
          exact fun engaged => engaged.2 rfl
        | _ => cases writes
      · refine still ?_ (Credence.after_unsure writes answer) ?_
        · rintro ⟨⟩
          exact writes rfl
        · rintro u api ⟨⟩
          exact writes rfl

section
variable {settings : Settings} {start crowd : Crowd Shared} {turns : List Turn} {t : Thread} {request : Request}

/-- Threads that gather around a new channel can vouch for nothing. -/
theorem Gathers.agrees (gathers : Gathers settings start) :
    Agrees settings (fun t => (.none (start.memory.contexts t), ⟨start.memory.contexts t, .unsure⟩))
      start.memory := by
  obtain ⟨context, transport, fresh⟩ := gathers.fresh
  refine ⟨gathers.tallies_nothing, fun _ => rfl, fun _ sure => absurd rfl sure, nofun, ?_⟩
  rw [fresh]
  exact fun recorded => absurd rfl recorded

/-- Threads share a new channel, whose log contexts name no consumer at first, and make any moves with it, also within
callbacks, in any interleaving. While a request for a consumer is under way, the log context of the thread that has sent
it names the group, the very consumer that the request is for and the operation; unless this is a subscription within
which its consumer has just been created, which is exactly when no consumer is named. -/
theorem requests_under_way_are_credited (gathers : Gathers settings start)
    (unnamed : ∀ t, (start.memory.contexts t).consumer = .text "")
    (runs : Crowd.Runs (aroundChannel settings) start turns crowd) (underWay : crowd.HasUnderWay t request) :
    Credited settings (own t turns) (crowd.memory.contexts t) request := by
  obtain ⟨n, next, asks⟩ := underWay
  have obeys (u : Thread) : Obeys (Holdings.discipline.and (crediting settings)) (start.programs u)
      (.none (start.memory.contexts u), ⟨start.memory.contexts u, .unsure⟩) fun _ _ => True := by
    obtain ⟨moves, same⟩ := gathers.clients u
    have calm : Credence.Calm ⟨start.memory.contexts u, .unsure⟩ := ⟨unnamed u, rfl⟩
    have credible : Obeys (crediting settings) (client settings moves) ⟨start.memory.contexts u, .unsure⟩ fun _ later =>
        later = ⟨start.memory.contexts u, .unsure⟩ := crediting_client moves calm
    rw [← same] at credible
    exact ((gathers.obeys u).and credible).weaken fun _ _ _ => trivial
  obtain ⟨agrees, goesOn⟩ := (Agrees.govern settings).runs gathers.agrees obeys runs
  have asked := goesOn t
  rw [asks] at asked
  have account : (Holdings.discipline.and (crediting settings)).accounts
      (fun u => (.none (start.memory.contexts u), ⟨start.memory.contexts u, .unsure⟩)) turns t =
        (_, (crediting settings).account ⟨start.memory.contexts t, .unsure⟩ (own t turns)) := account_and
  have context := agrees.contexts t
  have permitted := asked.1.2
  rw [account] at context permitted
  rw [← context]
  have sight := unsure_iff_not_engaged settings (start.memory.contexts t) (own t turns)
  obtain ⟨body, rfl⟩ | ⟨id, api, concerns, credits⟩ := permitted
  · exact .creation body
  · unfold Credence.Credits at credits
    split at credits
    · next unsure =>
      obtain ⟨rfl, same⟩ := credits
      exact .nameless concerns (sight.mp unsure) same
    · next sure => exact .named concerns (not_not.mp fun back => sure (sight.mpr back)) credits

end

/-! ## A subscription that makes its consumer -/

/-- Threads around a new channel: one subscribes, and the others ask for the topics. -/
def newcomers : Crowd Shared where
  memory := ⟨State.initial, fun _ => .empty⟩
  programs t := client committing (if t = 0 then [.subscribe (.single "t")] else [.subscriptions])

theorem newcomers_gather : Gathers committing newcomers := ⟨⟨.empty, 0, rfl⟩, fun _ => ⟨_, rfl⟩⟩

/-- The request that a thread has under way, if any. -/
def Crowd.underWay? (crowd : Crowd Shared) (t : Thread) : Option Request :=
  match crowd.programs t with
  | .ask (.outside (.send _ request)) _ => some request
  | _ => none

theorem Crowd.hasUnderWay_of_some {crowd : Crowd Shared} {t : Thread} {request : Request}
    (asks : crowd.underWay? t = some request) : crowd.HasUnderWay t request := by
  unfold Crowd.underWay? at asks
  split at asks
  · next n sent next same =>
    cases asks
    exact ⟨n, next, same⟩
  · cases asks

/-- The first thread creates a consumer and subscribes it, and another one asks for its topics: this request is credited
to the consumer. -/
theorem inquiry_of_newcomer_is_credited :
    Gathers committing newcomers ∧ (∀ t, (newcomers.memory.contexts t).consumer = .text "") ∧
      ∃ turns crowd, Crowd.Runs (aroundChannel committing) newcomers turns crowd ∧
        crowd.HasUnderWay 1 (.inquiry committing "c") ∧
        Credited committing (own 1 turns) (crowd.memory.contexts 1) (.inquiry committing "c") := by
  have runs : Crowd.Runs (aroundChannel committing) newcomers _ _ := runs_drive obliging [(0, 40), (1, 7)] newcomers
  have underWay : (drive obliging [(0, 40), (1, 7)] newcomers).2.HasUnderWay 1 (.inquiry committing "c") :=
    Crowd.hasUnderWay_of_some (by decide +kernel)
  exact ⟨newcomers_gather, fun _ => rfl, _, _, runs, underWay,
    requests_under_way_are_credited newcomers_gather (fun _ => rfl) runs underWay⟩

/-- The first thread has created its consumer and goes on to subscribe it: the log context names the group and the
operation, but not the consumer that the request is for. -/
theorem subscription_of_newcomer_is_not_credited :
    Gathers committing newcomers ∧ (∀ t, newcomers.memory.contexts t = .empty) ∧
      ∃ turns crowd, Crowd.Runs (aroundChannel committing) newcomers turns crowd ∧
        crowd.HasUnderWay 0 (.subscription committing "c" ["t"]) ∧
        crowd.memory.state.session.consumer = some "c" ∧
        crowd.memory.contexts 0 ≠ ⟨committing.group, .text "c", .text Api.subscribe.name⟩ := by
  refine ⟨newcomers_gather, fun _ => rfl, _, _, runs_drive obliging [(0, 24)] newcomers,
    Crowd.hasUnderWay_of_some (by decide +kernel), by decide +kernel, ?_⟩
  intro named
  have unnamed : ((drive obliging [(0, 24)] newcomers).2.memory.contexts 0).consumer.truthy = false := by
    decide +kernel
  rw [named] at unnamed
  cases unnamed

end ConsumerChannel.Channel
