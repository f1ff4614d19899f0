import ConsumerChannel.Proofs.Addressing
import ConsumerChannel.Proofs.Conduct
import ConsumerChannel.Proofs.Recovery
import ConsumerChannel.Proofs.Sharing

/-! Accounting for consumers. Creating a consumer forgets the one that was stored, so nothing in the creation itself
keeps a consumer from being dropped. What does is that a loop creates only where nothing is stored: every way there
leads over a deletion. Between two moments of a run the consumer that is stored changes only by the creation that
named it or by the request to delete it. -/
namespace ConsumerChannel.Channel
open Operation

/-! ## The law -/

section
variable (settings : Settings)

/-- The service makes a consumer of a name. -/
def Event.Bears (e : Event) (id : String) : Prop :=
  ∃ body answer, e.Sends (.creation settings body) answer ∧ Names answer id

/-- The deletion of a consumer of a name is asked for. -/
def Event.Discards (e : Event) (id : String) : Prop := ∃ answer, e.Sends (.deletion settings id) answer

/-- The deletion of a consumer is asked for at none of some moments. -/
def Undeleted (moments : List Event) (id : String) : Prop := ∀ e ∈ moments, ¬ e.Discards settings id

/-- A consumer was made whose deletion has not been asked for since. -/
def Born (past : List Event) (id : String) : Prop :=
  ∃ earlier e since, past = earlier ++ e :: since ∧ e.Bears settings id ∧ Undeleted settings since id

/-- A consumer was made, or stored in the first place, whose deletion has not been asked for since. -/
def Outstanding (inherited : Option String) (past : List Event) (id : String) : Prop :=
  Born settings past id ∨ inherited = some id ∧ Undeleted settings past id

/-- Consumers are accounted for, over all moments of a run that found one stored or none. -/
structure Accounts (inherited : Option String) (moments : List Event) : Prop where
  /-- A consumer is stored exactly as long as its deletion has not been asked for. -/
  outstanding : ∀ past e rest, moments = past ++ e :: rest →
    ∀ id, Outstanding settings inherited past id ↔ e.memory.session.consumer = some id
  /-- A consumer that is stored no more was asked to be deleted since it was. -/
  forgotten : ∀ past e between f rest id, moments = past ++ e :: (between ++ f :: rest) →
    e.memory.session.consumer = some id → f.memory.session.consumer ≠ some id →
    ∃ d ∈ e :: between, d.Discards settings id
  /-- Between two requests to delete a consumer of one name, a consumer of that name was made. -/
  once : ∀ past e between f rest id, moments = past ++ e :: (between ++ f :: rest) →
    e.Discards settings id → f.Discards settings id → ∃ d ∈ between, d.Bears settings id

/-- What is stored first, what is seen meanwhile, and what is stored last: a consumer is made where none is stored,
and the one that is deleted is the one that is stored. -/
inductive Tracks : Option String → List Event → Option String → Prop where
  | nothing : Tracks stored [] stored
  | made {id : String} (empty : e.memory.session.consumer = none) (bears : e.Bears settings id)
      (rest : Tracks (some id) signals last) : Tracks none (e :: signals) last
  | discarded {id : String} (held : e.memory.session.consumer = some id) (discards : e.Discards settings id)
      (rest : Tracks none signals last) : Tracks (some id) (e :: signals) last
  | kept (held : e.memory.session.consumer = stored) (barren : ∀ id, ¬ e.Bears settings id)
      (spared : ∀ id, ¬ e.Discards settings id) (rest : Tracks stored signals last) :
      Tracks stored (e :: signals) last

/-- A stretch over which consumers are kept track of. Names of consumers are never blank. -/
def Chronicle.Accounted (c later : Chronicle) : Prop :=
  c.memory.session.consumer ≠ some "" → ∃ signals, later.signals = c.signals ++ signals ∧
    Tracks settings c.memory.session.consumer signals later.memory.session.consumer

end

/-! ## Events -/

section
variable {settings : Settings} {e : Event} {id other : String}

theorem Event.Discards.requests (discards : e.Discards settings id) : e.RequestsDeletion settings := ⟨id, discards⟩

theorem Event.Bears.requests (bears : e.Bears settings id) : e.RequestsConsumer settings := by
  obtain ⟨body, answer, sends, -⟩ := bears
  exact ⟨body, answer, sends⟩

theorem Event.Sends.unique {request another : Request} {answer reply : Except Failure (Option String)}
    (first : e.Sends request answer) (second : e.Sends another reply) :
    another = request ∧ reply = answer := by
  obtain ⟨within, happening⟩ := e
  obtain ⟨n, rfl⟩ := first
  exact second.request

/-- A request is not both for a new consumer and for the end of one. -/
theorem Event.RequestsConsumer.not_discards (requests : e.RequestsConsumer settings) :
    ¬ e.Discards settings id := by
  rintro ⟨reply, deletes⟩
  obtain ⟨body, answer, creates⟩ := requests
  exact nomatch congrArg Request.method (creates.unique deletes).1

theorem Request.deletion_inj (same : Request.deletion settings id = Request.deletion settings other) :
    id = other := by
  have paths := congrArg Request.path same
  simpa [Request.deletion, consumerAddress] using paths

theorem Event.Discards.unique (first : e.Discards settings id) (second : e.Discards settings other) :
    other = id := by
  obtain ⟨answer, deletes⟩ := first
  obtain ⟨reply, again⟩ := second
  exact Request.deletion_inj (deletes.unique again).1

/-- An answer names one consumer. -/
theorem Names.unique {answer : Except Failure (Option String)} (first : Names answer id)
    (second : Names answer other) : other = id := by
  obtain ⟨text, rfl, body, rfl, -, reads⟩ := first
  obtain ⟨_, ⟨⟩, _, ⟨⟩, -, again⟩ := second
  cases reads.symm.trans again
  rfl

theorem Event.Bears.unique (first : e.Bears settings id) (second : e.Bears settings other) : other = id := by
  obtain ⟨body, answer, creates, named⟩ := first
  obtain ⟨_, reply, again, renamed⟩ := second
  rw [(creates.unique again).2] at renamed
  exact named.unique renamed

end

/-! ## From one event to the next -/

section
variable {settings : Settings} {e f : Event} {before stored last : Option String} {id : String}
  {signals past between more rest moments : List Event}

private theorem born_cons : Born settings (e :: rest) id ↔
    Born settings rest id ∨ e.Bears settings id ∧ Undeleted settings rest id := by
  constructor
  · rintro ⟨earlier, birth, since, same, bears, undeleted⟩
    cases earlier with
    | nil =>
      cases same
      exact .inr ⟨bears, undeleted⟩
    | cons first earlier =>
      cases same
      exact .inl ⟨earlier, birth, since, rfl, bears, undeleted⟩
  · rintro (⟨earlier, birth, since, rfl, bears, undeleted⟩ | ⟨bears, undeleted⟩)
    · exact ⟨e :: earlier, birth, since, rfl, bears, undeleted⟩
    · exact ⟨[], e, rest, rfl, bears, undeleted⟩

/-- What is kept track of is what is outstanding. -/
theorem Tracks.outstanding (tracks : Tracks settings stored past last) (id : String) :
    Outstanding settings stored past id ↔ last = some id := by
  unfold Outstanding
  induction tracks with
  | nothing =>
    constructor
    · rintro (⟨earlier, birth, since, same, -⟩ | ⟨held, -⟩)
      · simp at same
      · exact held
    · exact fun held => .inr ⟨held, List.forall_mem_nil _⟩
  | made empty bears rest ih =>
    rw [← ih, born_cons]
    constructor
    · rintro ((born | ⟨again, undeleted⟩) | ⟨⟨⟩, -⟩)
      · exact .inl born
      · exact .inr ⟨congrArg some (again.unique bears), undeleted⟩
    · rintro (born | ⟨⟨⟩, undeleted⟩)
      · exact .inl (.inl born)
      · exact .inl (.inr ⟨bears, undeleted⟩)
  | discarded held discards rest ih =>
    rw [← ih, born_cons]
    constructor
    · rintro ((born | ⟨bears, -⟩) | ⟨⟨⟩, undeleted⟩)
      · exact .inl born
      · exact absurd discards bears.requests.not_discards
      · exact absurd discards (undeleted _ (.head _))
    · rintro (born | ⟨⟨⟩, -⟩)
      exact .inl (.inl born)
  | kept held barren spared rest ih =>
    rw [← ih, born_cons]
    constructor
    · rintro ((born | ⟨bears, -⟩) | ⟨held, undeleted⟩)
      · exact .inl born
      · exact absurd bears (barren _)
      · exact .inr ⟨held, (List.forall_mem_cons.mp undeleted).2⟩
    · rintro (born | ⟨held, undeleted⟩)
      · exact .inl (.inl born)
      · exact .inr ⟨held, List.forall_mem_cons.mpr ⟨spared _, undeleted⟩⟩

theorem Tracks.trans (first : Tracks settings before signals stored) (second : Tracks settings stored more last) :
    Tracks settings before (signals ++ more) last := by
  induction first with
  | nothing => exact second
  | made empty bears rest ih => exact .made empty bears (ih second)
  | discarded held discards rest ih => exact .discarded held discards (ih second)
  | kept held barren spared rest ih => exact .kept held barren spared (ih second)

theorem Tracks.split (tracks : Tracks settings before (past ++ rest) last) :
    ∃ stored, Tracks settings before past stored ∧ Tracks settings stored rest last := by
  induction past generalizing before with
  | nil => exact ⟨before, .nothing, tracks⟩
  | cons e past ih =>
    cases tracks with
    | made empty bears onward =>
      obtain ⟨stored, first, second⟩ := ih onward
      exact ⟨stored, .made empty bears first, second⟩
    | discarded held discards onward =>
      obtain ⟨stored, first, second⟩ := ih onward
      exact ⟨stored, .discarded held discards first, second⟩
    | kept held barren spared onward =>
      obtain ⟨stored, first, second⟩ := ih onward
      exact ⟨stored, .kept held barren spared first, second⟩

/-- An event finds stored what is stored when it happens. -/
theorem Tracks.found (tracks : Tracks settings stored (e :: rest) last) : e.memory.session.consumer = stored := by
  cases tracks with
  | made empty bears onward => exact empty
  | discarded held discards onward => exact held
  | kept held barren spared onward => exact held

/-- Only what is stored is deleted, and then nothing is stored. -/
theorem Tracks.discards (tracks : Tracks settings stored (e :: rest) last) (discards : e.Discards settings id) :
    stored = some id ∧ Tracks settings none rest last := by
  cases tracks with
  | made empty bears onward => exact absurd discards bears.requests.not_discards
  | discarded held other onward =>
    rw [discards.unique other]
    exact ⟨rfl, onward⟩
  | kept held barren spared onward => exact absurd discards (spared id)

/-- Consumers that are kept track of are accounted for. -/
theorem Tracks.accounts (tracks : Tracks settings stored moments last) : Accounts settings stored moments where
  outstanding := by
    rintro past e rest rfl id
    obtain ⟨held, first, second⟩ := tracks.split
    rw [first.outstanding, second.found]
  forgotten := by
    rintro past e between f rest id rfl held gone
    obtain ⟨here, -, onward⟩ := tracks.split
    obtain ⟨there, first, second⟩ : ∃ there, Tracks settings here (e :: between) there ∧
      Tracks settings there (f :: rest) last := onward.split
    rw [onward.found] at held
    rw [second.found] at gone
    refine Classical.byContradiction fun spared => gone ((first.outstanding id).mp (.inr ⟨held, ?_⟩))
    exact fun d member discards => spared ⟨d, member, discards⟩
  once := by
    rintro past e between f rest id rfl first second
    obtain ⟨here, -, onward⟩ := tracks.split
    obtain ⟨-, after⟩ := onward.discards first
    obtain ⟨there, before, last⟩ := after.split
    obtain ⟨rfl, -⟩ := last.discards second
    rcases (before.outstanding id).mpr rfl with ⟨earlier, birth, since, rfl, bears, -⟩ | ⟨⟨⟩, -⟩
    exact ⟨birth, List.mem_append_right _ (.head _), bears⟩

/-- Names stay filled. -/
theorem Tracks.filled (tracks : Tracks settings stored signals last) (filled : stored ≠ some "") :
    last ≠ some "" := by
  induction tracks with
  | nothing => exact filled
  | made empty bears rest ih =>
    obtain ⟨body, answer, -, named⟩ := bears
    exact ih fun blank => named.filled (Option.some.inj blank)
  | discarded held discards rest ih => exact ih nofun
  | kept held barren spared rest ih => exact ih filled

end

/-! ## Operations -/

section
variable {surroundings : Surroundings} {caller : Thread} {settings : Settings} {c d later : Chronicle}
  {m : State} {left : Session String Value} {context : LogContext} {signals : List Event}
  {stored : Option String}

/-- Events that have nothing to do with making or deleting a consumer. -/
theorem Tracks.still (all : ∀ e ∈ signals, e.memory.session.consumer = stored ∧
    ¬ e.RequestsConsumer settings ∧ ¬ e.RequestsDeletion settings) : Tracks settings stored signals stored := by
  induction signals with
  | nil => exact .nothing
  | cons e signals ih =>
    obtain ⟨⟨held, barren, spared⟩, rest⟩ := List.forall_mem_cons.mp all
    exact .kept held (fun id bears => barren bears.requests) (fun id discards => spared discards.requests) (ih rest)

/-- A request of the consumer that is stored, which it outlives. -/
theorem Tracks.sends {n : Nat} {request : Request} {answer : Except Failure (Option String)} {within : State}
    (held : within.session.consumer = stored) (existing : request.table = .existing)
    (keeps : request.method ≠ .delete) :
    Tracks settings stored [⟨within, .sent n request answer⟩] stored := by
  refine .still (List.forall_mem_singleton.mpr ⟨held, ?_, ?_⟩)
  · rintro ⟨body, another, sends⟩
    rw [← sends.request.1] at existing
    exact nomatch existing
  · rintro ⟨consumer, another, sends⟩
    rw [← sends.request.1] at keeps
    exact keeps rfl

/-- Something else than a request. -/
theorem Tracks.aside {h : Happening} {within : State} (held : within.session.consumer = stored)
    (silent : ∀ n request answer, h ≠ .sent n request answer) :
    Tracks settings stored [⟨within, h⟩] stored := by
  refine .still (List.forall_mem_singleton.mpr ⟨held, ?_, ?_⟩)
  · rintro ⟨body, answer, n, same⟩
    exact silent _ _ _ same
  · rintro ⟨consumer, answer, n, same⟩
    exact silent _ _ _ same

/-- A consumer is created where none is stored. -/
theorem Creates.tracks {r : Except Failure Unit}
    (creates : Creates surroundings caller settings m r left signals) (empty : m.session.consumer = none) :
    Tracks settings none signals left.consumer := by
  have fails {body : String} {within : State} {answer : Except Failure (Option String)}
      (amid : m.Amid surroundings caller settings .create .fresh within) (nameless : ∀ id, ¬ Names answer id) :
      Tracks settings none [⟨within, .sent m.transport (.creation settings body) answer⟩] none := by
    refine .kept (by rw [amid.session]; rfl) ?_ (fun id => Event.RequestsConsumer.not_discards ⟨_, _, _, rfl⟩)
      .nothing
    rintro id ⟨_, reply, sends, named⟩
    rw [sends.request.2] at named
    exact nameless id named
  cases creates with
  | groupless missing =>
    rw [empty]
    exact .nothing
  | unsent e reason => exact .nothing
  | failed written amid e => exact fails amid fun id ⟨text, same, _⟩ => nomatch same
  | unread written amid meaningless misread =>
    refine fails amid ?_
    rintro id ⟨_, ⟨⟩, named⟩
    exact meaningless _ named
  | made written amid named quiet =>
    exact .made (by rw [amid.session]; rfl) ⟨_, _, ⟨_, rfl⟩, _, rfl, named⟩ .nothing

theorem consumer_eq_none {s : Session String Value} (filled : s.consumer ≠ some "")
    (lacking : s.hasConsumer = false) : s.consumer = none := by
  rw [hasConsumer_eq_isSome, heldConsumer?_eq_consumer filled] at lacking
  exact Option.isNone_iff_eq_none.mp (Option.isSome_eq_false_iff.mp lacking)

theorem Equips.tracks (equips : Equips surroundings caller settings m left signals)
    (filled : m.session.consumer ≠ some "") : Tracks settings m.session.consumer signals left.consumer := by
  cases equips with
  | held holding => exact .nothing
  | created lacking creates =>
    have empty := consumer_eq_none filled lacking
    rw [empty]
    exact creates.tracks empty

theorem Subscribes.tracks {topics : Topics} {r : Except Failure Unit}
    (subscribes : Subscribes surroundings caller settings topics m r left signals)
    (filled : m.session.consumer ≠ some "") : Tracks settings m.session.consumer signals left.consumer := by
  cases subscribes with
  | topicless refused => exact .nothing
  | uncreated wanted lacking creates =>
    have empty := consumer_eq_none filled lacking
    rw [empty]
    exact creates.tracks empty
  | unwritten wanted equips refused => exact equips.tracks filled
  | failed wanted texts equips held amid e =>
    exact (equips.tracks filled).trans (.sends (by rw [amid.session]) rfl nofun)
  | done wanted texts equips held amid quiet =>
    exact (equips.tracks filled).trans (.sends (by rw [amid.session]) rfl nofun)

/-- After a deletion nothing is stored, whatever became of it. -/
theorem Deletes.tracks {r : Except Failure Unit}
    (deletes : Deletes surroundings caller settings m r left signals) (filled : m.session.consumer ≠ some "") :
    left.consumer = none ∧ Tracks settings m.session.consumer signals none := by
  have held := heldConsumer?_eq_consumer filled
  cases deletes with
  | unheld absent =>
    rw [← held, absent]
    exact ⟨rfl, .nothing⟩
  | @sent consumer within _ answer holds amid settled =>
    rw [← held, holds]
    refine ⟨rfl, .discarded ?_ ⟨answer, _, rfl⟩ .nothing⟩
    rw [amid.session, ← held, holds]

theorem Consumes.tracks {timeout : Value} {r : Except Failure Batch}
    (consumes : Consumes surroundings caller settings timeout m r left signals) :
    Tracks settings m.session.consumer signals left.consumer := by
  have pulls {consumer : String} {within : State} {answer : Except Failure (Option String)}
      (amid : m.Amid surroundings caller settings .consume m.session within) :
      Tracks settings m.session.consumer
        [⟨within, .sent m.transport (.pull settings consumer timeout) answer⟩] m.session.consumer :=
    .sends (by rw [amid.session]) rfl nofun
  cases consumes with
  | unsubscribed topicless => exact .nothing
  | unheld absent => exact .nothing
  | incomparable fault => exact .nothing
  | failed subscribed held amid e => exact pulls amid
  | unread subscribed held amid meaningless misread => exact pulls amid
  | read subscribed held amid denoted quiet => exact pulls amid

theorem Commits.tracks {r : Except Failure Unit}
    (commits : Commits surroundings caller settings m r left signals) :
    Tracks settings m.session.consumer signals left.consumer := by
  cases commits with
  | automatic automatic => exact .nothing
  | unheld manual absent => exact .nothing
  | failed manual held amid e => exact .sends (by rw [amid.session]) rfl nofun
  | sent manual held amid answer => exact .sends (by rw [amid.session]) rfl nofun

/-! ## Stretches -/

namespace Chronicle

theorem Accounted.refl : c.Accounted settings c := fun _ => ⟨[], (List.append_nil _).symm, .nothing⟩

theorem Accounted.trans (first : c.Accounted settings d) (second : d.Accounted settings later) :
    c.Accounted settings later := by
  intro filled
  obtain ⟨signals, added, tracks⟩ := first filled
  obtain ⟨more, goes, onward⟩ := second (tracks.filled filled)
  exact ⟨signals ++ more, by rw [goes, added, List.append_assoc], tracks.trans onward⟩

theorem Becomes.accounted (became : c.Becomes surroundings left context signals later)
    (tracks : c.memory.session.consumer ≠ some "" →
      Tracks settings c.memory.session.consumer signals left.consumer) : c.Accounted settings later := by
  intro filled
  refine ⟨signals, became.signals, ?_⟩
  rw [became.state.session]
  exact tracks filled

/-- Nothing is seen, and the consumer stays. -/
private theorem accounted_of_same (signals : later.signals = c.signals)
    (consumer : later.memory.session.consumer = c.memory.session.consumer) : c.Accounted settings later := by
  intro filled
  refine ⟨[], signals.trans (List.append_nil _).symm, ?_⟩
  rw [consumer]
  exact .nothing

/-- Something is noted that is no request. -/
theorem accounted_add {h : Happening} (silent : ∀ n request answer, h ≠ .sent n request answer) :
    c.Accounted settings (c.add h) := by
  intro filled
  refine ⟨_, signals_add h, ?_⟩
  cases seen : Event.isSignal ⟨c.memory, h⟩ with
  | true =>
    rw [List.filter_cons_of_pos seen]
    exact .aside rfl silent
  | false =>
    rw [List.filter_cons_of_neg (by simp [seen])]
    exact .nothing

theorem Idles.accounted (idles : c.Idles later) : c.Accounted settings later :=
  accounted_of_same idles.signals (by rw [idles.session])

theorem Becomes.accounted_of_passed (passed : c.Passes surroundings later) : c.Accounted settings later :=
  passed.accounted fun _ => .nothing

/-- A transport is closed or built. -/
theorem Becomes.accounted_of_aside {h : Happening}
    (became : c.Becomes surroundings c.memory.session c.memory.context [⟨c.memory, h⟩] later)
    (silent : ∀ n request answer, h ≠ .sent n request answer) : c.Accounted settings later :=
  became.accounted fun _ => .aside rfl silent

end Chronicle

/-- The consumer of the channel is deleted. -/
theorem Deletes.accounted {r : Except Failure Unit}
    (deletes : Deletes surroundings caller settings c.memory r left signals)
    (deleted : c.Becomes surroundings left c.memory.context signals later) : c.Accounted settings later := by
  refine deleted.accounted fun filled => ?_
  obtain ⟨empty, tracks⟩ := deletes.tracks filled
  rwa [empty]

theorem Dissolves.accounted {r : Except Failure Unit}
    (dissolves : Dissolves surroundings caller settings c r later) : c.Accounted settings later := by
  cases dissolves with
  | frozen inactive => exact .refl
  | unstopped active stops => exact stops.idles.accounted
  | undeleted active stops deletes deleted => exact stops.idles.accounted.trans (deletes.accounted deleted)
  | unclosed active stops deletes deleted closed careless =>
    exact (stops.idles.accounted.trans (deletes.accounted deleted)).trans (closed.accounted_of_aside nofun)
  | dissolved active stops deletes deleted closed frozen quiet =>
    have first := stops.idles.accounted.trans (deletes.accounted deleted)
    exact (first.trans (closed.accounted_of_aside nofun)).trans (frozen.accounted fun _ => .nothing)

theorem Destroys.accounted {r : Except Failure Unit}
    (destroys : Destroys surroundings caller settings c r later) : c.Accounted settings later := by
  cases destroys with
  | contended busy => exact .refl
  | tried free dissolves =>
    have claimed : c.Accounted settings (c.remember (c.memory.locked true)) :=
      Chronicle.accounted_of_same rfl rfl
    exact (claimed.trans dissolves.accounted).trans (Chronicle.accounted_of_same rfl rfl)

/-- A session is built anew only once nothing is stored any more. -/
theorem Recreates.accounted {r : Except Failure Unit}
    (recreates : Recreates surroundings caller settings c r later) : c.Accounted settings later := by
  cases recreates with
  | destroyed passed inactive => exact passed.accounted_of_passed
  | undeleted passed active deletes deleted =>
    exact passed.accounted_of_passed.trans (deletes.accounted deleted)
  | unclosed passed active deletes deleted closed careless =>
    have first := passed.accounted_of_passed.trans (deletes.accounted deleted)
    exact first.trans (closed.accounted_of_aside nofun)
  | unopened passed active deletes deleted closed opened careless =>
    have first := passed.accounted_of_passed.trans (deletes.accounted deleted)
    exact (first.trans (closed.accounted_of_aside nofun)).trans (opened.accounted_of_aside nofun)
  | rebuilt passed active deletes deleted closed opened creates created =>
    intro filled
    have gone := (deletes.tracks (by rw [passed.state.session]; exact filled)).1
    have first := passed.accounted_of_passed.trans (deletes.accounted deleted)
    have second := (first.trans (closed.accounted_of_aside nofun)).trans (opened.accounted_of_aside nofun)
    have third := second.trans (Chronicle.accounted_of_same rfl rfl)
    refine third.trans (created.accounted fun _ => ?_) filled
    have empty : (_ : State).session.consumer = none :=
      (congrArg Session.consumer (opened.state.session.trans (closed.state.session.trans
        deleted.state.session))).trans gone
    rw [memory_remember, State.through, empty]
    exact creates.tracks empty

theorem Cleans.accounted {r : Except Failure Unit} (cleans : Cleans surroundings caller settings c r later) :
    c.Accounted settings later := by
  cases cleans with
  | destroyed passed inactive => exact passed.accounted_of_passed
  | deleted passed active deletes deleted last =>
    exact (passed.accounted_of_passed.trans (deletes.accounted deleted)).trans last.accounted_of_passed

/-! ## Runs -/

/-- Consumers are kept track of over every part of a run. -/
theorem upholds_accounted : Upholds surroundings caller settings (Chronicle.Accounted settings) where
  refl _ := .refl
  trans _ _ _ := .trans
  unseen _ _ signals session := Chronicle.accounted_of_same signals (congrArg Session.consumer session)
  called _ _ _ _ := Chronicle.accounted_add nofun
  returned _ _ := Chronicle.accounted_add nofun
  subscribes _ _ _ _ _ _ _ subscribes became := became.accounted subscribes.tracks
  consumes _ _ _ _ _ _ _ consumes became := became.accounted fun _ => consumes.tracks
  commits _ _ _ _ _ _ commits became := became.accounted fun _ => commits.tracks
  recreates _ _ _ recreates := recreates.accounted
  cleans _ _ _ cleans := cleans.accounted

/-- Callbacks that only end the channel leave no consumer unaccounted for. -/
theorem nests_accounted (quiet : surroundings.LogsQuietly) (ends : surroundings.OnlyEnds) (depth : Nat) :
    Nests surroundings (perform surroundings settings caller depth) caller (Chronicle.Accounted settings) := by
  intro events c opened
  refine (@perform_relates surroundings caller settings quiet (Chronicle.Accounted settings)
    (fun _ => .refl) (fun _ _ _ => .trans) Move.IsRetreat ends ?_ depth (surroundings.moves events) (ends _) c
    opened).2
  intro nested move c r d leaves within retreat opened makes
  have ended (d : Chronicle) : d.Accounted settings (d.add .ended) := Chronicle.accounted_add nofun
  cases makes with
  | stopped stops => exact stops.idles.accounted.trans (ended _)
  | destroyed destroys => exact destroys.accounted.trans (ended _)
  | ran runs => exact retreat.elim
  | refused inactive refused => exact ended _
  | acted active acts became => cases acts <;> exact retreat.elim

end

/-- Over a run whose callback touches the channel only to stop or destroy it, whatever the service answers: at every
moment the consumers that the run made or found, and whose deletion has not been asked for, are the one that is
stored then, or there are none; a consumer is stored no more only after its deletion was asked for; and no consumer
is asked to be deleted twice. -/
theorem run_accounts_for_consumers {surroundings : Surroundings} {settings : Settings} {caller : Thread}
    {c : Chronicle} (attained : c.memory.Attained settings caller) (opened : c.memory.guard.OpenTo caller)
    (quiet : surroundings.LogsQuietly) (ends : surroundings.OnlyEnds) (depth rounds : Nat)
    (callback : Option CallbackId) (topics : Topics) :
    ∃ signals later, later = (exec (surroundings.hosting settings caller depth)
        (run settings rounds callback topics) c).2 ∧
      later.signals = c.signals ++ signals ∧
      Accounts settings c.memory.session.consumer (c.moments signals later) := by
  have leaves : LeavesGuard surroundings (perform surroundings settings caller depth) caller :=
    leavesGuard_of_onlyEnds ends depth
  have runs : Runs surroundings caller settings (perform surroundings settings caller depth) rounds callback
      topics c _ (exec (surroundings.hosting settings caller depth)
        (run settings rounds callback topics) c).2 := leads_run quiet leaves opened rounds
  obtain ⟨signals, added, tracks⟩ :=
    upholds_accounted.runs (nests_accounted quiet ends depth) leaves runs attained.proper.filled
  refine ⟨signals, _, rfl, added, ?_⟩
  have still (d : Chronicle) : Tracks settings d.memory.session.consumer [⟨d.memory, .ended⟩]
      d.memory.session.consumer := .aside rfl nofun
  exact (((still c).trans tracks).trans (still _)).accounts

/-- A run that loses its first consumer and is stopped holds the second one, and is accounted for. -/
theorem run_accounts_for_lost_consumer :
    (Chronicle.start 0).memory.Attained committing 0 ∧ (Chronicle.start 0).memory.guard.OpenTo 0 ∧
      Surroundings.losesFirst.LogsQuietly ∧ Surroundings.losesFirst.OnlyEnds ∧
      ∃ signals later, later = (exec (Surroundings.losesFirst.hosting committing 0 1)
          (run committing 3 (some 0) (.single "t")) (.start 0)).2 ∧
        later.signals = (Chronicle.start 0).signals ++ signals ∧
        Accounts committing none ((Chronicle.start 0).moments signals later) ∧
        later.memory.session.consumer = some "d" := by
  have attained : (Chronicle.start 0).memory.Attained committing 0 := attained_start committing 0 0
  have opened : (Chronicle.start 0).memory.guard.OpenTo 0 := .inl rfl
  have quiet : Surroundings.losesFirst.LogsQuietly := (Surroundings.scripted_dependable ..).logs
  have ends : Surroundings.losesFirst.OnlyEnds := fun _ => List.forall_mem_singleton.mpr trivial
  obtain ⟨signals, later, ran, added, accounts⟩ :=
    run_accounts_for_consumers attained opened quiet ends 1 3 (some 0) (.single "t")
  refine ⟨attained, opened, quiet, ends, signals, later, ran, added, accounts, ?_⟩
  rw [ran]
  decide +kernel

end ConsumerChannel.Channel
