import ConsumerChannel.Proofs.Verdicts

/-! Failures that a callback raises. The callback is called among the loop's own calls, and its failures are dealt with
like theirs: most end the run, which raises them once it has cleaned up, but one that says the session is lost makes
the loop build a new one and go on. In either case the batch that the callback was given is never committed. -/
namespace ConsumerChannel.Channel
open Operation

/-! ## What comes of them -/

/-- No more is seen of cleaning up than one deletion. -/
def DeletesAtMost (settings : Settings) (signals : List Event) : Prop :=
  signals = [] ∨ ∃ event consumer answer, signals = [event] ∧ event.Sends (.deletion settings consumer) answer

/-- What comes of a failure that the callback raised, in the calls that are left to a loop. -/
structure Escapes (surroundings : Surroundings) (settings : Settings) (r : Except Failure Unit) (raised : Stride)
    (rest : List Stride) (last : Chronicle) (e : Failure) : Prop where
  /-- A commit comes only right after the callback has come back well from another batch. -/
  uncommitted : ∀ past stride more goOn, rest = past ++ stride :: more → stride.phase = .committing goOn →
    ∃ before handing batch consumer, past = before ++ [handing] ∧ handing.phase = .handing batch consumer ∧
      handing.failure = none
  /-- Unless the session is lost the loop is over, but for cleaning up. It raises the failure itself, unless cleaning
  up fails in turn, with what is no channel failure. -/
  escapes : e.class? ≠ some .sessionLost → (∀ stride ∈ rest, stride.phase = .cleaning e) ∧
    ∃ signals, last.signals = raised.after.signals ++ signals ∧ DeletesAtMost settings signals ∧
      (r = .error e ∨ ∃ second, r = .error second ∧ second.class? = none ∧ (surroundings.Dependable →
        ∃ event ∈ signals, ∃ consumer, event.Sends (.deletion settings consumer) (.error second)))
  /-- A lost session is built anew, and if that fails the loop is over. -/
  recovers : e.class? = some .sessionLost → ∃ recovery more, rest = recovery :: more ∧
    recovery.phase = .recreating true e ∧ ∀ second, recovery.failure = some second → more = [] ∧ r = .error second

/-- What a run comes to, with what comes of the failures that its callback raises: it is refused, or its loop makes its
calls. -/
inductive Heeds (surroundings : Surroundings) (caller : Thread) (settings : Settings)
    (nested : List Move → Chronicle → Chronicle) (callback : Option CallbackId) (topics : Topics) (c : Chronicle) :
    Except Failure Unit → Chronicle → Prop where
  | refused (unready : ¬ (c.memory.session.active = true ∧ Ready settings callback topics c.memory))
      (signals : later.signals = c.signals) : Heeds surroundings caller settings nested callback topics c r later
  | looped {id : CallbackId} {names : List Value} {strides : List Stride} (chosen : callback = some id)
      (wanted : chosenTopics c.memory.session topics = .ok names) (begins : c.Begins surroundings caller first)
      (unrolls : Unrolls surroundings caller settings nested id names (.onward ⟨false, true⟩ first.memory.flags) first
        strides r last)
      (escapes : ∀ past raised rest batch consumer e, strides = past ++ raised :: rest →
        raised.phase = .handing batch consumer → raised.failure = some e →
        surroundings.outside nested (.callback id batch consumer) raised.before = (.error e, raised.after) ∧
          Escapes surroundings settings r raised rest last e)
      (finishes : c.Finishes surroundings last later) :
      Heeds surroundings caller settings nested callback topics c r later

/-! ## One call -/

section
variable {surroundings : Surroundings} {nested : List Move → Chronicle → Chronicle} {caller : Thread}
  {c d last later : Chronicle} {settings : Settings} {callback : CallbackId} {topics : List Value} {goOn : Bool}
  {past rest strides : List Stride} {raised : Stride} {r : Except Failure Unit} {e second : Failure}
  {phase next : Phase} {failure : Option Failure} {batch : Batch} {consumer : Option String}

private theorem onward_ne_committing {state : LoopState} {flags : RunFlags} :
    Phase.onward state flags ≠ .committing goOn := by
  unfold Phase.onward Phase.asking
  split
  · split <;> exact nofun
  · exact nofun

theorem failed_ne_committing {wished : Bool} : Phase.failed wished e ≠ .committing goOn := by
  unfold Phase.failed
  split <;> exact nofun

/-- Only a callback that comes back well is followed by a commit. -/
theorem Deed.of_committing
    (deed : Deed surroundings caller settings nested callback topics c phase failure (.committing goOn) d) :
    failure = none ∧ ∃ batch consumer, phase = .handing batch consumer := by
  generalize following : Phase.committing goOn = next at deed
  cases deed with
  | subscribed ran subscribes became => exact absurd following.symm onward_ne_committing
  | unsubscribed ran subscribes became => exact absurd following.symm failed_ne_committing
  | unpulled ran consumes became => exact absurd following.symm failed_ne_committing
  | handed handed => exact ⟨rfl, _, _, rfl⟩
  | raised handed => exact absurd following.symm failed_ne_committing
  | committed ran commits became => exact absurd following.symm onward_ne_committing
  | uncommitted ran commits became => exact absurd following.symm failed_ne_committing
  | recreated ran recreates => exact absurd following.symm onward_ne_committing
  | _ => cases following

/-- A callback that raises a failure was called with its batch. -/
theorem Deed.of_raised
    (deed : Deed surroundings caller settings nested callback topics c (.handing batch consumer) (some e) next d) :
    surroundings.outside nested (.callback callback batch consumer) c = (.error e, d) ∧ next = .failed true e := by
  cases deed with
  | raised handed => exact ⟨handed, rfl⟩

/-- A failure that cleaning up fails with is no channel failure. -/
private theorem cleanupResult_error {s : Except Failure Unit} (ill : cleanupResult s = .error second) :
    s = .error second ∧ second.class? = none := by
  cases s with
  | ok _ => cases ill
  | error f =>
    cases kind : f.class? with
    | none =>
      simp only [cleanupResult, kind, Option.isSome_none, Bool.false_eq_true, ↓reduceIte, Except.error.injEq] at ill
      exact ⟨congrArg _ ill, ill ▸ kind⟩
    | some known => simp [cleanupResult, kind] at ill

/-- A failure that is no channel failure carries no name of an operation. -/
private theorem tag_of_foreign {f : Failure} (foreign : f.class? = none) (api : String) : f.tag api = f := by
  cases f with
  | channel kind message name status cause => cases foreign
  | _ => rfl

/-- What is seen of cleaning up, and what it may fail with. -/
theorem Cleans.sees (cleans : Cleans surroundings caller settings c r later) :
    ∃ signals, later.signals = c.signals ++ signals ∧ DeletesAtMost settings signals ∧
      ∀ second, r = .error second → second.class? = none ∧ (surroundings.Dependable →
        ∃ event ∈ signals, ∃ consumer, event.Sends (.deletion settings consumer) (.error second)) := by
  cases cleans with
  | destroyed passed inactive => exact ⟨[], passed.signals, .inl rfl, nofun⟩
  | deleted passed active deletes deleted last =>
    refine ⟨_, ((passed.trans deleted).trans last).signals, ?_⟩
    rw [List.nil_append, List.append_nil]
    cases deletes with
    | unheld absent => exact ⟨.inl rfl, nofun⟩
    | @sent consumer within answer s held amid settled =>
      refine ⟨.inr ⟨_, _, _, rfl, _, rfl⟩, fun second ill => ?_⟩
      obtain ⟨raised, foreign⟩ := cleanupResult_error ill
      refine ⟨foreign, fun dependable => ⟨_, .head _, consumer, ?_⟩⟩
      obtain ⟨f, answered, -, named⟩ := deletionResult_error ((settled dependable).symm.trans raised)
      rw [named, class?_tag] at foreign
      rw [named, tag_of_foreign foreign, ← answered]
      exact ⟨_, rfl⟩

/-! ## All calls -/

theorem failed_of_not_lost {wished : Bool} (other : e.class? ≠ some .sessionLost) :
    Phase.failed wished e = .cleaning e ∨ Phase.failed wished e = .settled (.error e) := by
  unfold Phase.failed
  split
  · contradiction
  · exact .inl rfl
  · exact .inl rfl
  · exact .inr rfl

theorem Unrolls.head {stride : Stride}
    (unrolls : Unrolls surroundings caller settings nested callback topics phase c (stride :: rest) r last) :
    phase = stride.phase := by
  cases unrolls with
  | call deed onward => rfl

/-- A commit is made only right after the callback has come back well, unless the loop begins with it. -/
theorem Unrolls.commits
    (unrolls : Unrolls surroundings caller settings nested callback topics phase c strides r last)
    {stride : Stride} {more : List Stride} (same : strides = past ++ stride :: more)
    (commits : stride.phase = .committing goOn) (other : phase ≠ .committing goOn) :
    ∃ before handing batch consumer, past = before ++ [handing] ∧ handing.phase = .handing batch consumer ∧
      handing.failure = none := by
  subst same
  rcases List.eq_nil_or_concat past with rfl | ⟨before, handing, rfl⟩
  · cases unrolls with
    | call deed rest => exact absurd commits other
  · rw [List.concat_eq_append, List.append_assoc, List.singleton_append] at unrolls
    obtain ⟨deed, onward⟩ := unrolls.split
    rw [onward.head, commits] at deed
    obtain ⟨well, batch, consumer, hands⟩ := deed.of_committing
    exact ⟨before, handing, batch, consumer, List.concat_eq_append, hands, well⟩

/-- A loop that is about to clean up raises the failure, unless cleaning up fails. -/
theorem Unrolls.raises
    (unrolls : Unrolls surroundings caller settings nested callback topics (.cleaning e) c rest r last) :
    (∀ stride ∈ rest, stride.phase = .cleaning e) ∧ ∃ s, Cleans surroundings caller settings c s last ∧
      (s = .ok () → r = .error e) ∧ ∀ second, s = .error second → r = .error second := by
  cases unrolls with
  | unfinished asks => cases asks
  | call deed onward =>
    cases deed with
    | cleaned ran cleans =>
      obtain ⟨rfl, rfl, rfl⟩ := onward.of_settled
      exact ⟨List.forall_mem_singleton.mpr rfl, _, cleans, fun _ => rfl, nofun⟩
    | uncleaned ran cleans =>
      obtain ⟨rfl, rfl, rfl⟩ := onward.of_settled
      exact ⟨List.forall_mem_singleton.mpr rfl, _, cleans, nofun, fun _ same => same⟩

theorem Unrolls.escapes
    (unrolls : Unrolls surroundings caller settings nested callback topics phase c (past ++ raised :: rest) r last)
    (hands : raised.phase = .handing batch consumer) (ill : raised.failure = some e) :
    surroundings.outside nested (.callback callback batch consumer) raised.before = (.error e, raised.after) ∧
      Escapes surroundings settings r raised rest last e := by
  obtain ⟨deed, onward⟩ := unrolls.split
  have dealt := unrolls.dealsWith (by rw [hands]; trivial) ill
  rw [hands, ill] at deed
  obtain ⟨handed, next⟩ := deed.of_raised
  rw [next] at onward
  refine ⟨handed, ?_, fun other => ?_, fun lost => ?_⟩
  · intro before stride more goOn same commits
    exact onward.commits same commits failed_ne_committing
  · rcases failed_of_not_lost other with cleaning | settled
    · rw [cleaning] at onward
      obtain ⟨only, s, cleans, well, fails⟩ := onward.raises
      obtain ⟨signals, added, deletes, foreign⟩ := cleans.sees
      refine ⟨only, signals, added, deletes, ?_⟩
      cases s with
      | ok _ => exact .inl (well rfl)
      | error second => exact .inr ⟨second, fails second rfl, foreign second rfl⟩
    · rw [settled] at onward
      obtain ⟨rfl, rfl, rfl⟩ := onward.of_settled
      exact ⟨List.forall_mem_nil _, [], (List.append_nil _).symm, .inl rfl, .inl rfl⟩
  · obtain ⟨goOn, recovery, more, goes, left⟩ := dealt.lost lost
    rw [next, failed_of_lost lost] at goes
    cases goes
    exact ⟨recovery, more, left⟩

end

/-- A run ends with the failure that its callback raises, and neither calls it again nor sees more than one deletion,
unless the failure says that the session is lost, or the deletion fails with what is no channel failure. A lost session
is built anew instead, whoever says so. Whatever a callback raises and whatever comes of it, the batch that it was given
is never committed: every commit comes right after the callback has come back well from another batch. -/
theorem raised_failure_ends_run_unless_lost {surroundings : Surroundings} {settings : Settings} {caller : Thread}
    {c : Chronicle} (opened : c.memory.guard.OpenTo caller) (quiet : surroundings.LogsQuietly) (depth rounds : Nat)
    (callback : Option CallbackId) (topics : Topics) :
    Leads (surroundings.hosting settings caller depth) (run settings rounds callback topics) c
      (Heeds surroundings caller settings (perform surroundings settings caller depth) callback topics c) := by
  have leaves : LeavesGuard surroundings (perform surroundings settings caller depth) caller :=
    leavesGuard quiet depth
  refine (leads_run quiet leaves opened rounds).weaken ?_
  intro r later runs
  cases runs with
  | inactive inactive => exact .refused (fun ready => nomatch inactive.symm.trans ready.1) rfl
  | refused passed unready =>
    exact .refused (fun ready => unready ready.2) (passed.signals.trans (List.append_nil _))
  | looped active grouped chosen wanted begins stages loops finishes cleared =>
    obtain ⟨strides, unrolls⟩ :=
      unrolls_loop quiet leaves begins.opened (fun _ => by rw [begins.session, active]) stages.looped
    refine .looped chosen wanted begins unrolls ?_ finishes
    rintro past raised rest batch consumer e rfl hands ill
    exact unrolls.escapes hands ill

/-- A service that makes a consumer, subscribes it, has a batch without records and deletes it, twice; and a callback
that fails on its first batch and has then had enough. -/
def Surroundings.raisingOnce (e : Failure) : Surroundings :=
  let once : List (Except Failure (Option String)) :=
    [.ok (some "\x7b\"consumerInstanceId\": \"c\"\x7d"), .ok none, .ok (some "\x7b\"records\": []\x7d"), .ok none]
  let served := Surroundings.scripted (once ++ once) [] (.ok (.bool false))
  { served with
    reply := fun events call =>
      match call with
      | .callback _ _ _ =>
        if events.any (fun event => event.happening matches .returned _) then .ok (.bool false) else .error e
      | other => served.reply events other }

/-- A run of such a callback. -/
def raisingRun (e : Failure) : Except Failure Unit × Chronicle :=
  exec ((Surroundings.raisingOnce e).hosting committing 0 1) (run committing 2 (some 0) (.single "t")) (.start 0)

/-- A callback raises trouble that may pass, and so does the run. -/
theorem raised_trouble_ends_run :
    (Chronicle.start 0).memory.guard.OpenTo 0 ∧ (Surroundings.raisingOnce (.transient "trouble" none)).LogsQuietly ∧
      ∃ later, exec ((Surroundings.raisingOnce (.transient "trouble" none)).hosting committing 0 1)
          (run committing 2 (some 0) (.single "t")) (.start 0) = (.error (.transient "trouble" none), later) ∧
        Heeds (.raisingOnce (.transient "trouble" none)) 0 committing
          (perform (.raisingOnce (.transient "trouble" none)) committing 0 1) (some 0) (.single "t") (.start 0)
          (.error (.transient "trouble" none)) later := by
  have opened : (Chronicle.start 0).memory.guard.OpenTo 0 := .inl rfl
  have quiet : (Surroundings.raisingOnce (.transient "trouble" none)).LogsQuietly := fun _ _ => rfl
  have heeds : Leads ((Surroundings.raisingOnce (.transient "trouble" none)).hosting committing 0 1)
      (run committing 2 (some 0) (.single "t")) (.start 0) _ :=
    raised_failure_ends_run_unless_lost opened quiet 1 2 _ _
  have raised : (raisingRun (.transient "trouble" none)).1 = .error (.transient "trouble" none) :=
    eq_of_failsForNow "trouble" none (by decide +kernel)
  unfold raisingRun at raised
  refine ⟨opened, quiet, ?_⟩
  cases ran : exec ((Surroundings.raisingOnce (.transient "trouble" none)).hosting committing 0 1)
      (run committing 2 (some 0) (.single "t")) (.start 0) with
  | mk r later =>
    rw [ran] at raised
    have heeds := (leads_iff _).mp heeds r later ran
    cases raised
    exact ⟨later, rfl, heeds⟩

/-! ## A failure that the loop takes for its own -/

/-- Whatever the callback of a run raises is what the run raises, and the callback is not called again. -/
def RaisedFailuresEscape : Prop :=
  ∀ (surroundings : Surroundings) (settings : Settings) (caller : Thread) (depth rounds : Nat)
    (callback : Option CallbackId) (topics : Topics) (c later : Chronicle) (r : Except Failure Unit)
    (before after : List Event) (within : State) (e : Failure),
    c.memory.Attained settings caller → c.memory.guard.OpenTo caller → surroundings.Dependable →
    surroundings.Undisturbed → (∀ events, surroundings.moves events = []) →
    exec (surroundings.hosting settings caller depth) (run settings rounds callback topics) c = (r, later) →
    later.signals = before ++ ⟨within, .returned (.error e)⟩ :: after → (∃ past, before = c.signals ++ past) →
    r = .error e ∧ ∀ f ∈ after, ∀ id batch consumer, f.happening ≠ .called id batch consumer

/-- A failure that says that the session is lost. -/
def lostSession : Failure := .channel .sessionLost "lost" none none none

/-- The failure that a callback raises. -/
def Event.raised? (e : Event) : Option Failure :=
  match e.happening with
  | .returned (.error f) => some f
  | _ => none

theorem Event.eq_of_raised? {e : Event} {f : Failure} (raises : e.raised? = some f) :
    e = ⟨e.memory, .returned (.error f)⟩ := by
  obtain ⟨within, happening⟩ := e
  unfold Event.raised? at raises
  split at raises
  · rename_i same
    cases raises
    cases same
    rfl
  · cases raises

/-- A run whose callback says that the session is lost builds it anew, calls the callback again and ends well. -/
theorem raised_loss_may_be_swallowed : ¬ RaisedFailuresEscape := by
  intro always
  have well : (raisingRun lostSession).1.isOk = true := by decide +kernel
  have returned : (((raisingRun lostSession).2.signals.drop 4).head?.bind Event.raised?).isSome = true := by
    decide +kernel
  cases dropped : (raisingRun lostSession).2.signals.drop 4 with
  | nil =>
    rw [dropped] at returned
    cases returned
  | cons event after =>
    rw [dropped] at returned
    obtain ⟨e, raises⟩ := Option.isSome_iff_exists.mp returned
    rw [Event.eq_of_raised? raises] at dropped
    have split : (raisingRun lostSession).2.signals = (raisingRun lostSession).2.signals.take 4 ++
        ⟨event.memory, .returned (.error e)⟩ :: after := by
      rw [← dropped, List.take_append_drop]
    have ran : exec ((Surroundings.raisingOnce lostSession).hosting committing 0 1)
        (run committing 2 (some 0) (.single "t")) (.start 0) =
          ((raisingRun lostSession).1, (raisingRun lostSession).2) := by
      unfold raisingRun
      exact (Prod.eta _).symm
    obtain ⟨ill, -⟩ := always (.raisingOnce lostSession) committing 0 1 2 (some 0) (.single "t") (.start 0)
      (raisingRun lostSession).2 (raisingRun lostSession).1 _ after event.memory e (attained_start committing 0 0)
      (.inl rfl) ⟨fun _ _ => rfl, fun _ _ => rfl, fun _ _ => rfl, fun _ _ => rfl, fun _ => ⟨_, rfl⟩⟩
      (fun _ _ _ => rfl) (fun _ => rfl) ran split ⟨_, (List.nil_append _).symm⟩
    rw [ill] at well
    cases well

end ConsumerChannel.Channel
