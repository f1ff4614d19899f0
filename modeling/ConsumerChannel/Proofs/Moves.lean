import ConsumerChannel.Proofs.Chronicle

/-! What lasts over every move. What the operations on a consumer keep is kept by running, stopping and
destroying too, by whatever a callback does, and so by every sequence of moves. Building a session anew and
destroying the channel change hands with transports; whatever is said about those has to be shown for these two on
their own, and for everything else by what happens otherwise. -/
namespace ConsumerChannel.Channel
open Operation

/-- What a loop logs when it begins to build its session anew. -/
def recoveryMessage : String := "Resetting consumer loop"

/-- A record says that a loop begins to build its session anew. -/
def beginsRecovery (record : LogRecord) : Bool :=
  match record.message with
  | .text message => message == recoveryMessage
  | _ => false

/-- A step that leaves the session alone, and the transport in use. -/
def Step.Mild : Step → Prop
  | .setConsumer _ _ | .replaceTopics _ _ | .resetSession _ | .deactivate | .useTransport _ => False
  | _ => True

/-- Something that happens that is no request, has nothing to do with the life of a transport, and does not begin to
build a session anew. -/
def Happening.Mild : Happening → Prop
  | .sent _ _ _ | .opened _ | .closed _ _ => False
  | .aside (.log record) => beginsRecovery record = false
  | _ => True

section
variable (surroundings : Surroundings) (settings : Settings) (caller : Thread)
  (nested : List Move → Chronicle → Chronicle) (invariant : Chronicle → Prop)

/-- An invariant that lasts while nothing happens that would matter to it. -/
structure Orderly : Prop where
  steps : ∀ s c, Step.Mild s → invariant c → invariant (c.remember (s.apply caller c.memory).2)
  notes : ∀ c h, Happening.Mild h → invariant c → invariant (c.add h)
  flags : ∀ c flags, invariant c → invariant (c.flagged flags)

/-- An orderly invariant that every operation on a consumer keeps, and whatever takes another transport into use or
gives up the last one. -/
structure Sustained : Prop extends Orderly caller invariant where
  create : Keeps (surroundings.host nested caller) invariant (create settings)
  subscribe : ∀ topics, Keeps (surroundings.host nested caller) invariant (subscribe settings topics)
  subscriptions : Keeps (surroundings.host nested caller) invariant (subscriptions settings)
  delete : Keeps (surroundings.host nested caller) invariant (delete settings)
  consume : ∀ timeout, Keeps (surroundings.host nested caller) invariant (consume settings timeout)
  commit : Keeps (surroundings.host nested caller) invariant (commit settings)
  recreate : ∀ e, Keeps (surroundings.host nested caller) invariant (recreate settings e)
  destroy : ∀ rounds, Keeps (surroundings.host nested caller) invariant (destroy settings rounds)

end

/-- A step that leaves alone which consumer and which topics are recorded. -/
def Step.KeepsRecords : Step → Prop
  | .setConsumer _ _ | .replaceTopics _ _ | .resetSession _ => False
  | _ => True

/-- An invariant that every operation on a consumer keeps, and everything else that happens too. -/
structure Upheld (surroundings : Surroundings) (settings : Settings) (caller : Thread)
    (nested : List Move → Chronicle → Chronicle) (invariant : Chronicle → Prop) : Prop where
  create : Keeps (surroundings.host nested caller) invariant (create settings)
  subscribe : ∀ topics, Keeps (surroundings.host nested caller) invariant (subscribe settings topics)
  subscriptions : Keeps (surroundings.host nested caller) invariant (subscriptions settings)
  delete : Keeps (surroundings.host nested caller) invariant (delete settings)
  consume : ∀ timeout, Keeps (surroundings.host nested caller) invariant (consume settings timeout)
  commit : Keeps (surroundings.host nested caller) invariant (commit settings)
  steps : ∀ s c, Step.KeepsRecords s → invariant c → invariant (c.remember (s.apply caller c.memory).2)
  notes : ∀ c h, (∀ n request answer, h ≠ .sent n request answer) → invariant c → invariant (c.add h)
  flags : ∀ c flags, invariant c → invariant (c.flagged flags)

/-! ## Steps and calls -/

/-- A call that hands nothing to a callback leaves a note, and the flags to other threads. -/
theorem outside_keeps {surroundings : Surroundings} {nested : List Move → Chronicle → Chronicle}
    {invariant : Chronicle → Prop} (flags : ∀ c flags, invariant c → invariant (c.flagged flags)) (call : Outside)
    (quick : ∀ id batch consumer, call ≠ .callback id batch consumer) {c : Chronicle}
    (noted : ∀ reply, invariant (c.add (call.happening reply))) : invariant (surroundings.outside nested call c).2 := by
  have still : surroundings.during nested call c = c := by
    cases call <;> first | rfl | exact absurd rfl (quick _ _ _)
  unfold Surroundings.outside
  rw [still]
  exact flags _ _ (noted _)

section
variable {surroundings : Surroundings} {settings : Settings} {caller : Thread}
  {nested : List Move → Chronicle → Chronicle} {invariant : Chronicle → Prop}

namespace Orderly

section
variable (orderly : Orderly caller invariant)
include orderly

theorem step (s : Step) (mild : s.Mild) : Keeps (surroundings.host nested caller) invariant (step s) :=
  fun c held => orderly.steps s c mild held

theorem acquire (api : String) : Keeps (surroundings.host nested caller) invariant (acquire api) :=
  fun c held => orderly.steps (.acquire (some api)) c trivial held

theorem release : Keeps (surroundings.host nested caller) invariant release :=
  fun c held => orderly.steps .release c trivial held

theorem unlockDestroy : Keeps (surroundings.host nested caller) invariant unlockDestroy :=
  fun c held => orderly.steps .unlockDestroy c trivial held

/-- A call that is no request and hands nothing to a callback. -/
theorem call (call : Outside) (quick : ∀ id batch consumer, call ≠ .callback id batch consumer)
    (mild : ∀ reply, (call.happening reply).Mild) (c : Chronicle) (held : invariant c) :
    invariant (surroundings.outside nested call c).2 :=
  outside_keeps orderly.flags call quick fun reply => orderly.notes _ _ (mild reply) held

theorem log (level : Level) {message : String} (extras : List (String × Value)) (other : message ≠ recoveryMessage) :
    Keeps (surroundings.host nested caller) invariant (log level message extras) :=
  orderly.call (.log (.event "streaming_client.channel" level message extras)) nofun fun _ =>
    beq_eq_false_iff_ne.mpr other

theorem wait : Keeps (surroundings.host nested caller) invariant wait :=
  orderly.call .wait nofun fun _ => trivial

theorem sleep (seconds : Value) : Keeps (surroundings.host nested caller) invariant (sleep seconds) :=
  orderly.call (.sleep seconds) nofun fun _ => trivial

/-- A callback is called, makes its moves, and comes back. -/
theorem callBack (within : ∀ moves c, invariant c → invariant (nested moves c)) (id : CallbackId)
    (batch : Batch) (consumer : Option String) :
    Keeps (surroundings.host nested caller) invariant (callBack id batch consumer) :=
  fun _ held => orderly.flags _ _ (orderly.notes _ _ trivial (within _ _ (orderly.notes _ _ trivial held)))

/-! ## Around operations -/

theorem acquireActive (api : String) :
    Keeps (surroundings.host nested caller) invariant (acquireActive api) := by
  refine (orderly.acquire api).bind fun _ => (orderly.step .session trivial).bind fun s => ?_
  split
  · exact orderly.release.bind fun _ => keeps_throw _
  · exact keeps_pure _

theorem inContext {change : LogContext.Change} {body : Operation α}
    (kept : Keeps (surroundings.host nested caller) invariant body) :
    Keeps (surroundings.host nested caller) invariant (inContext change body) :=
  (orderly.step .context trivial).bind fun _ => Keeps.bind (orderly.step (.changeContext change) trivial)
    fun _ => kept.ensuring (orderly.step (.changeContext _) trivial)

theorem goesOn (state : LoopState) : Keeps (surroundings.host nested caller) invariant (goesOn state) := by
  unfold Channel.goesOn
  split
  · exact (orderly.step .flags trivial).bind fun _ => keeps_pure _
  · exact keeps_pure _

theorem awaitIdle (rounds : Nat) : Keeps (surroundings.host nested caller) invariant (awaitIdle rounds) := by
  induction rounds with
  | zero =>
    refine (orderly.step .flags trivial).bind fun f => ?_
    split
    · exact keeps_throw _
    · exact keeps_pure _
  | succ rounds ih =>
    refine (orderly.step .flags trivial).bind fun f => ?_
    split
    · exact orderly.wait.bind fun _ => ih
    · exact keeps_pure _

theorem tryStart (rounds : Nat) (patient : Bool) :
    Keeps (surroundings.host nested caller) invariant (tryStart rounds patient) := by
  unfold Channel.tryStart
  split
  · exact (orderly.awaitIdle rounds).bind fun _ => orderly.step .tryStart trivial
  · exact orderly.step .tryStart trivial

theorem loopTopics (topics : Topics) :
    Keeps (surroundings.host nested caller) invariant (loopTopics topics) := by
  have recorded : Keeps (surroundings.host nested caller) invariant
      (do return (← session).topics : Operation (List Value)) :=
    (orderly.step .session trivial).bind fun _ => keeps_pure _
  unfold Channel.loopTopics
  split
  · exact recorded
  · exact recorded
  · exact keeps_pure _
  · exact keeps_throw _
  · exact recorded
  · exact keeps_pure _

theorem enterLoop (rounds : Nat) (callback : Option CallbackId) (topics : Topics) :
    Keeps (surroundings.host nested caller) invariant (enterLoop settings rounds callback topics) := by
  unfold Channel.enterLoop
  cases settings.group.truthy with
  | false => exact keeps_throw_bind _ _
  | true =>
    simp only [Bool.not_true, Bool.false_eq_true, ↓reduceIte]
    split
    · exact keeps_throw _
    · refine (orderly.loopTopics topics).bind fun wanted => (orderly.step .depth trivial).bind fun claims =>
        (orderly.tryStart rounds _).bind fun started => ?_
      split
      · exact keeps_pure _
      · exact (orderly.log _ _ (by decide)).bind fun _ => keeps_pure _

/-! ## Stopping -/

theorem awaitEnd (rounds : Nat) :
    Keeps (surroundings.host nested caller) invariant (awaitEnd settings rounds) := by
  induction rounds with
  | zero =>
    refine (orderly.step .flags trivial).bind fun f => ?_
    split
    · exact keeps_throw_bind _ _
    · exact orderly.log _ _ (by decide)
  | succ rounds ih =>
    refine (orderly.step .flags trivial).bind fun f => ?_
    split
    · exact (orderly.log _ _ (by decide)).bind fun _ => (orderly.sleep _).bind fun _ => ih
    · exact orderly.log _ _ (by decide)

theorem stop (rounds : Nat) : Keeps (surroundings.host nested caller) invariant (stop settings rounds) := by
  refine (orderly.step .flags trivial).bind fun f => ?_
  split
  · exact keeps_pure _
  · refine (orderly.step .tryRequestStop trivial).bind fun asked => ?_
    split
    · exact keeps_pure _
    · refine (orderly.step .held trivial).bind fun own => ?_
      split
      · exact orderly.log _ _ (by decide)
      · exact ((orderly.awaitEnd rounds).rescue fun e => keeps_throw _).ensuring
          (orderly.step .clearStopRequest trivial)

end

end Orderly

namespace Sustained

section
variable (sustained : Sustained surroundings settings caller nested invariant)
include sustained

/-! ## Running -/

theorem deleteAfterFailure (e : Failure) :
    Keeps (surroundings.host nested caller) invariant (deleteAfterFailure settings e) := by
  refine (sustained.toOrderly.step .session trivial).bind fun _ =>
    (sustained.toOrderly.log _ _ (by decide)).bind fun _ =>
      (sustained.toOrderly.step .session trivial).bind fun s => ?_
  split
  · refine sustained.delete.rescue fun second => ?_
    split
    · exact sustained.toOrderly.log _ _ (by decide)
    · exact keeps_throw _
  · exact keeps_pure _

theorem recover (goOn : Bool) (e : Failure) :
    Keeps (surroundings.host nested caller) invariant (recover settings goOn e) := by
  unfold Channel.recover
  split
  · exact (sustained.recreate e).bind fun _ => keeps_pure _
  · exact (sustained.deleteAfterFailure e).bind fun _ => keeps_throw _
  · exact (sustained.deleteAfterFailure e).bind fun _ => keeps_throw _
  · exact keeps_throw _

section
variable (within : ∀ moves c, invariant c → invariant (nested moves c))
include within

theorem fetch (callback : CallbackId) (topics : List Value) (subscribed : Bool) :
    Keeps (surroundings.host nested caller) invariant (fetch settings callback topics subscribed) := by
  have rest (stopped : Bool) : Keeps (surroundings.host nested caller) invariant (do
      if stopped then return none
      let batch ← Channel.consume settings settings.consumeTimeout
      let s ← session
      let wish ← Operation.callBack callback batch s.consumer
      if (← session).active then return some wish.truthy else return none) := by
    split
    · exact keeps_pure _
    · refine (sustained.consume _).bind fun batch => (sustained.toOrderly.step .session trivial).bind fun s =>
        (sustained.toOrderly.callBack within _ _ _).bind fun wish =>
          (sustained.toOrderly.step .session trivial).bind fun t => ?_
      split
      · exact keeps_pure _
      · exact keeps_pure _
  unfold Channel.fetch
  split
  · exact (keeps_pure _).bind rest
  · exact (sustained.subscribe _).bind fun _ => (sustained.toOrderly.step .flags trivial).bind fun f =>
      (keeps_pure _).bind rest

theorem cycle (callback : CallbackId) (topics : List Value) (subscribed : Bool) :
    Keeps (surroundings.host nested caller) invariant (cycle settings callback topics subscribed) := by
  refine (sustained.fetch within callback topics subscribed).outcome.bind fun result => ?_
  split
  · exact sustained.recover _ _
  · exact keeps_pure _
  · exact (sustained.commit.bind fun _ => keeps_pure _).rescue fun e => sustained.recover _ e

theorem loop (callback : CallbackId) (topics : List Value) (rounds : Nat) (state : LoopState) :
    Keeps (surroundings.host nested caller) invariant (loop settings callback topics rounds state) := by
  induction rounds generalizing state with
  | zero =>
    refine (sustained.toOrderly.goesOn state).bind fun going => ?_
    split
    · exact keeps_throw _
    · exact keeps_pure _
  | succ rounds ih =>
    refine (sustained.toOrderly.goesOn state).bind fun going => ?_
    split
    · exact (sustained.cycle within callback topics _).bind fun next => ih next
    · exact keeps_pure _

theorem run (rounds : Nat) (callback : Option CallbackId) (topics : Topics) :
    Keeps (surroundings.host nested caller) invariant (run settings rounds callback topics) := by
  refine (sustained.toOrderly.acquireActive _).bind fun _ =>
    (sustained.toOrderly.enterLoop rounds callback topics).outcome.bind fun entered => ?_
  split
  · exact sustained.toOrderly.release.bind fun _ => keeps_throw _
  · exact sustained.toOrderly.release
  · exact (sustained.toOrderly.inContext ((sustained.toOrderly.log _ _ (by decide)).bind fun _ =>
      sustained.loop within _ _ _ _)).outcome.bind fun _ => sustained.toOrderly.release.bind fun _ =>
        (sustained.toOrderly.step .finish trivial).bind fun _ =>
          (sustained.toOrderly.log _ _ (by decide)).bind fun _ => keeps_settle _

end

/-! ## Moves -/

theorem move (within : ∀ moves c, invariant c → invariant (nested moves c)) (move : Move) :
    Keeps (surroundings.host nested caller) invariant (move.operation settings) := by
  cases move with
  | create => exact sustained.create
  | subscribe topics => exact sustained.subscribe topics
  | subscriptions => exact sustained.subscriptions.bind fun _ => keeps_pure _
  | delete => exact sustained.delete
  | consume timeout => exact (sustained.consume timeout).bind fun _ => keeps_pure _
  | commit => exact sustained.commit
  | run rounds callback topics => exact sustained.run within rounds callback topics
  | stop rounds => exact sustained.toOrderly.stop rounds
  | destroy rounds => exact sustained.destroy rounds

end

end Sustained

namespace Upheld

section
variable (upheld : Upheld surroundings settings caller nested invariant)
include upheld

theorem orderly : Orderly caller invariant where
  steps s c mild := upheld.steps s c (by cases s <;> first | exact mild.elim | trivial)
  notes c h mild := upheld.notes c h (by rintro n request answer rfl; exact mild)
  flags := upheld.flags

theorem step (s : Step) (keeps : s.KeepsRecords) : Keeps (surroundings.host nested caller) invariant (step s) :=
  fun c held => upheld.steps s c keeps held

theorem log (level : Level) (message : String) (extras : List (String × Value)) :
    Keeps (surroundings.host nested caller) invariant (log level message extras) := fun _ held =>
  outside_keeps upheld.flags (.log (.event "streaming_client.channel" level message extras)) nofun fun _ =>
    upheld.notes _ _ nofun held

theorem closeTransport : Keeps (surroundings.host nested caller) invariant closeTransport :=
  (upheld.step .transport trivial).bind fun n => fun _ held =>
    outside_keeps upheld.flags (.closeTransport n) nofun fun _ => upheld.notes _ _ nofun held

theorem openTransport : Keeps (surroundings.host nested caller) invariant openTransport :=
  Keeps.bind (fun _ held => outside_keeps upheld.flags .openTransport nofun fun
    | .ok _ => upheld.notes _ _ nofun held
    | .error _ => upheld.notes _ _ nofun held) fun n => upheld.step (.useTransport n) trivial

theorem recreate (e : Failure) : Keeps (surroundings.host nested caller) invariant (recreate settings e) :=
  (upheld.step .session trivial).bind fun _ => (upheld.log _ _ _).bind fun _ =>
    upheld.delete.bind fun _ => upheld.closeTransport.bind fun _ => upheld.openTransport.bind fun _ =>
      upheld.create

theorem destroy (rounds : Nat) :
    Keeps (surroundings.host nested caller) invariant (destroy settings rounds) := by
  have body : Keeps (surroundings.host nested caller) invariant (do
      if (← session).active then
        Channel.stop settings rounds
        Channel.delete settings
        Operation.closeTransport
        Operation.step .deactivate
        Operation.log Level.info "Channel destroyed" [("consumer_group", settings.group)]) := by
    refine (upheld.step .session trivial).bind fun s => ?_
    split
    · exact (upheld.orderly.stop rounds).bind fun _ => upheld.delete.bind fun _ => upheld.closeTransport.bind fun _ =>
        (upheld.step .deactivate trivial).bind fun _ => upheld.log _ _ _
    · exact keeps_pure _
  refine (upheld.step .lockDestroy trivial).bind fun free => ?_
  cases free with
  | false => exact keeps_throw_bind _ _
  | true => exact body.ensuring upheld.orderly.unlockDestroy

theorem sustained : Sustained surroundings settings caller nested invariant where
  toOrderly := upheld.orderly
  create := upheld.create
  subscribe := upheld.subscribe
  subscriptions := upheld.subscriptions
  delete := upheld.delete
  consume := upheld.consume
  commit := upheld.commit
  recreate := upheld.recreate
  destroy := upheld.destroy

section
variable (within : ∀ moves c, invariant c → invariant (nested moves c))
include within

theorem fetch (callback : CallbackId) (topics : List Value) (subscribed : Bool) :
    Keeps (surroundings.host nested caller) invariant (fetch settings callback topics subscribed) :=
  upheld.sustained.fetch within callback topics subscribed

theorem cycle (callback : CallbackId) (topics : List Value) (subscribed : Bool) :
    Keeps (surroundings.host nested caller) invariant (cycle settings callback topics subscribed) :=
  upheld.sustained.cycle within callback topics subscribed

theorem run (rounds : Nat) (callback : Option CallbackId) (topics : Topics) :
    Keeps (surroundings.host nested caller) invariant (run settings rounds callback topics) :=
  upheld.sustained.run within rounds callback topics

end

end

end Upheld

end

/-- What every operation keeps is kept by any moves that a thread makes, and that callbacks make within. -/
theorem perform_sustains {surroundings : Surroundings} {settings : Settings} {caller : Thread}
    {invariant : Chronicle → Prop} (sustained : ∀ nested, Sustained surroundings settings caller nested invariant)
    (depth : Nat) (moves : List Move) (c : Chronicle) (held : invariant c) :
    invariant (perform surroundings settings caller depth moves c) := by
  induction depth generalizing moves c with
  | zero => exact held
  | succ depth ih =>
    unfold perform
    induction moves generalizing c with
    | nil => exact held
    | cons move rest next =>
      have kept := (sustained (perform surroundings settings caller depth)).move ih move c held
      exact next _ ((sustained (perform surroundings settings caller depth)).notes _ _ trivial kept)

theorem perform_keeps {surroundings : Surroundings} {settings : Settings} {caller : Thread}
    {invariant : Chronicle → Prop} (upheld : ∀ nested, Upheld surroundings settings caller nested invariant)
    (depth : Nat) (moves : List Move) (c : Chronicle) (held : invariant c) :
    invariant (perform surroundings settings caller depth moves c) :=
  perform_sustains (fun nested => (upheld nested).sustained) depth moves c held

end ConsumerChannel.Channel
