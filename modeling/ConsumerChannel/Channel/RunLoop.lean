import ConsumerChannel.Channel.Lifecycle

/-!
The loop of a channel: subscribe, pull a batch, hand it to the callback, commit, and again. A loop that
loses its consumer builds the session anew; any other channel failure deletes the consumer and ends
the loop. Rounds bound how often a loop goes on; a loop that uses them up is given up as unfinished.
-/
namespace ConsumerChannel.Channel
open Operation

/-- The name of running in failures. -/
def runName : String := "run"

/-- How a loop goes on. -/
structure LoopState where
  /-- Whether the topics of the loop are subscribed. -/
  subscribed : Bool
  /-- Whether the loop goes on. -/
  goOn : Bool
  deriving DecidableEq, Repr

/-- The fields that a failure of the loop is logged with. -/
def failureExtras (e : Failure) : List (String × Value) :=
  match e with
  | .channel kind message api _ _ =>
    [("api", optionalText api), ("error_category", .text kind.category.text),
      ("error_message", .text message)]
  | _ => []

/-- After the service has lost the consumer: deletes it, takes a new transport into use and creates a
consumer on it. -/
def recreate (settings : Settings) (e : Failure) : Operation Unit := do
  let s ← session
  log Level.warning "Resetting consumer loop"
    (("consumer_id", optionalText s.consumer) :: failureExtras e)
  delete settings
  closeTransport
  openTransport
  create settings

/-- After any other channel failure: deletes the consumer if the channel is still active. A channel
failure of the deletion is only logged. -/
def deleteAfterFailure (settings : Settings) (e : Failure) : Operation Unit := do
  let s ← session
  log Level.error "Consume loop failed"
    (("consumer_id", optionalText s.consumer) :: failureExtras e)
  if (← session).active then
    rescue (delete settings) fun second =>
      match second.class? with
      | some _ =>
        log Level.warning "Failed to delete consumer after loop failure"
          [("error_message", .text second.text)]
      | none => throw second

/-- What a loop does about a failure, and how it goes on. -/
def recover (settings : Settings) (goOn : Bool) (e : Failure) : Operation LoopState :=
  match e.class? with
  | some .sessionLost => do
    recreate settings e
    return ⟨false, goOn && settings.retryOnFail.truthy⟩
  | some .permanent => do
    deleteAfterFailure settings e
    throw e
  | some .transient => do
    deleteAfterFailure settings e
    throw e
  | _ => throw e

/-- The first half of a cycle: subscribes if needed, pulls a batch and hands it to the callback. Gives
whether the callback wants to go on; nothing if the loop was asked to stop while it subscribed, or if
the callback destroyed the channel. -/
def fetch (settings : Settings) (callback : CallbackId) (topics : List Value) (subscribed : Bool) :
    Operation (Option Bool) := do
  let stopped ←
    if subscribed then pure false
    else do
      subscribe settings (.many topics none)
      pure (← flags).stopRequested
  if stopped then return none
  let batch ← consume settings settings.consumeTimeout
  let s ← session
  let wish ← callBack callback batch s.consumer
  if (← session).active then return some wish.truthy else return none

/-- One cycle of the loop. -/
def cycle (settings : Settings) (callback : CallbackId) (topics : List Value) (subscribed : Bool) :
    Operation LoopState := do
  match ← outcome (fetch settings callback topics subscribed) with
  | .error e => recover settings true e
  | .ok none => return ⟨true, false⟩
  | .ok (some goOn) =>
    rescue (do commit settings; return ⟨true, goOn⟩) (recover settings goOn)

/-- Whether a loop goes on: the callback has not had enough, and nobody has asked it to stop. -/
def goesOn (state : LoopState) : Operation Bool :=
  if state.goOn then do return !(← flags).stopRequested else return false

/-- Cycles until the callback has had enough or the loop is asked to stop. -/
def loop (settings : Settings) (callback : CallbackId) (topics : List Value) :
    (rounds : Nat) → LoopState → Operation Unit
  | 0, state => do
    if ← goesOn state then throw (.fault .unfinished)
  | rounds + 1, state => do
    if ← goesOn state then
      let next ← cycle settings callback topics state.subscribed
      loop settings callback topics rounds next

/-- The topics of a loop: those it is given, or the recorded ones. -/
def loopTopics (topics : Topics) : Operation (List Value) := do
  let recorded : Operation (List Value) := do return (← session).topics
  match topics with
  | .absent => recorded
  | .single "" => recorded
  | .single name => return [.text name]
  | .many _ (some e) => throw e
  | .many [] none => recorded
  | .many members none => return members

/-- Waits until no loop runs. -/
def awaitIdle : (rounds : Nat) → Operation Unit
  | 0 => do
    if (← flags).running then throw (.fault .unfinished)
  | rounds + 1 => do
    if (← flags).running then
      wait
      awaitIdle rounds

/-- Marks a loop as running; a patient caller first waits for a loop that is about to end. -/
def tryStart (rounds : Nat) (patient : Bool) : Operation Bool := do
  if patient then awaitIdle rounds
  step .tryStart

/-- What is checked before a loop starts, under the guard. Gives the topics of the loop, or nothing if
one runs already. A caller inside the loop does not wait for it. -/
def enterLoop (settings : Settings) (rounds : Nat) (callback : Option CallbackId) (topics : Topics) :
    Operation (Option (CallbackId × List Value)) := do
  if !settings.group.truthy then
    throw (.permanent missingGroupMessage (some runName))
  match callback with
  | none => throw (.permanent "processCallback not provided" (some runName))
  | some id =>
    let wanted ← loopTopics topics
    let claims ← depth
    if ← tryStart rounds (claims ≤ 1) then return some (id, wanted)
    else do
      log Level.warning "Channel is already running, ignoring run() call" []
      return none

/-- Runs the loop. Inside a running loop it does nothing. The guard is released before the flags are
cleared, so that whoever waits for the end can use the channel at once. -/
def run (settings : Settings) (rounds : Nat) (callback : Option CallbackId) (topics : Topics) :
    Operation Unit := do
  acquireActive runName
  match ← outcome (enterLoop settings rounds callback topics) with
  | .error e => do
    release
    throw e
  | .ok none => release
  | .ok (some (id, wanted)) => do
    let group := match settings.group with
      | .null => none
      | given => some given
    let result ← outcome (inContext { LogContext.Change.none with group := group } do
      log Level.info "Starting consume loop" [("topics", .list wanted)]
      loop settings id wanted rounds ⟨false, true⟩)
    release
    step .finish
    log Level.info "Consume loop exited" [("consumer_group", settings.group)]
    settle result

end ConsumerChannel.Channel
