import ConsumerChannel.Channel.RunLoop

/-!
Stopping the loop and destroying the channel. Any thread may ask the loop to stop; the first that does
waits for its end by looking at it from time to time, unless it is the loop itself that asks.
-/
namespace ConsumerChannel.Channel
open Operation

/-- The name of destruction in failures. -/
def destroyName : String := "destroy"

/-- Sleeps until no loop runs. -/
def awaitEnd (settings : Settings) : (rounds : Nat) → Operation Unit
  | 0 => do
    if (← flags).running then throw (.fault .unfinished)
    log Level.info "Channel was stopped" []
  | rounds + 1 => do
    if (← flags).running then
      log Level.debug "Waiting for channel to stop" [("wait_seconds", settings.stopPeriod)]
      sleep settings.stopPeriod
      awaitEnd settings rounds
    else log Level.info "Channel was stopped" []

/-- A failure while waiting, as the failure of the stop; a wait that was given up stays what it is. -/
def stopFailure (e : Failure) : Failure :=
  match e with
  | .fault .unfinished => e
  | other => .stop "Failed to stop channel" (some other)

/-- Asks a running loop to stop and waits for its end. Returns at once if no loop runs, if it has been
asked already, or if the loop itself asks. -/
def stop (settings : Settings) (rounds : Nat) : Operation Unit := do
  if !(← flags).running then return ()
  if !(← tryRequestStop) then return ()
  if ← held then
    log Level.info "Stop requested from the consume loop" []
  else
    ensuring
      (rescue (awaitEnd settings rounds) fun e => throw (stopFailure e))
      (step .clearStopRequest)

/-- Stops the loop, deletes the consumer, closes the transport and freezes the session. A channel that
is destroyed already stays as it is; a second thread is refused while the first is at it. -/
def destroy (settings : Settings) (rounds : Nat) : Operation Unit := do
  if !(← lockDestroy) then
    throw (.transient contentionMessage (some destroyName))
  ensuring
    (do
      if (← session).active then
        stop settings rounds
        delete settings
        closeTransport
        step .deactivate
        log Level.info "Channel destroyed" [("consumer_group", settings.group)])
    unlockDestroy

/-- Makes a channel: builds its first transport. -/
def establish (settings : Settings) : Operation Unit := do
  openTransport
  log Level.debug "Channel initialized"
    [("consumer_group", settings.group), ("retry_on_fail", settings.retryOnFail),
      ("auto_commit", .bool settings.autoCommits)]

/-- A channel as messages show it. -/
def shown (settings : Settings) (s : Session String Value) : String :=
  "Channel(consumer_group=" ++ settings.group.shown ++ ", consumer_id=" ++
    (optionalText s.consumer).shown ++ ", active=" ++ Value.boolText s.active ++ ")"

end ConsumerChannel.Channel
