import ConsumerChannel.Http.Endpoint
import ConsumerChannel.Channel.Shutdown

/-!
Scripts of rehearsals. A script lists what threads do with a channel, and what happens around it: the
answers of the service, what others do while a request is under way, what callbacks do, and what
happens while somebody sleeps or waits.
-/
namespace ConsumerChannel.Rehearsal

/-- How a move is made: what it is called, by which thread if another than the one around it, and
whether its failure ends the moves around it. -/
structure Cue where
  label : String
  thread : Option Thread
  propagate : Bool
  deriving Inhabited

/-- An answer that the service is told to give, and a consumer that it is to know from then on. -/
structure ToldAnswer where
  alive : Option String
  outcome : Http.Outcome

/-- What is done. -/
inductive Act where
  | create
  | subscribe (topics : Value)
  | subscriptions
  | delete
  | consume (timeout : Value)
  | commit
  /-- Runs the loop with a callback that makes moves each time it is called and then fails or
  answers; nothing stands for what cannot be called. -/
  | run (callback : Option (List (List (Cue × Act) × Option Failure × Value))) (topics : Value)
  | stop
  | destroy
  /-- Makes moves with the channel open, fails if told so, and destroys it in the end. -/
  | within (moves : List (Cue × Act)) (failure : Option Failure)
  /-- Shows the channel. -/
  | shown
  /-- Shows the log context. -/
  | context
  /-- The service forgets all consumers. -/
  | lose
  /-- Tells the service more answers. -/
  | tell (api : Api) (answers : List ToldAnswer)
  /-- Adds moves that are made during a request. -/
  | interrupt (api : Api) (moves : List (Cue × Act))
  | tryStart (patient : Bool)
  | finish
  | tryRequestStop
  | clearStopRequest
  | acquire (api : Option String)
  | release
  | lockDestroy
  | unlockDestroy
  deriving Inhabited

/-- One move of a script. -/
abbrev Move := Cue × Act

/-- What a callback does when it is called: moves, and then a failure or an answer. -/
abbrev Reaction := List Move × Option Failure × Value

/-- What happens during a sleep: moves, and then perhaps an interruption with a text. -/
structure Slumber where
  moves : List Move
  interruption : Option String

/-- A script. -/
structure Script where
  moves : List Move
  answers : List (Api × ToldAnswer)
  interrupts : List (Api × List Move)
  sleeps : List Slumber
  waits : List (List Move)
  /-- Whether log records are part of what is seen. -/
  observesLogs : Bool

end ConsumerChannel.Rehearsal
