import ConsumerChannel.Log.JsonLine
import ConsumerChannel.Settings.File

/-!
What an observer of logs sees of work that goes straight on: the records in order. A record that
cannot be written ends the work.
-/
namespace ConsumerChannel.Rehearsal

/-- The lines of records up to the first that cannot be written, and the fault of that one. -/
def lines (context : LogContext) : List LogRecord → List Json × Option Fault
  | [] => ([], none)
  | r :: rest =>
    match JsonLine.observed context r with
    | .error f => ([], some f)
    | .ok entry =>
      let (more, fault) := lines context rest
      (entry :: more, fault)

/-- A result and the lines that were seen before it, if logs are observed. -/
def witnessed {α : Type} (observesLogs : Bool) (work : SettingsFile.Logged α) :
    Except Fault α × List Json :=
  if observesLogs then
    match lines .empty work.2 with
    | (seen, some f) => (.error f, seen)
    | (seen, none) => (work.1, seen)
  else (work.1, [])

end ConsumerChannel.Rehearsal
