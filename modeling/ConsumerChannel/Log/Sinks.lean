import ConsumerChannel.FilePath
import ConsumerChannel.Log.ConsoleLine

/-!
Where log records go. Setting up replaces the sinks: one for the console, and one for a file if a file
is named. A file that would reach its bound is moved aside first; a bounded number of such files is
kept, the latest with the lowest number.
-/
namespace ConsumerChannel

/-- Files by path, in the order in which they were first written. -/
abbrev FileStore := List (String × String)

namespace FileStore

/-- The content of a file. -/
def read? (files : FileStore) (path : String) : Option String :=
  (files.find? fun file => file.1 == path).map Prod.snd

/-- The files without one. -/
def remove (files : FileStore) (path : String) : FileStore :=
  files.filter fun file => file.1 != path

/-- The files with a content under a path. -/
def write (files : FileStore) (path content : String) : FileStore :=
  match files with
  | [] => [(path, content)]
  | (p, c) :: rest => if p = path then (p, content) :: rest else (p, c) :: write rest path content

/-- The files with a text added at the end of one, which is made if it is not there. -/
def append (files : FileStore) (path more : String) : FileStore :=
  files.write path ((files.read? path).getD "" ++ more)

/-- The files with one moved over another; nothing if there is none to move. -/
def move (files : FileStore) (source target : String) : FileStore :=
  match files.read? source with
  | none => files
  | some content => ((files.remove target).remove source).write target content

/-- Whether a path is that of a directory that holds a file. -/
def isDirectory (files : FileStore) (path : String) : Bool :=
  files.any fun file => file.1.startsWith (path ++ "/")

end FileStore

/-- A log file with its bound in bytes, zero or less for none, and the number of files kept aside. -/
structure LogFile where
  path : String
  maxBytes : Int
  backups : Int
  deriving DecidableEq, Repr

namespace LogFile

/-- The path of a file kept aside. -/
def aside (f : LogFile) (n : Nat) : String := f.path ++ "." ++ toString n

/-- Moves the files kept aside one number up, from the last but one down to the first. -/
def shift (f : LogFile) : Nat → FileStore → FileStore
  | 0, files => files
  | n + 1, files => shift f n (files.move (f.aside (n + 1)) (f.aside (n + 2)))

/-- Moves a full file aside. Without room for files aside it stays and is written on. -/
def rollOver (f : LogFile) (files : FileStore) : FileStore :=
  if f.backups ≤ 0 then files
  else ((f.shift (f.backups.toNat - 1) files).move f.path (f.aside 1)).append f.path ""

/-- Whether a line would take the file to its bound: its size in bytes and the number of characters
of the line reach it. -/
def isFull (f : LogFile) (files : FileStore) (line : String) : Bool :=
  0 < f.maxBytes &&
    f.maxBytes ≤ (((files.read? f.path).getD "").utf8ByteSize : Int) + line.length

/-- The files with a line written. -/
def write (f : LogFile) (line : String) (files : FileStore) : FileStore :=
  (if f.isFull files line then f.rollOver files else files).append f.path line

end LogFile

/-- A place where records go. -/
structure Sink where
  /-- Records below this level are left out. -/
  level : Level
  /-- Whether records are written as JSON. -/
  json : Bool
  /-- The file, or the console. -/
  file : Option LogFile

/-- How logging is set up. -/
structure LogSetup where
  consoleLevel : Level
  json : Bool
  logFile : Option String
  fileLevel : Level
  maxBytes : Int
  backups : Int
  quiet : Bool
  group : Value

/-- The state of logging: sinks, levels of loggers, the context, and what has been written. -/
structure Logging where
  rootLevel : Level
  sinks : List Sink
  levels : List (String × Level)
  context : LogContext
  console : String
  files : FileStore

namespace Logging

/-- Logging that has not been set up. -/
def unset : Logging := ⟨Level.warning, [], [], .empty, "", []⟩

/-- The loggers that are kept quiet. -/
def noisyLoggers : List String := ["urllib3", "requests"]

/-- The level of a logger; zero if it has none of its own. -/
def levelOf (l : Logging) (logger : String) : Level :=
  ((l.levels.find? fun row => row.1 == logger).map Prod.snd).getD 0

/-- The names of a logger and the loggers above it, the nearest first. -/
def ancestry (logger : String) : List String :=
  let names := logger.splitOn "."
  ((List.range names.length).map fun n => ".".intercalate (names.take (n + 1))).reverse

/-- The level that a logger goes by: its own or that of the nearest logger above that has one. -/
def effectiveLevel (l : Logging) (logger : String) : Level :=
  ((ancestry logger).findSome? fun name =>
    let level := l.levelOf name
    if level = 0 then none else some level).getD l.rootLevel

/-- Opens a log file, making it if it is not there. A directory cannot be opened. -/
def openFile (files : FileStore) (path : String) : Except Fault (String × FileStore) :=
  let names := FilePath.resolve path
  let full := "/".intercalate names
  if names.isEmpty || files.isDirectory full then .error .isDirectory
  else .ok (full, files.append full "")

/-- Sets logging up. The former sinks are dropped; levels of loggers stay as they are. -/
def setUp (l : Logging) (s : LogSetup) : Except Fault Logging := do
  let context := if s.group.truthy then l.context.apply { LogContext.Change.none with group := some s.group }
    else l.context
  let console : Sink := ⟨s.consoleLevel, s.json, none⟩
  let (sinks, files) ← match s.logFile with
    | none => pure ([console], l.files)
    | some path => do
      let (full, files) ← openFile l.files path
      pure ([console, ⟨s.fileLevel, true, some ⟨full, s.maxBytes, s.backups⟩⟩], files)
  let levels := if s.quiet then
      noisyLoggers.map (fun name => (name, Level.warning)) ++
        l.levels.filter (fun row => !noisyLoggers.contains row.1)
    else l.levels
  return { l with rootLevel := Level.debug, sinks := sinks, levels := levels, context := context, files := files }

/-- The line of a record in the form of a sink. -/
def line (now : DateTime) (context : LogContext) (s : Sink) (r : LogRecord) : Except Fault String :=
  if s.json then JsonLine.format now context r else ConsoleLine.format false now context r

/-- Sends a record to one sink. A record that cannot be written is left out there. -/
def send (now : DateTime) (r : LogRecord) (l : Logging) (s : Sink) : Logging :=
  if r.level < s.level then l
  else
    match line now l.context s r with
    | .error _ => l
    | .ok text =>
      let text := text ++ "\n"
      match s.file with
      | none => { l with console := l.console ++ text }
      | some f => { l with files := f.write text l.files }

/-- Logs a record, if its logger is open for its level. -/
def log (now : DateTime) (l : Logging) (r : LogRecord) : Logging :=
  if r.level < l.effectiveLevel r.logger then l else l.sinks.foldl (send now r) l

end Logging

end ConsumerChannel
