import ConsumerChannel.Environment
import ConsumerChannel.FileSystem
import ConsumerChannel.Log.Record
import ConsumerChannel.Settings
import ConsumerChannel.Yaml.Document

/-!
Settings in a file. The file is a YAML document with a section for the channel. Placeholders in it
are replaced from the environment, and three variables win over what the section says.
-/
namespace ConsumerChannel

namespace SettingsFile

/-- A result with the records that were logged on the way. -/
abbrev Logged (α : Type) := Except Fault α × List LogRecord

/-- A record of reading settings. -/
def record (level : Level) (message : String) (extras : List (String × Value)) : LogRecord :=
  .event "streaming_client.config" level message extras

/-- The document at a path: an empty dictionary if nothing is there, or nothing but what counts as
false. -/
def document (found : Option FileTree) : Except Fault Value :=
  match found with
  | none => .ok (.dict [])
  | some (.directory _) => .error .isDirectory
  | some (.file content) =>
    match Text.decodeStrict? content with
    | none => .error .notText
    | some s => do return Settings.orElse (← Yaml.read s) (.dict [])

/-- The name of the section. -/
def sectionName : String := "channel"

/-- The text of a refusal because the section is missing. -/
def missingSectionMessage : String :=
  "Invalid config file: missing 'channel:' section\n" ++
    "See the streaming_client.config module docstring for the expected structure"

/-- Whether a text holds another one. -/
def holdsText (part : List Char) : List Char → Bool
  | [] => part.isEmpty
  | c :: rest => part.isPrefixOf (c :: rest) || holdsText part rest

/-- Whether a document has the section, as far as its sort can have one: as a key, as a member, or
within a text. -/
def hasSection : Value → Except Fault Bool
  | .text s => .ok (holdsText sectionName.toList s.toList)
  | .bytes _ => .error .wrongSort
  | .byteArray _ => .error .wrongSort
  | other =>
    match other.members? with
    | some members => .ok (members.any (Value.sameKey · (.text sectionName)))
    | none => .error .wrongSort

/-- The section of a document, which has to be a dictionary to have one. -/
def sectionIn (document : Value) : Except Fault Value := do
  if !(← hasSection document) then throw (.badValue (some missingSectionMessage))
  match document with
  | .dict entries => return (Value.field? entries sectionName).getD .null
  | _ => throw .wrongSort

/-- The variables that win over the section, with the settings that they are for. -/
def overrides : List (String × String) :=
  [("base_url", "CHANNEL_BASE_URL"), ("consumer_group", "CHANNEL_CONSUMER_GROUP"),
    ("verify_cert_bundle", "CHANNEL_VERIFY_CERT_BUNDLE")]

/-- Entries with those that the environment sets. -/
def override (env : Environment) (entries : List (Value × Value)) : List (Value × Value) :=
  overrides.foldl (fun entries row =>
    match env.get? row.2 with
    | some s => Value.insertEntry entries (.text row.1) (.text s)
    | none => entries) entries

/-- The entries of the section of a document, as they count in an environment. A document in which
something holds itself would be expanded for ever. -/
def entriesOf (env : Environment) (document : Value) : Except Fault (List (Value × Value)) := do
  if document.isEndless then throw .endless
  let written ← sectionIn (document.expand env)
  let entries ← if written.truthy then Settings.dictOf written else pure []
  return override env entries

/-- The section of the file at a path. -/
def loadSection (env : Environment) (files : FileSystem) (path : String) : Logged Value :=
  let name := FilePath.normalize path
  match files.find? path with
  | none => (.error (.noSuchFile name), [])
  | found =>
    (do return .dict (← entriesOf env (← document found)),
      [record Level.info ("Loading configuration from file: " ++ name) []])

/-- The settings of the file at a path. -/
def load (env : Environment) (files : FileSystem) (path : String) : Logged Settings :=
  let (found, records) := loadSection env files path
  match found.bind Settings.ofSection with
  | .error f => (.error f, records)
  | .ok settings =>
    (.ok settings, records ++
      [record Level.debug "Configuration loaded"
        [("consumer_group", settings.group), ("retry_on_fail", settings.retryOnFail),
          ("auto_commit", .bool settings.autoCommits)]])

end SettingsFile

end ConsumerChannel
