import ConsumerChannel.Http.Endpoint
import ConsumerChannel.Settings.File

/-!
What a channel is made of when it is described by a settings file: the settings, and the endpoint with
the credentials that the file and the environment give.
-/
namespace ConsumerChannel.Channel

/-- The settings and the endpoint that the file at a path describes. -/
def fromFile (env : Environment) (files : FileSystem) (path : String) :
    SettingsFile.Logged (Settings × Http.Endpoint) :=
  let (found, records) := SettingsFile.loadSection env files path
  match found.bind fun entries => do return (entries, ← Settings.ofSection entries) with
  | .error f => (.error f, records)
  | .ok (entries, settings) =>
    let (credentials, more) := Credentials.ofSection env entries
    (do
      let endpoint ← Http.Endpoint.ofBase settings.base (← credentials) settings.certificates .null
      return (settings, endpoint),
      records ++ more)

end ConsumerChannel.Channel
