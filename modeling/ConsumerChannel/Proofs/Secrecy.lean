import Mathlib
import ConsumerChannel.Proofs.Interchange

/-! A token shows in the authorization of requests and nowhere else. Channels that differ in their tokens only run
alike, whether the token was given with the settings or is read from a settings file. -/
namespace ConsumerChannel

/-! ## Sections with tokens -/

/-- The environment gives no token. -/
def Environment.WithoutToken (env : Environment) : Prop :=
  ∀ token, env.get? Credentials.tokenVariable = some token → token = ""

/-- The entries of a section hold a token for requests. -/
def SettingsFile.Holds (entries : List (Value × Value)) (token : Value) : Prop :=
  ∃ auth, Value.field? entries "auth" = some (.dict auth) ∧ Value.field? auth "token" = some token

/-- The entries of two sections are the same for all settings, whatever authorizes requests. -/
def SettingsFile.SameSettings (entries others : List (Value × Value)) : Prop :=
  ∀ name, name ≠ "auth" → Value.field? others name = Value.field? entries name

theorem Credentials.ofToken_truthy {token : Value} (given : token.truthy = true) :
    ofToken token = .ok (.bearer token.plain) := if_pos given

theorem Credentials.ofSection_holding {env : Environment} {entries : List (Value × Value)} {token : Value}
    (unset : env.WithoutToken) (holds : SettingsFile.Holds entries token) (given : token.truthy = true) :
    ofSection env (.dict entries) = (.ok (some (.bearer token.plain)), []) := by
  obtain ⟨auth, found, inner⟩ := holds
  have present : Value.truthy (.dict auth) = true := by
    cases auth with
    | nil => cases inner
    | cons entry rest => rfl
  have written : tokenOf.fromSection (.dict auth) = .ok token := by
    simp only [tokenOf.fromSection, present, inner, Bool.not_true, Bool.false_eq_true, if_false, Option.getD_some]
  have chosen : tokenOf env (.dict entries) = .ok token := by
    unfold tokenOf
    simp only [found, Option.getD_some]
    cases looked : env.get? tokenVariable with
    | none => exact written
    | some text =>
      rw [unset text looked]
      exact written
  simp only [ofSection, chosen, given, if_true, ofToken_truthy given]
  rfl

theorem Settings.ofSection_congr {entries others : List (Value × Value)}
    (same : SettingsFile.SameSettings entries others) : ofSection (.dict others) = ofSection (.dict entries) := by
  have alike : ∀ name, name ≠ "auth" → Value.field? others name = Value.field? entries name := same
  unfold ofSection
  simp (disch := decide) only [alike]

/-- Whatever is read from a file, the same is logged of it. -/
theorem SettingsFile.loadSection_eq {env : Environment} {files : FileSystem} {path : String} {value : Value}
    (loads : (loadSection env files path).1 = .ok value) :
    loadSection env files path =
      (.ok value, [record Level.info ("Loading configuration from file: " ++ FilePath.normalize path) []]) := by
  refine Prod.ext loads ?_
  unfold loadSection at loads ⊢
  split at loads
  · cases loads
  · rfl

namespace Channel

/-! ## Runs -/

/-- Every request that a journal tells of carries a token as its authorization. -/
def Journal.Bears (j : Journal) (token : String) : Prop :=
  ∀ dispatch outcome, Entry.sent dispatch outcome ∈ j.entries →
    dispatch.headers = Http.contentHeaders ++ [(Http.authorizationName, "Bearer " ++ token)]

/-- Whatever is done with the channels of two deployments and however the network answers, all that is seen is the same,
but that the requests of each carry its own token. -/
def Deployment.AlikeBut (d e : Deployment) (token other : String) : Prop :=
  ∀ (network : Network) (depth : Nat) (calls : List (Thread × Move)),
    (e.live network depth calls).1 = (d.live network depth calls).1 ∧
    (e.live network depth calls).2.memory = (d.live network depth calls).2.memory ∧
    (e.live network depth calls).2.view = (d.live network depth calls).2.view ∧
    (d.live network depth calls).2.Bears token ∧ (e.live network depth calls).2.Bears other

/-- Requests of a deployment with a token carry it. -/
theorem Deployment.Keeps.bears {settings : Settings} {token : String} {j : Journal}
    (keeps : Deployment.Keeps ⟨settings, some (.bearer token)⟩ j) : j.Bears token := by
  intro dispatch outcome sent
  obtain ⟨endpoint, _, opened, _, headers⟩ := keeps.requests dispatch outcome sent
  rw [headers, Http.Endpoint.headers, (Http.Endpoint.of_ofBase opened).2]
  rfl

theorem interchangeable_of_tokens (settings : Settings) (token other : String) :
    Deployment.Interchangeable ⟨settings, some (.bearer token)⟩ ⟨settings, some (.bearer other)⟩ :=
  ⟨.refl _, rfl, fun _ => rfl, rfl⟩

theorem alikeBut_tokens (settings : Settings) (token other : String) :
    Deployment.AlikeBut ⟨settings, some (.bearer token)⟩ ⟨settings, some (.bearer other)⟩ token other := by
  intro network depth calls
  obtain ⟨result, mirrors⟩ := mirrored_live network (interchangeable_of_tokens settings token other) depth calls
  exact ⟨result, mirrors.memory, mirrors.view, mirrors.first.bears, mirrors.second.bears⟩

/-- A channel tries to create its consumer. -/
example :
    ((Deployment.live ⟨committing, some (.bearer "abc")⟩ .down 1 [(0, .create)]).2.entries.filterMap fun
      | .sent dispatch _ => some dispatch.headers
      | _ => none) = [Http.contentHeaders ++ [("Authorization", "Bearer abc")]] := by decide +kernel

/-! ## Channels of settings files -/

/-- A file whose section holds a token makes a channel of its settings, with that token. -/
theorem fromFile_holding {env : Environment} {files : FileSystem} {path : String} {entries : List (Value × Value)}
    {token : Value} (unset : env.WithoutToken)
    (loads : (SettingsFile.loadSection env files path).1 = .ok (.dict entries))
    (holds : SettingsFile.Holds entries token) (given : token.truthy = true) :
    fromFile env files path =
      ((Settings.ofSection (.dict entries)).bind fun settings =>
        (Deployment.endpoint ⟨settings, some (.bearer token.plain)⟩).map fun endpoint => (settings, endpoint),
        [SettingsFile.record Level.info ("Loading configuration from file: " ++ FilePath.normalize path) []]) := by
  unfold fromFile
  rw [SettingsFile.loadSection_eq loads]
  simp only [Except.bind]
  cases Settings.ofSection (.dict entries) with
  | error fault => rfl
  | ok settings =>
    simp only [bind, Except.bind, pure, Except.pure, Credentials.ofSection_holding unset holds given, List.append_nil]
    rfl

/-- Two files whose sections differ in the token make channels alike, or neither makes one. -/
private theorem fromFile_alike {env : Environment} {files otherFiles : FileSystem} {path : String}
    {entries others : List (Value × Value)} {token other : Value} (unset : env.WithoutToken)
    (loads : (SettingsFile.loadSection env files path).1 = .ok (.dict entries))
    (reloads : (SettingsFile.loadSection env otherFiles path).1 = .ok (.dict others))
    (holds : SettingsFile.Holds entries token) (given : token.truthy = true)
    (otherHolds : SettingsFile.Holds others other) (otherGiven : other.truthy = true)
    (same : SettingsFile.SameSettings entries others) :
    (fromFile env otherFiles path).2 = (fromFile env files path).2 ∧
      ((∃ fault, (fromFile env files path).1 = .error fault ∧ (fromFile env otherFiles path).1 = .error fault) ∨
        ∃ settings first second, (fromFile env files path).1 = .ok (settings, first) ∧
          (fromFile env otherFiles path).1 = .ok (settings, second) ∧
          Deployment.endpoint ⟨settings, some (.bearer token.plain)⟩ = .ok first ∧
          Deployment.endpoint ⟨settings, some (.bearer other.plain)⟩ = .ok second) := by
  rw [fromFile_holding unset loads holds given, fromFile_holding unset reloads otherHolds otherGiven,
    Settings.ofSection_congr same]
  refine ⟨rfl, ?_⟩
  cases Settings.ofSection (.dict entries) with
  | error fault => exact .inl ⟨fault, rfl, rfl⟩
  | ok settings =>
    have endpoints := (interchangeable_of_tokens settings token.plain other.plain).endpoints
    cases opened : Deployment.endpoint ⟨settings, some (.bearer token.plain)⟩ with
    | error fault =>
      rw [opened] at endpoints
      refine .inl ⟨fault, ?_, ?_⟩
      · simp only [Except.bind, opened, Except.map]
      · simp only [Except.bind, endpoints, Except.map]
    | ok first =>
      rw [opened] at endpoints
      refine .inr ⟨settings, first, _, ?_, ?_, opened, endpoints⟩
      · simp only [Except.bind, opened, Except.map]
      · simp only [Except.bind, endpoints, Except.map]

/-- Two tokens make credentials whose channels run alike on the same settings; and where the sections of two files
differ in their tokens only and the environment gives none, both files make such channels, or both fail alike. -/
theorem tokens_show_in_authorization_only {token other : Value} (given : token.truthy = true)
    (otherGiven : other.truthy = true) :
    (∃ first second, Credentials.ofToken token = .ok first ∧ Credentials.ofToken other = .ok second ∧
      ∀ settings, Deployment.AlikeBut ⟨settings, some first⟩ ⟨settings, some second⟩ token.plain other.plain) ∧
    ∀ (env : Environment) (files otherFiles : FileSystem) (path : String) (entries others : List (Value × Value)),
      env.WithoutToken →
      (SettingsFile.loadSection env files path).1 = .ok (.dict entries) →
      (SettingsFile.loadSection env otherFiles path).1 = .ok (.dict others) →
      SettingsFile.Holds entries token → SettingsFile.Holds others other →
      SettingsFile.SameSettings entries others →
      (fromFile env otherFiles path).2 = (fromFile env files path).2 ∧
      ((∃ fault, (fromFile env files path).1 = .error fault ∧ (fromFile env otherFiles path).1 = .error fault) ∨
        ∃ settings first second, (fromFile env files path).1 = .ok (settings, first) ∧
          (fromFile env otherFiles path).1 = .ok (settings, second) ∧
          Deployment.endpoint ⟨settings, first.credentials⟩ = .ok first ∧
          Deployment.endpoint ⟨settings, second.credentials⟩ = .ok second ∧
          Deployment.AlikeBut ⟨settings, first.credentials⟩ ⟨settings, second.credentials⟩ token.plain
            other.plain) := by
  refine ⟨⟨_, _, Credentials.ofToken_truthy given, Credentials.ofToken_truthy otherGiven,
    fun settings => alikeBut_tokens settings _ _⟩, ?_⟩
  intro env files otherFiles path entries others unset loads reloads holds otherHolds same
  obtain ⟨records, fails | ⟨settings, first, second, made, remade, opened, reopened⟩⟩ :=
    fromFile_alike unset loads reloads holds given otherHolds otherGiven same
  · exact ⟨records, .inl fails⟩
  · refine ⟨records, .inr ⟨settings, first, second, made, remade, ?_⟩⟩
    rw [(Http.Endpoint.of_ofBase opened).2, (Http.Endpoint.of_ofBase reopened).2]
    exact ⟨opened, reopened, alikeBut_tokens settings _ _⟩

/-! ## Two files -/

/-- The entries of a section with a token. -/
def tokenSection (token : String) : List (Value × Value) :=
  [(.text "base_url", .text "h"), (.text "auth", .dict [(.text "token", .text token)])]

/-- Whether a document has such a section and nothing else. -/
def isTokenDocument (token : String) : Except Fault Value → Bool
  | .ok (.dict [(.text a, .dict [(.text b, .text c), (.text d, .dict [(.text e, .text f)])])]) =>
    [a, b, c, d, e, f] = ["channel", "base_url", "h", "auth", "token", token]
  | _ => false

private theorem eq_of_isTokenDocument {token : String} {document : Except Fault Value}
    (shape : isTokenDocument token document = true) :
    document = .ok (.dict [(.text "channel", .dict (tokenSection token))]) := by
  unfold isTokenDocument at shape
  split at shape
  · cases of_decide_eq_true shape
    rfl
  · cases shape

/-- A directory with one file, in which the process works. -/
def workingBeside (content : List UInt8) : FileSystem :=
  ⟨.directory [("d", .directory [("c", .file content)])], ["d"]⟩

theorem find?_workingBeside (content : List UInt8) : (workingBeside content).find? "c" = some (.file content) := by cbv

private theorem loadSection_of_isTokenDocument (text token : String)
    (decodes : Text.decodeStrict? (Text.encode text) = some text)
    (reads : isTokenDocument token (Yaml.read text) = true) (plain : Placeholder.expandText [] token = token) :
    (SettingsFile.loadSection [] (workingBeside (Text.encode text)) "c").1 = .ok (.dict (tokenSection token)) := by
  have address : Placeholder.expandText [] "h" = "h" := by cbv
  have expanded : Value.expand [] (.dict [(.text "channel", .dict (tokenSection token))]) =
      .dict [(.text "channel", .dict (tokenSection token))] := by
    simp only [tokenSection, Value.expand, Value.expandEntries, plain, address]
  have entries : SettingsFile.entriesOf [] (.dict [(.text "channel", .dict (tokenSection token))]) =
      .ok (tokenSection token) := by
    unfold SettingsFile.entriesOf
    rw [expanded]
    rfl
  unfold SettingsFile.loadSection SettingsFile.document
  simp only [find?_workingBeside, decodes, eq_of_isTokenDocument reads, bind, Except.bind, pure, Except.pure,
    Settings.orElse, Value.truthy, List.isEmpty_cons, Bool.not_false, if_true, entries]

private theorem holds_tokenSection (token : String) :
    SettingsFile.Holds (tokenSection token) (.text token) := ⟨_, rfl, rfl⟩

private theorem sameSettings_tokenSection (token other : String) :
    SettingsFile.SameSettings (tokenSection token) (tokenSection other) := by
  intro name apart
  have key : ("auth" == name) = false := beq_eq_false_iff_ne.mpr apart.symm
  simp only [Value.field?, Value.entry?, tokenSection, List.find?_cons, Value.sameKey, Value.sameLeaf, key,
    List.find?_nil]

/-- Two files with the tokens abc and xyz make channels that run alike but for these. -/
theorem tokens_of_two_files_stay_apart :
    (Value.text "abc").truthy = true ∧ (Value.text "xyz").truthy = true ∧
      ∃ settings first second,
        (fromFile [] (workingBeside (Text.encode "channel: \x7bbase_url: h, auth: \x7btoken: abc\x7d\x7d")) "c").1 =
          .ok (settings, first) ∧
        (fromFile [] (workingBeside (Text.encode "channel: \x7bbase_url: h, auth: \x7btoken: xyz\x7d\x7d")) "c").1 =
          .ok (settings, second) ∧
        Deployment.AlikeBut ⟨settings, first.credentials⟩ ⟨settings, second.credentials⟩ "abc" "xyz" := by
  have loads := loadSection_of_isTokenDocument "channel: \x7bbase_url: h, auth: \x7btoken: abc\x7d\x7d" "abc"
    (by cbv) (by decide +kernel) (by cbv)
  have reloads := loadSection_of_isTokenDocument "channel: \x7bbase_url: h, auth: \x7btoken: xyz\x7d\x7d" "xyz"
    (by cbv) (by decide +kernel) (by cbv)
  have unset : Environment.WithoutToken [] := fun _ given => by cases given
  have given : (Value.text "abc").truthy = true := rfl
  have otherGiven : (Value.text "xyz").truthy = true := rfl
  refine ⟨given, otherGiven, ?_⟩
  obtain ⟨-, alike⟩ := tokens_show_in_authorization_only given otherGiven
  obtain ⟨-, ⟨fault, fails, -⟩ | ⟨settings, first, second, made, remade, -, -, runs⟩⟩ :=
    alike [] _ _ "c" _ _ unset loads reloads (holds_tokenSection _) (holds_tokenSection _)
      (sameSettings_tokenSection _ _)
  · rw [fromFile_holding unset loads (holds_tokenSection _) rfl] at fails
    cases fails
  · exact ⟨settings, first, second, made, remade, runs⟩

end Channel

end ConsumerChannel
