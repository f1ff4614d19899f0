import ConsumerChannel.Proofs.Interchange

/-! Slashes between an address and a path. However many stand at the end of the one and at the front of the other, one
is sent, so that channels which differ in these slashes only run alike. -/
namespace ConsumerChannel

/-! ## Texts -/

/-- A text of slashes. -/
def slashes (n : Nat) : String := String.ofList (List.replicate n '/')

namespace Text

theorem dropLeading_slashes (n : Nat) (s : String) : dropLeading '/' (slashes n ++ s) = dropLeading '/' s := by
  unfold dropLeading trimLeft slashes
  rw [String.toList_append, String.toList_ofList, List.dropWhile_append_of_pos]
  intro c member
  rw [List.eq_of_mem_replicate member]
  rfl

theorem dropTrailing_slashes (n : Nat) (s : String) : dropTrailing '/' (s ++ slashes n) = dropTrailing '/' s := by
  unfold dropTrailing trimRight slashes
  rw [String.toList_append, String.toList_ofList, List.reverse_append, List.reverse_replicate,
    List.dropWhile_append_of_pos]
  intro c member
  rw [List.eq_of_mem_replicate member]
  rfl

theorem dropTrailing_ne_empty {s : String} (more : ∃ c ∈ s.toList, c ≠ '/') : dropTrailing '/' s ≠ "" := by
  obtain ⟨c, member, other⟩ := more
  intro empty
  have nothing : s.toList.reverse.dropWhile (· == '/') = [] := by
    simpa [dropTrailing, trimRight] using congrArg String.toList empty
  have all : s.toList.reverse.all (· == '/') = true := by
    simpa [nothing] using List.any_dropWhile (l := s.toList.reverse) (p := (· == '/'))
  exact other (beq_iff_eq.mp (List.all_eq_true.mp all c (List.mem_reverse.mpr member)))

end Text

/-- An address is made of a base without the slashes at its end, one slash, and a path without the slashes at its
front. -/
def Joins (base path address : String) : Prop :=
  ∃ stem tail : String, ∃ after before : Nat,
    base = stem ++ slashes after ∧ stem.toList.getLast? ≠ some '/' ∧
    path = slashes before ++ tail ∧ tail.toList.head? ≠ some '/' ∧
    address = stem ++ "/" ++ tail

private theorem dropWhile_slash (cs : List Char) :
    ∃ n, cs = List.replicate n '/' ++ cs.dropWhile (· == '/') ∧ (cs.dropWhile (· == '/')).head? ≠ some '/' := by
  refine ⟨(cs.takeWhile (· == '/')).length, ?_, ?_⟩
  · have only : cs.takeWhile (· == '/') = List.replicate (cs.takeWhile (· == '/')).length '/' :=
      List.eq_replicate_iff.mpr ⟨rfl, fun c member =>
        beq_iff_eq.mp (List.all_eq_true.mp List.all_takeWhile c member)⟩
    rw [← only]
    exact List.takeWhile_append_dropWhile.symm
  · intro starts
    have apart := List.head?_dropWhile_not (· == '/') cs
    rw [starts] at apart
    cases apart

theorem joins_url (base path : String) :
    Joins base path (Text.dropTrailing '/' base ++ "/" ++ Text.dropLeading '/' path) := by
  obtain ⟨after, baseParts, ends⟩ := dropWhile_slash base.toList.reverse
  obtain ⟨before, pathParts, starts⟩ := dropWhile_slash path.toList
  refine ⟨_, _, after, before, ?_, ?_, ?_, ?_, rfl⟩
  · refine String.toList_inj.mp ?_
    have parts := congrArg List.reverse baseParts
    rw [List.reverse_reverse, List.reverse_append, List.reverse_replicate] at parts
    rw [String.toList_append, Text.dropTrailing, Text.trimRight, slashes, String.toList_ofList, String.toList_ofList]
    exact parts
  · rw [Text.dropTrailing, Text.trimRight, String.toList_ofList, List.getLast?_reverse]
    exact ends
  · refine String.toList_inj.mp ?_
    rw [String.toList_append, Text.dropLeading, Text.trimLeft, slashes, String.toList_ofList, String.toList_ofList]
    exact pathParts
  · rw [Text.dropLeading, Text.trimLeft, String.toList_ofList]
    exact starts

theorem Http.addressOf_text {base : String} (more : ∃ c ∈ base.toList, c ≠ '/') :
    addressOf (.text base) = .ok (Text.dropTrailing '/' base) := by
  have given : Value.truthy (.text base) = true := by
    obtain ⟨c, member, -⟩ := more
    refine bne_iff_ne.mpr ?_
    rintro rfl
    cases member
  unfold addressOf
  rw [if_pos given]
  exact if_neg (Text.dropTrailing_ne_empty more)

namespace Channel

/-! ## Journals of one authorization -/

/-- What was seen of an endpoint's requests, with its headers put back. -/
def Entry.signed (headers : List (String × String)) : Entry → Entry
  | sent dispatch outcome => sent { dispatch with headers := headers } outcome
  | entry => entry

/-- The endpoint of a deployment gives back all that the view leaves out. -/
theorem Deployment.Keeps.entries_eq {d : Deployment} {endpoint : Http.Endpoint} {j : Journal} (keeps : d.Keeps j)
    (opened : d.endpoint = .ok endpoint) : j.view.map (Entry.signed endpoint.headers) = j.entries := by
  unfold Journal.view
  rw [List.map_map]
  refine (List.map_congr_left ?_).trans (List.map_id _)
  intro entry member
  cases entry with
  | sent dispatch outcome =>
    obtain ⟨own, _, found, _, headers⟩ := keeps.requests dispatch outcome member
    cases opened.symm.trans found
    exact congrArg (Entry.sent · outcome) (by rw [Dispatch.unsigned, ← headers])
  | _ => rfl

theorem Deployment.Keeps.endpoints_eq {d : Deployment} {endpoint : Http.Endpoint} {j : Journal} (keeps : d.Keeps j)
    (opened : d.endpoint = .ok endpoint) : j.endpoints = List.replicate j.endpoints.length endpoint :=
  List.eq_replicate_iff.mpr
    ⟨rfl, fun own member => (Except.ok.inj (opened.symm.trans (keeps.endpoints own member))).symm⟩

/-- Where two deployments have one endpoint, journals that are the same but for the authorization are the same. -/
theorem Mirrors.eq {d e : Deployment} {endpoint : Http.Endpoint} {j k : Journal} (mirrors : Mirrors d e j k)
    (opened : d.endpoint = .ok endpoint) (reopened : e.endpoint = .ok endpoint) : k = j := by
  have entries : k.entries = j.entries := by
    rw [← mirrors.second.entries_eq reopened, mirrors.view, mirrors.first.entries_eq opened]
  have endpoints : k.endpoints = j.endpoints := by
    rw [mirrors.second.endpoints_eq reopened, mirrors.transports, ← mirrors.first.endpoints_eq opened]
  obtain ⟨memory, _, jars, _⟩ := k
  cases mirrors.memory
  cases mirrors.jars
  cases endpoints
  cases entries
  rfl

/-! ## Channels elsewhere -/

/-- Every request of a channel goes to a path below that of its settings. -/
theorem Purpose.path_eq (purpose : Purpose) :
    ∃ rest, ∀ settings, (purpose.request settings).path = settings.path.plain ++ rest := by
  have address (id suffix : String) (settings : Settings) :
      consumerAddress settings id ++ suffix = settings.path.plain ++ ("/consumers" ++ "/" ++ id ++ suffix) := by
    simp only [consumerAddress, consumersPath, String.append_assoc]
  cases purpose with
  | creation body => exact ⟨"/consumers", fun _ => rfl⟩
  | subscription consumer topics => exact ⟨_, address consumer "/subscription"⟩
  | inquiry consumer => exact ⟨_, address consumer "/subscription"⟩
  | pull consumer timeout =>
    have plainly (settings : Settings) := address consumer "/records" settings
    have timed (settings : Settings) : consumerAddress settings consumer ++ "/records" ++ "?timeout=" ++
        timeout.plain = consumerAddress settings consumer ++ ("/records" ++ "?timeout=" ++ timeout.plain) := by
      simp only [String.append_assoc]
    simp only [Purpose.request, Request.pull]
    cases timeout.isPositive with
    | error fault => exact ⟨_, plainly⟩
    | ok positive =>
      cases positive with
      | false => exact ⟨_, plainly⟩
      | true => exact ⟨_, fun settings => (timed settings).trans (address consumer _ settings)⟩
  | offsets consumer => exact ⟨_, address consumer "/offsets"⟩
  | deletion consumer => exact ⟨_, fun settings => (String.append_empty).symm.trans (address consumer "" settings)⟩

section
variable {s t : Settings} {base path : String} {m n : Nat}

private theorem interchangeable_of_slashes (elsewhere : s.Elsewhere t) (base_eq : s.base = .text base)
    (more : ∃ c ∈ base.toList, c ≠ '/') (other_base : t.base = .text (base ++ slashes m))
    (path_eq : s.path = .text path) (other_path : t.path = .text (slashes n ++ path))
    (credentials : Option Credentials) : Deployment.Interchangeable ⟨s, credentials⟩ ⟨t, credentials⟩ where
  elsewhere := elsewhere
  address := by
    obtain ⟨c, member, other⟩ := more
    have still : ∃ c ∈ (base ++ slashes m).toList, c ≠ '/' :=
      ⟨c, by simp only [String.toList_append, List.mem_append, member, true_or], other⟩
    show Http.addressOf t.base = Http.addressOf s.base
    rw [base_eq, other_base, Http.addressOf_text still, Http.addressOf_text ⟨c, member, other⟩,
      Text.dropTrailing_slashes]
  paths purpose := by
    obtain ⟨rest, paths⟩ := purpose.path_eq
    rw [paths, paths, path_eq, other_path]
    show Text.dropLeading '/' (slashes n ++ path ++ rest) = Text.dropLeading '/' (path ++ rest)
    rw [String.append_assoc, Text.dropLeading_slashes]
  resets := rfl

/-- Slashes at the end of the base and at the front of the path make no difference. Either way there are transports,
all that happens is the same whatever is done with the channels and however the network answers, and every request
goes to an address that joins the base and its path with one slash. -/
theorem slashes_make_no_difference (elsewhere : s.Elsewhere t) (base_eq : s.base = .text base)
    (more : ∃ c ∈ base.toList, c ≠ '/') (other_base : t.base = .text (base ++ slashes m))
    (path_eq : s.path = .text path) (other_path : t.path = .text (slashes n ++ path))
    (credentials : Option Credentials) :
    (∃ endpoint, Deployment.endpoint ⟨s, credentials⟩ = .ok endpoint ∧
      Deployment.endpoint ⟨t, credentials⟩ = .ok endpoint) ∧
    ∀ (network : Network) (depth : Nat) (calls : List (Thread × Move)),
      Deployment.live ⟨t, credentials⟩ network depth calls = Deployment.live ⟨s, credentials⟩ network depth calls ∧
      ∀ dispatch outcome,
        Entry.sent dispatch outcome ∈ (Deployment.live ⟨s, credentials⟩ network depth calls).2.entries →
        ∃ purpose : Purpose, dispatch.exchange.method = (purpose.request s).method ∧
          dispatch.exchange.body = (purpose.request s).body ∧
          Joins base (purpose.request s).path dispatch.exchange.url := by
  have interchangeable :=
    interchangeable_of_slashes elsewhere base_eq more other_base path_eq other_path credentials
  have opened : Deployment.endpoint ⟨s, credentials⟩ =
      .ok ⟨Text.dropTrailing '/' base, credentials, s.certificates, .null⟩ := by
    unfold Deployment.endpoint
    rw [Http.Endpoint.ofBase_eq, base_eq, Http.addressOf_text more]
    rfl
  have reopened : Deployment.endpoint ⟨t, credentials⟩ =
      .ok ⟨Text.dropTrailing '/' base, credentials, s.certificates, .null⟩ := by
    rw [interchangeable.endpoints, opened]
    rfl
  refine ⟨⟨_, opened, reopened⟩, fun network depth calls => ?_⟩
  obtain ⟨result, mirrors⟩ := mirrored_live network interchangeable depth calls
  refine ⟨Prod.ext result (mirrors.eq opened reopened), fun dispatch outcome sent => ?_⟩
  obtain ⟨endpoint, purpose, found, exchange, -⟩ := mirrors.first.requests dispatch outcome sent
  cases opened.symm.trans found
  rw [exchange]
  exact ⟨purpose, rfl, rfl, joins_url base (purpose.request s).path⟩

end

/-! ## Two spellings -/

/-- Settings with more slashes around the place where address and path meet. -/
def slashed : Settings :=
  { committing with base := .text "https://service//", pathPrefix := .text "///databus/consumer-service/v1" }

/-- The addresses that requests of a journal went to. -/
def Journal.urls (j : Journal) : List String :=
  j.entries.filterMap fun
    | .sent dispatch _ => some dispatch.exchange.url
    | _ => none

/-- A channel tries to create its consumer and to destroy itself, in two spellings of the same place. -/
theorem slashed_runs_as_committing :
    committing.Elsewhere slashed ∧ committing.base = .text "https://service" ∧
      (∃ c ∈ "https://service".toList, c ≠ '/') ∧ slashed.base = .text ("https://service" ++ slashes 2) ∧
      committing.path = .text "/databus/consumer-service/v1" ∧
      slashed.path = .text (slashes 2 ++ "/databus/consumer-service/v1") ∧
      Deployment.live ⟨slashed, none⟩ .down 1 [(0, .create), (0, .destroy 1)] =
        Deployment.live ⟨committing, none⟩ .down 1 [(0, .create), (0, .destroy 1)] ∧
      (Deployment.live ⟨slashed, none⟩ .down 1 [(0, .create), (0, .destroy 1)]).2.urls =
        ["https://service/databus/consumer-service/v1/consumers"] := by
  have elsewhere : committing.Elsewhere slashed := ⟨_, _, _, rfl⟩
  have more : ∃ c ∈ "https://service".toList, c ≠ '/' := ⟨'h', by decide +kernel, by decide⟩
  obtain ⟨-, alike⟩ := slashes_make_no_difference (m := 2) (n := 2) elsewhere rfl more rfl rfl rfl none
  obtain ⟨same, -⟩ := alike .down 1 [(0, .create), (0, .destroy 1)]
  refine ⟨elsewhere, rfl, more, rfl, rfl, rfl, same, ?_⟩
  decide +kernel

end Channel

end ConsumerChannel
