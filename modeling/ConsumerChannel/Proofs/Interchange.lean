import ConsumerChannel.Proofs.Callbacks
import ConsumerChannel.Proofs.Matching

/-! Deployments that nobody can tell apart. Two deployments whose requests go to the same addresses run in step: every
question is answered alike, so that results, memories and all that is seen without the authorization of requests are
the same throughout, and each deployment puts its own authorization on every request. -/
namespace ConsumerChannel

/-! ## Endpoints -/

namespace Http

/-- A request as it goes out through an endpoint. -/
def Endpoint.exchange (e : Endpoint) (request : Channel.Request) : Exchange :=
  ⟨request.method, e.url request.path, request.body⟩

/-- But for the header that credentials put, all requests carry the same headers. -/
theorem unsigned_headers (e : Endpoint) :
    e.headers.filter (fun header => header.1 != authorizationName) = contentHeaders := by
  unfold Endpoint.headers
  cases e.credentials with
  | none => rfl
  | some credentials => cases credentials <;> rfl

/-- What an endpoint does with a request depends only on how it goes out and on what failed statuses mean. -/
theorem perform_congr {e f : Endpoint} {request other : Channel.Request}
    (goes : f.exchange other = e.exchange request) (table : other.table = request.table) :
    perform f other = perform e request := by
  unfold Endpoint.exchange at goes
  injection goes with method url body
  unfold perform
  rw [method, url, body, table]

/-- The address that endpoints of a base send to, or why there is none. -/
def addressOf (base : Value) : Except Fault String :=
  match if base.truthy then (Endpoint.textOf base).map (Text.dropTrailing '/') else .ok "" with
  | .error fault => .error fault
  | .ok address => if address = "" then .error (.badValue (some "Request requires 'base'")) else .ok address

theorem Endpoint.ofBase_eq (base certificates timeout : Value) (credentials : Option Credentials) :
    ofBase base credentials certificates timeout =
      (addressOf base).map fun address => ⟨address, credentials, certificates, timeout⟩ := by
  unfold ofBase addressOf
  split
  · cases textOf base with
    | error fault => rfl
    | ok text =>
      simp only [bind, Except.bind, Except.map]
      split <;> rfl
  · rfl

theorem Endpoint.of_ofBase {base certificates timeout : Value} {credentials : Option Credentials}
    {endpoint : Endpoint} (made : ofBase base credentials certificates timeout = .ok endpoint) :
    addressOf base = .ok endpoint.base ∧ endpoint.credentials = credentials := by
  rw [ofBase_eq] at made
  cases found : addressOf base with
  | error fault =>
    rw [found] at made
    cases made
  | ok address =>
    rw [found] at made
    cases made
    exact ⟨rfl, rfl⟩

/-- A program of an endpoint that sends nothing but one request. -/
inductive SendsOnly (sent : Exchange) {α : Type} : Program Query Query.Answer α → Prop where
  | done (a : α) : SendsOnly sent (.done a)
  | log (record : LogRecord) {f : Except Failure Unit → Program Query Query.Answer α}
      (next : ∀ answer, SendsOnly sent (f answer)) : SendsOnly sent (.ask (.log record) f)
  | exchange {f : Outcome → Program Query Query.Answer α} (next : ∀ outcome, SendsOnly sent (f outcome)) :
      SendsOnly sent (.ask (.exchange sent) f)

private theorem sendsOnly_log_bind {sent : Exchange} {record : LogRecord} {next : Unit → Sending α}
    (rest : SendsOnly sent (next ()).run) : SendsOnly sent (log record >>= next).run :=
  .log record fun
    | .ok () => rest
    | .error _ => .done _

theorem sendsOnly_perform (e : Endpoint) (request : Channel.Request) :
    SendsOnly (e.exchange request) (perform e request).run := by
  refine .exchange fun outcome => ?_
  cases outcome with
  | broken failure => exact .done _
  | unreachable name text => exact sendsOnly_log_bind (.done _)
  | answered response =>
    show SendsOnly _ (ExceptT.run (if response.isGood then _ else _))
    split
    · refine sendsOnly_log_bind ?_
      split <;> exact .done _
    · exact sendsOnly_log_bind (.done _)

end Http

namespace Channel
open Operation

/-! ## Journals of two deployments -/

/-- A deployment sends a request: for one of the purposes of a channel, to the address of its endpoint, and with its
authorization. -/
def Deployment.Issues (d : Deployment) (dispatch : Dispatch) : Prop :=
  ∃ endpoint purpose, d.endpoint = .ok endpoint ∧
    dispatch.exchange = endpoint.exchange (Purpose.request d.settings purpose) ∧ dispatch.headers = endpoint.headers

/-- All transports of a journal are those of a deployment, and all requests were sent by it. -/
structure Deployment.Keeps (d : Deployment) (j : Journal) : Prop where
  endpoints : ∀ endpoint ∈ j.endpoints, d.endpoint = .ok endpoint
  requests : ∀ dispatch outcome, Entry.sent dispatch outcome ∈ j.entries → d.Issues dispatch

/-- Two deployments that cannot be told apart but by the authorization of their requests: their settings differ in the
place of the service only, for which both find the same addresses. -/
structure Deployment.Interchangeable (d e : Deployment) : Prop where
  elsewhere : d.settings.Elsewhere e.settings
  address : Http.addressOf e.settings.base = Http.addressOf d.settings.base
  paths : ∀ purpose : Purpose, Text.dropLeading '/' (purpose.request e.settings).path =
    Text.dropLeading '/' (purpose.request d.settings).path
  resets : e.credentials.bind Credentials.resetRecord = d.credentials.bind Credentials.resetRecord

/-- Two journals are the same but for the authorization of requests, of which each keeps that of its deployment. -/
structure Mirrors (d e : Deployment) (j k : Journal) : Prop where
  memory : k.memory = j.memory
  transports : k.endpoints.length = j.endpoints.length
  jars : k.jars = j.jars
  view : k.view = j.view
  first : d.Keeps j
  second : e.Keeps k

/-- Two runs have the same result and leave journals that are the same but for the authorization of requests. -/
def Mirrored (d e : Deployment) (first second : α × Journal) : Prop :=
  second.1 = first.1 ∧ Mirrors d e first.2 second.2

section
variable {d e : Deployment} {j k : Journal}

theorem Deployment.Keeps.note {entry : Entry} (keeps : d.Keeps j)
    (issued : ∀ dispatch outcome, entry = .sent dispatch outcome → d.Issues dispatch) : d.Keeps (j.note entry) where
  endpoints := keeps.endpoints
  requests dispatch outcome member := by
    rcases List.mem_append.mp member with old | new
    · exact keeps.requests dispatch outcome old
    · exact issued dispatch outcome (List.mem_singleton.mp new).symm

namespace Mirrors

theorem remember (mirrors : Mirrors d e j k) (memory : State) : Mirrors d e (j.remember memory) (k.remember memory) :=
  ⟨rfl, mirrors.transports, mirrors.jars, mirrors.view, ⟨mirrors.first.endpoints, mirrors.first.requests⟩,
    ⟨mirrors.second.endpoints, mirrors.second.requests⟩⟩

theorem store (mirrors : Mirrors d e j k) (n : Nat) (change : Http.Jar → Http.Jar) :
    Mirrors d e (j.store n change) (k.store n change) :=
  ⟨mirrors.memory, mirrors.transports, congrArg (List.modify · n change) mirrors.jars, mirrors.view,
    ⟨mirrors.first.endpoints, mirrors.first.requests⟩, ⟨mirrors.second.endpoints, mirrors.second.requests⟩⟩

/-- Something is seen of both that is the same but for the authorization. -/
theorem noteBoth {first second : Entry} (mirrors : Mirrors d e j k) (same : second.unsigned = first.unsigned)
    (issued : ∀ dispatch outcome, first = .sent dispatch outcome → d.Issues dispatch)
    (other : ∀ dispatch outcome, second = .sent dispatch outcome → e.Issues dispatch) :
    Mirrors d e (j.note first) (k.note second) where
  memory := mirrors.memory
  transports := mirrors.transports
  jars := mirrors.jars
  view := by
    show (k.entries ++ [second]).map Entry.unsigned = (j.entries ++ [first]).map Entry.unsigned
    rw [List.map_append, List.map_append, List.map_singleton, List.map_singleton, same]
    exact congrArg (· ++ [first.unsigned]) mirrors.view
  first := mirrors.first.note issued
  second := mirrors.second.note other

/-- Something is seen of both that is no request. -/
theorem note {entry : Entry} (mirrors : Mirrors d e j k)
    (other : ∀ dispatch outcome, entry ≠ .sent dispatch outcome) : Mirrors d e (j.note entry) (k.note entry) :=
  mirrors.noteBoth rfl (fun _ _ same => absurd same (other _ _)) fun _ _ same => absurd same (other _ _)

theorem connect {first second : Http.Endpoint} (mirrors : Mirrors d e j k) (opened : d.endpoint = .ok first)
    (reopened : e.endpoint = .ok second) : Mirrors d e (j.connect first) (k.connect second) where
  memory := mirrors.memory
  transports := by
    show (k.endpoints ++ [second]).length = (j.endpoints ++ [first]).length
    rw [List.length_append, List.length_append, mirrors.transports]
    rfl
  jars := congrArg (· ++ [[]]) mirrors.jars
  view := mirrors.view
  first := {
    endpoints := List.forall_mem_append.mpr ⟨mirrors.first.endpoints, List.forall_mem_singleton.mpr opened⟩
    requests := mirrors.first.requests }
  second := {
    endpoints := List.forall_mem_append.mpr ⟨mirrors.second.endpoints, List.forall_mem_singleton.mpr reopened⟩
    requests := mirrors.second.requests }

/-- A transport of one journal is that of the other with the other authorization. -/
theorem transport {n : Nat} {first : Http.Endpoint} (mirrors : Mirrors d e j k)
    (found : j.endpoints[n]? = some first) :
    ∃ second, k.endpoints[n]? = some second ∧ d.endpoint = .ok first ∧ e.endpoint = .ok second := by
  obtain ⟨bound, rfl⟩ := List.getElem?_eq_some_iff.mp found
  have other : n < k.endpoints.length := by
    rw [mirrors.transports]
    exact bound
  exact ⟨k.endpoints[n], List.getElem?_eq_getElem other, mirrors.first.endpoints _ (List.getElem_mem bound),
    mirrors.second.endpoints _ (List.getElem_mem other)⟩

theorem noTransport {n : Nat} (mirrors : Mirrors d e j k) (absent : j.endpoints[n]? = none) :
    k.endpoints[n]? = none := by
  rw [List.getElem?_eq_none_iff] at absent ⊢
  rwa [mirrors.transports]

end Mirrors

/-- What follows on either run. -/
theorem Mirrored.onward {first second : α × Journal} {f g : α → Journal → β × Journal}
    (mirrored : Mirrored d e first second) (rest : ∀ a j k, Mirrors d e j k → Mirrored d e (f a j) (g a k)) :
    Mirrored d e (f first.1 first.2) (g second.1 second.2) := by
  obtain ⟨same, mirrors⟩ := mirrored
  rw [same]
  exact rest first.1 first.2 second.2 mirrors

/-! ## Calls -/

variable {network : Network} {nested within : List Move → Journal → Journal}

theorem mirrored_log (mirrors : Mirrors d e j k) (record : LogRecord) :
    Mirrored d e (network.log record j) (network.log record k) := by
  unfold Network.log
  rw [mirrors.view, mirrors.memory]
  exact ⟨rfl, mirrors.note nofun⟩

theorem mirrored_answer (mirrors : Mirrors d e j k) (call : Outside) :
    Mirrored d e (network.answer call j) (network.answer call k) := by
  unfold Network.answer
  rw [mirrors.view]
  exact ⟨rfl, mirrors.note nofun⟩

section
variable (interchangeable : d.Interchangeable e)
include interchangeable

theorem Deployment.Interchangeable.endpoints :
    e.endpoint = d.endpoint.map fun endpoint => { endpoint with credentials := e.credentials } := by
  unfold Deployment.endpoint
  rw [Http.Endpoint.ofBase_eq, Http.Endpoint.ofBase_eq, interchangeable.address]
  obtain ⟨_, _, _, same⟩ := interchangeable.elsewhere
  rw [same]
  cases Http.addressOf d.settings.base <;> rfl

theorem Deployment.Interchangeable.endpoint_eq {first second : Http.Endpoint} (opened : d.endpoint = .ok first)
    (reopened : e.endpoint = .ok second) : second = { first with credentials := e.credentials } := by
  have same := interchangeable.endpoints
  rw [opened, reopened] at same
  exact Except.ok.inj same

/-- A request for one purpose goes out alike. -/
theorem Deployment.Interchangeable.exchange_eq {first second : Http.Endpoint} (opened : d.endpoint = .ok first)
    (reopened : e.endpoint = .ok second) (purpose : Purpose) :
    second.exchange (purpose.request e.settings) = first.exchange (purpose.request d.settings) := by
  have method : (purpose.request e.settings).method = (purpose.request d.settings).method := by cases purpose <;> rfl
  have body : (purpose.request e.settings).body = (purpose.request d.settings).body := by cases purpose <;> rfl
  unfold Http.Endpoint.exchange Http.Endpoint.url
  rw [interchangeable.endpoint_eq opened reopened, method, body, interchangeable.paths]

/-- Either deployment sends a request through its own endpoint. -/
theorem mirrored_exchange (n : Nat) {first second : Http.Endpoint} (purpose : Purpose)
    (opened : d.endpoint = .ok first) (reopened : e.endpoint = .ok second) (mirrors : Mirrors d e j k) :
    Mirrored d e (network.serve n first (.exchange (first.exchange (purpose.request d.settings))) j)
      (network.serve n second (.exchange (first.exchange (purpose.request d.settings))) k) := by
  have issued : d.Issues ⟨n, first.exchange (purpose.request d.settings), first.headers, j.jars.getD n [],
      first.verification, first.timeout⟩ := ⟨first, purpose, opened, rfl, rfl⟩
  have other : e.Issues ⟨n, first.exchange (purpose.request d.settings), second.headers, k.jars.getD n [],
      second.verification, second.timeout⟩ :=
    ⟨second, purpose, reopened, (interchangeable.exchange_eq opened reopened purpose).symm, rfl⟩
  have unsigned : Dispatch.unsigned ⟨n, first.exchange (purpose.request d.settings), second.headers,
      k.jars.getD n [], second.verification, second.timeout⟩ =
      Dispatch.unsigned ⟨n, first.exchange (purpose.request d.settings), first.headers, j.jars.getD n [],
        first.verification, first.timeout⟩ := by
    unfold Dispatch.unsigned
    dsimp only
    rw [Http.unsigned_headers, Http.unsigned_headers, mirrors.jars, interchangeable.endpoint_eq opened reopened]
    rfl
  unfold Network.serve
  dsimp only
  rw [mirrors.view, unsigned]
  refine ⟨rfl, Mirrors.store (mirrors.noteBoth ?_ ?_ ?_) n _⟩
  · exact congrArg (Entry.sent · _) unsigned
  · rintro dispatch outcome ⟨⟩
    exact issued
  · rintro dispatch outcome ⟨⟩
    exact other

theorem mirrored_execute {n : Nat} {first second : Http.Endpoint} {purpose : Purpose}
    {program : Program Http.Query Http.Query.Answer α} (opened : d.endpoint = .ok first)
    (reopened : e.endpoint = .ok second)
    (sends : Http.SendsOnly (first.exchange (purpose.request d.settings)) program) (mirrors : Mirrors d e j k) :
    Mirrored d e (program.execute (network.serve n first) j) (program.execute (network.serve n second) k) := by
  induction sends generalizing j k with
  | done a => exact ⟨rfl, mirrors⟩
  | @log record f next ih =>
    exact (mirrored_log mirrors record).onward (f := fun a => (f a).execute (network.serve n first))
      (g := fun a => (f a).execute (network.serve n second)) fun a _ _ => ih a
  | @exchange f next ih =>
    exact (mirrored_exchange interchangeable n purpose opened reopened mirrors).onward
      (f := fun a => (f a).execute (network.serve n first))
      (g := fun a => (f a).execute (network.serve n second)) fun a _ _ => ih a

theorem mirrored_send (mirrors : Mirrors d e j k) (n : Nat) (purpose : Purpose) :
    Mirrored d e (d.outside network nested (.send n (purpose.request d.settings)) j)
      (e.outside network within (.send n (purpose.request e.settings)) k) := by
  unfold Deployment.outside
  cases found : j.endpoints[n]? with
  | none =>
    simp only [found, mirrors.noTransport found]
    exact ⟨rfl, mirrors⟩
  | some first =>
    obtain ⟨second, other, opened, reopened⟩ := mirrors.transport found
    simp only [found, other]
    rw [Http.perform_congr (interchangeable.exchange_eq opened reopened purpose) (by cases purpose <;> rfl)]
    exact mirrored_execute interchangeable opened reopened (Http.sendsOnly_perform _ _) mirrors

theorem mirrored_openTransport (mirrors : Mirrors d e j k) :
    Mirrored d e (d.outside network nested .openTransport j) (e.outside network within .openTransport k) := by
  have same := interchangeable.endpoints
  unfold Deployment.outside
  cases opened : d.endpoint with
  | error fault =>
    rw [opened] at same
    simp only [same, Except.map]
    exact ⟨rfl, mirrors.note nofun⟩
  | ok first =>
    rw [opened] at same
    simp only [same, Except.map]
    rw [mirrors.transports]
    exact ⟨rfl, (mirrors.connect opened same).note nofun⟩

theorem mirrored_resetAuthorization (mirrors : Mirrors d e j k) (n : Nat) :
    Mirrored d e (d.outside network nested (.resetAuthorization n) j)
      (e.outside network within (.resetAuthorization n) k) := by
  unfold Deployment.outside
  cases found : j.endpoints[n]? with
  | none =>
    simp only [found, mirrors.noTransport found, Option.bind_none]
    exact ⟨rfl, mirrors⟩
  | some first =>
    obtain ⟨second, other, opened, reopened⟩ := mirrors.transport found
    have resets : second.credentials.bind Credentials.resetRecord = first.credentials.bind Credentials.resetRecord := by
      rw [(Http.Endpoint.of_ofBase opened).2, (Http.Endpoint.of_ofBase reopened).2]
      exact interchangeable.resets
    simp only [found, other, Option.bind_some, resets]
    cases first.credentials.bind Credentials.resetRecord with
    | none => exact ⟨rfl, mirrors⟩
    | some record => exact mirrored_log mirrors record

/-- What moves of a callback come to, on either channel. -/
def Aligned (d e : Deployment) (nested within : List Move → Journal → Journal) : Prop :=
  ∀ moves {j k : Journal}, Mirrors d e j k → Mirrors d e (nested moves j) (within moves k)

theorem mirrored_outside (inner : Aligned d e nested within) (mirrors : Mirrors d e j k) (call : Outside)
    (other : (Query.outside call).isRequest = false) :
    Mirrored d e (d.outside network nested call j) (e.outside network within call k) := by
  cases call with
  | send n request => cases other
  | openTransport => exact mirrored_openTransport interchangeable mirrors
  | closeTransport n => exact mirrored_answer mirrors _
  | resetCookies n => exact ⟨(mirrored_answer mirrors _).1, (mirrored_answer mirrors _).2.store n _⟩
  | resetAuthorization n => exact mirrored_resetAuthorization interchangeable mirrors n
  | callback id batch consumer =>
    have called : Mirrors d e (j.note (.called id batch consumer)) (k.note (.called id batch consumer)) :=
      mirrors.note nofun
    unfold Deployment.outside
    dsimp only
    rw [called.view]
    exact mirrored_answer (inner _ called) _
  | sleep seconds => exact mirrored_answer mirrors _
  | wait => exact mirrored_answer mirrors _
  | log record => exact mirrored_log mirrors record

end

/-! ## Runs -/

/-- Once a call has been answered, other threads touch the flags alike. -/
theorem Mirrored.meanwhile {first second : α × Journal} (mirrored : Mirrored d e first second) :
    Mirrored d e
      (first.1, first.2.remember
        { first.2.memory with flags := network.meanwhile first.2.view first.2.memory.flags })
      (second.1, second.2.remember
        { second.2.memory with flags := network.meanwhile second.2.view second.2.memory.flags }) := by
  obtain ⟨same, mirrors⟩ := mirrored
  rw [mirrors.view, mirrors.memory]
  exact ⟨same, mirrors.remember _⟩

theorem mirrored_step (mirrors : Mirrors d e j k) (caller : Thread) (taken : Step) :
    Mirrored d e (d.host network nested caller (.step taken) j) (e.host network within caller (.step taken) k) := by
  have alike : taken.apply caller k.memory = taken.apply caller j.memory := congrArg _ mirrors.memory
  have reply : (taken.apply caller k.memory).1 = (taken.apply caller j.memory).1 := congrArg Prod.fst alike
  refine ⟨reply, ?_⟩
  show Mirrors d e (j.remember (taken.apply caller j.memory).2) (k.remember (taken.apply caller k.memory).2)
  rw [alike]
  exact mirrors.remember _

section
variable (interchangeable : d.Interchangeable e) (inner : Aligned d e nested within)
include interchangeable inner

/-- Matching programs run alike. The induction follows their questions; the journals are related after each. -/
theorem mirrored_matches {caller : Thread} {first second : Program Query Query.Answer α}
    (matching : Matches d.settings e.settings first second) (mirrors : Mirrors d e j k) :
    Mirrored d e (first.execute (d.host network nested caller) j)
      (second.execute (e.host network within caller) k) := by
  induction matching generalizing j k with
  | done a => exact ⟨rfl, mirrors⟩
  | @same q other f g next ih =>
    have asked : Mirrored d e (d.host network nested caller q j) (e.host network within caller q k) := by
      cases q with
      | step taken => exact mirrored_step mirrors caller taken
      | outside call => exact (mirrored_outside interchangeable inner mirrors call other).meanwhile
    exact asked.onward (f := fun a => (f a).execute (d.host network nested caller))
      (g := fun a => (g a).execute (e.host network within caller)) fun a _ _ => ih a
  | @sent n purpose f g next ih =>
    exact (mirrored_send interchangeable mirrors n purpose).meanwhile.onward
      (f := fun a => (f a).execute (d.host network nested caller))
      (g := fun a => (g a).execute (e.host network within caller)) fun a _ _ => ih a

theorem mirrors_make (caller : Thread) (move : Move) (mirrors : Mirrors d e j k) :
    Mirrors d e (d.make network nested caller move j) (e.make network within caller move k) := by
  have ran : Mirrored d e (exec (d.host network nested caller) (move.yielding d.settings) j)
      (exec (e.host network within caller) (move.yielding e.settings) k) :=
    mirrored_matches interchangeable inner (matching_yielding interchangeable.elsewhere move) mirrors
  obtain ⟨same, ran⟩ := ran
  unfold Deployment.make
  dsimp only
  rw [same, ran.memory]
  exact ran.note nofun

end

section
variable (interchangeable : d.Interchangeable e)
include interchangeable

/-- Threads that carry out the same moves keep the channels alike, however deep callbacks nest. -/
private theorem aligned_carryOut (caller : Thread) (depth : Nat) :
    Aligned d e (d.carryOut network caller depth) (e.carryOut network caller depth) := by
  induction depth with
  | zero => exact fun _ _ _ mirrors => mirrors
  | succ depth ih =>
    intro moves
    induction moves with
    | nil => exact fun mirrors => mirrors
    | cons move moves rest => exact fun mirrors => rest (mirrors_make interchangeable ih caller move mirrors)

theorem mirrors_calls (depth : Nat) (calls : List (Thread × Move)) (mirrors : Mirrors d e j k) :
    Mirrors d e (calls.foldl (fun j call => d.make network (d.carryOut network call.1 depth) call.1 call.2 j) j)
      (calls.foldl (fun k call => e.make network (e.carryOut network call.1 depth) call.1 call.2 k) k) := by
  induction calls generalizing j k with
  | nil => exact mirrors
  | cons call calls ih =>
    exact ih (mirrors_make interchangeable (aligned_carryOut interchangeable call.1 depth) call.1 call.2 mirrors)

omit interchangeable in
theorem mirrors_blank : Mirrors d e .blank .blank := ⟨rfl, rfl, rfl, rfl, ⟨nofun, nofun⟩, ⟨nofun, nofun⟩⟩

variable (network) in
/-- Interchangeable deployments fare alike, whatever is done with the channels and however the network answers. -/
theorem mirrored_live (depth : Nat) (calls : List (Thread × Move)) :
    Mirrored d e (d.live network depth calls) (e.live network depth calls) := by
  have made : Mirrored d e (exec (d.host network (fun _ => id) 0) (establish d.settings) .blank)
      (exec (e.host network (fun _ => id) 0) (establish e.settings) .blank) :=
    mirrored_matches interchangeable (fun _ _ _ mirrors => mirrors) (matching_establish interchangeable.elsewhere)
      mirrors_blank
  obtain ⟨same, mirrors⟩ := made
  unfold Deployment.live
  dsimp only
  rw [same]
  cases (exec (d.host network (fun _ => id) 0) (establish d.settings) .blank).1 with
  | error e => exact ⟨rfl, mirrors⟩
  | ok _ => exact ⟨rfl, mirrors_calls interchangeable depth calls mirrors⟩

end

end

/-- A network on which no request gets through. -/
def Network.down : Network where
  outcome _ _ := .unreachable "ConnectTimeout" "timed out"
  reply _ := (Surroundings.scripted [] [] (.ok .null)).reply []
  meanwhile _ flags := flags
  moves _ := []

end Channel

end ConsumerChannel
