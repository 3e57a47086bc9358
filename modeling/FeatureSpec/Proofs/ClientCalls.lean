import FeatureSpec.Proofs.LiveOperation
import FeatureSpec.Proofs.Requestable
import Mathlib
/-!
What comes of a call of the client: one request, and then a value or a failure of the backend that
names the address. A response counts as an answer as long as its status does not stand for an
error, be it one of success or not.
-/
namespace FeatureSpec

open Payload Trace

inductive ClientCall : Type → Type where
  | features : ClientCall (List String)
  | feature (name : String) : ClientCall Feature
  | checksum (name : String) : ClientCall Checksum
  | backend (name : String) : ClientCall Backend
  | frontend (name : String) : ClientCall FrontendReply
  | mappings (name : String) : ClientCall MappingsReply
  | query (name id : String) (params : Entries Json) : ClientCall QueryReply
  | action (name id : String) (params : Entries Json) : ClientCall ActionReply

namespace ClientCall

variable {α : Type}

def endpoint : ClientCall α → Endpoint
  | .features => .features
  | .feature name => .feature name
  | .checksum name => .checksum name
  | .backend name => .backend name
  | .frontend name => .frontend name
  | .mappings name => .mappings name
  | .query name id _ => .query name id
  | .action name id _ => .action name id

def body : ClientCall α → Option Json
  | .query _ _ params | .action _ _ params => some (.object params)
  | _ => none

def run : ClientCall α → Client → Run α
  | .features, c => c.listFeatures
  | .feature name, c => c.feature name
  | .checksum name, c => c.checksum name
  | .backend name, c => c.backend name
  | .frontend name, c => c.frontend name
  | .mappings name, c => c.mappings name
  | .query name id params, c => c.executeQuery name id params
  | .action name id params, c => c.executeAction name id params

def read (url : String) : ClientCall α → Json → Except Failure α
  | .features, v => Delivery.featureNames url v
  | .feature _, v => Delivery.reply Feature.title url Feature.codec v
  | .checksum name, v =>
    Delivery.reply Checksum.title url Checksum.codec (Delivery.checksumPayload name v)
  | .backend _, v => Delivery.reply Backend.title url Backend.codec (Delivery.sectionPayload v)
  | .frontend _, v => Delivery.reply FrontendReply.title url FrontendReply.codec v
  | .mappings _, v => Delivery.reply MappingsReply.title url MappingsReply.codec v
  | .query .., v => Delivery.reply QueryReply.title url QueryReply.codec v
  | .action .., v => Delivery.reply ActionReply.title url ActionReply.codec v

/-- The payloads that a call accepts, with the values in them. A list of features may also be the
entry of an object, and is empty where the object has no such entry. -/
def Accepts : ClientCall α → Json → α → Prop
  | .features, v, names =>
    (∃ items, v = .array items ∧ names = items.map Json.display) ∨
    (∃ members items, v = .object members ∧
      Entries.get? members "features" = some (.array items) ∧ names = items.map Json.display) ∨
    (∃ members, v = .object members ∧ Entries.get? members "features" = none ∧ names = [])
  | .feature _, v, d => Feature.codec.decode v = .ok d
  | .checksum name, v, sum => Checksum.codec.decode (Delivery.checksumPayload name v) = .ok sum
  | .backend _, v, b => Backend.codec.decode (Delivery.sectionPayload v) = .ok b
  | .frontend _, v, r => FrontendReply.codec.decode v = .ok r
  | .mappings _, v, r => MappingsReply.codec.decode v = .ok r
  | .query .., v, r => QueryReply.codec.decode v = .ok r
  | .action .., v, r => ActionReply.codec.decode v = .ok r

end ClientCall

namespace Delivery

variable {α : Type} {url : String} {v : Json} {f : Failure}

theorem reply_eq_ok_iff {title : String} {codec : Codec α} {a : α} :
    reply title url codec v = .ok a ↔ codec.decode v = .ok a := by
  unfold reply
  cases codec.decode v <;> simp

theorem reply_fails {title : String} {codec : Codec α} (h : reply title url codec v = .error f) :
    ∃ fault, f = .backend fault none (some url) := by
  unfold reply at h
  split at h <;> cases h
  exact ⟨_, rfl⟩

theorem featureNames_eq_ok_iff {names : List String} :
    featureNames url v = .ok names ↔ ClientCall.features.Accepts v names := by
  unfold featureNames ClientCall.Accepts
  cases v with
  | object members =>
    rcases listed : Entries.get? members "features" with _ | w
    · simp [listed, eq_comm]
    · cases w <;> simp [listed, eq_comm]
  | array items => simp [eq_comm]
  | _ => simp

theorem featureNames_fails (h : featureNames url v = .error f) :
    ∃ fault, f = .backend fault none (some url) := by
  unfold featureNames at h
  dsimp only at h
  split at h <;> cases h
  exact ⟨_, rfl⟩

def status? : Delivery → Option Int
  | .response status _ => some status
  | _ => none

theorem payload_eq_ok_iff {after : String} {d : Delivery} :
    payload after url d = .ok v ↔
      ∃ status octets, d = .response status octets ∧ isErrorStatus status = false ∧
        Json.readOctets octets = .ok v := by
  cases d with
  | response status octets =>
    cases refused : isErrorStatus status <;> cases read : Json.readOctets octets <;>
      simp [payload, refused, read]
  | _ => simp [payload]

theorem payload_fails {after : String} {d : Delivery} (h : payload after url d = .error f) :
    ∃ fault, f = .backend fault d.status? (some url) := by
  unfold payload at h
  split at h
  case h_1 | h_2 => cases h; exact ⟨_, rfl⟩
  case h_3 =>
    split at h
    case isTrue => cases h; exact ⟨_, rfl⟩
    case isFalse =>
      split at h <;> cases h
      exact ⟨_, rfl⟩

end Delivery

namespace ClientCall

variable {α : Type}

theorem read_eq_ok_iff (call : ClientCall α) {url : String} {v : Json} {a : α} :
    call.read url v = .ok a ↔ call.Accepts v a := by
  cases call with
  | features => exact Delivery.featureNames_eq_ok_iff
  | _ => exact Delivery.reply_eq_ok_iff

theorem read_fails (call : ClientCall α) {url : String} {v : Json} {f : Failure}
    (h : call.read url v = .error f) : ∃ fault, f = .backend fault none (some url) := by
  cases call with
  | features => exact Delivery.featureNames_fails h
  | _ => exact Delivery.reply_fails h

theorem run_eq (call : ClientCall α) (c : Client) :
    call.run c = c.payload call.endpoint call.body >>= fun v =>
      Run.ofExcept (call.read (call.endpoint.url c.baseUrl) v) := by
  cases call <;>
    simp only [run, endpoint, body, read, Client.listFeatures, Client.feature, Client.checksum,
      Client.backend, Client.frontend, Client.mappings, Client.executeQuery, Client.executeAction,
      Client.request, id_eq]

def announced (call : ClientCall α) (c : Client) : Occurrence :=
  .record (Log.note Log.debug .client
    s!"{call.endpoint.method.name} {call.endpoint.url c.baseUrl}")

def requestAt (call : ClientCall α) (a : Address) : Request where
  method := call.endpoint.method
  url := a.text
  body := call.body

/-- What comes of the request of a call, after what has occurred before the call. -/
def delivered (call : ClientCall α) (c : Client) (a : Address) (w : World) (past : Trace) :
    Delivery :=
  w.transport (past ++ [call.announced c]) (call.requestAt a)

end ClientCall

namespace Client

variable {α : Type} {c : Client} {call : ClientCall α} {w : World} {past : Trace}

theorem payload_of_unaddressed {fault : AddressFault}
    (refused : Address.ofString (call.endpoint.url c.baseUrl) = .error fault) :
    c.payload call.endpoint call.body w past = ⟨[call.announced c], .error (.address fault)⟩ := by
  unfold payload
  rw [Run.log_bind, refused, Run.bind_of_error rfl]
  rfl

/-- An open client makes one request, and nothing but the delivery decides. -/
theorem payload_of_address {a : Address} (opened : c.closed = false)
    (writable : call.body.bind Json.unwritable? = none)
    (addressed : Address.ofString (call.endpoint.url c.baseUrl) = .ok a)
    (absolute : a.isAbsolute = true) :
    c.payload call.endpoint call.body w past =
      ⟨[call.announced c, .request (call.requestAt a)],
        Delivery.payload c.timeout.text (call.endpoint.url c.baseUrl)
          (call.delivered c a w past)⟩ := by
  unfold payload
  rw [Run.log_bind, addressed, Run.bind_of_ok rfl, writable, opened]
  simp only [Bool.false_eq_true, if_false]
  rw [Run.bind_of_ok (x := Run.deliver _) rfl, absolute]
  simp only [Bool.not_true, Bool.and_false, Bool.false_eq_true, if_false, List.append_nil]
  rfl

end Client

def isSuccessStatus (status : Int) : Bool := 200 ≤ status && status ≤ 299

/-- What comes of a call once its request has been made, with `good` the statuses that answer it:
a value if and only if the response is an answer and its payload is accepted, and otherwise a
failure of the backend, with the address and with the status of a response that is no answer. -/
structure Surfaces {α : Type} (good : Int → Bool) (call : ClientCall α) (url : String)
    (d : Delivery) (outcome : Except Failure α) : Prop where
  value : ∀ a, outcome = .ok a ↔
    ∃ status octets v, d = .response status octets ∧ good status = true ∧
      Json.readOctets octets = .ok v ∧ call.Accepts v a
  failure : ∀ f, outcome = .error f → ∃ fault status?,
    f = .backend fault status? (some url) ∧ (d.isResponse = false → status? = none) ∧
      ∀ status octets, d = .response status octets → good status = false → status? = some status

theorem Surfaces.congr {α : Type} {good good' : Int → Bool} {call : ClientCall α} {url : String}
    {d : Delivery} {outcome : Except Failure α} (h : Surfaces good call url d outcome)
    (same : ∀ status octets, d = .response status octets → good status = good' status) :
    Surfaces good' call url d outcome where
  value a := by
    rw [h.value a]
    constructor <;> rintro ⟨status, octets, v, rfl, answers, rest⟩
    · exact ⟨status, octets, v, rfl, same status octets rfl ▸ answers, rest⟩
    · exact ⟨status, octets, v, rfl, (same status octets rfl).symm ▸ answers, rest⟩
  failure f failed := by
    obtain ⟨fault, status?, failure, undelivered, refused⟩ := h.failure f failed
    refine ⟨fault, status?, failure, undelivered, fun status octets response bad => ?_⟩
    exact refused status octets response ((same status octets response).trans bad)

namespace ClientCall

variable {α : Type}

/-- Every response but an error answers a call. -/
theorem surfaces_delivered (call : ClientCall α) (after url : String) (d : Delivery) :
    Surfaces (fun status => !Delivery.isErrorStatus status) call url d
      ((Delivery.payload after url d).bind (call.read url)) where
  value a := by
    constructor
    · intro ended
      rcases given : Delivery.payload after url d with f | v <;> rw [given] at ended
      · cases ended
      · obtain ⟨status, octets, response, answers, read⟩ := Delivery.payload_eq_ok_iff.mp given
        exact ⟨status, octets, v, response, by rw [answers]; rfl, read,
          (call.read_eq_ok_iff).mp ended⟩
    · rintro ⟨status, octets, v, response, answers, read, accepted⟩
      have given : Delivery.payload after url d = .ok v :=
        Delivery.payload_eq_ok_iff.mpr ⟨status, octets, response, by simpa using answers, read⟩
      rw [given]
      exact (call.read_eq_ok_iff).mpr accepted
  failure f failed := by
    rcases given : Delivery.payload after url d with g | v <;> rw [given] at failed
    · cases failed
      obtain ⟨fault, rfl⟩ := Delivery.payload_fails given
      refine ⟨fault, d.status?, rfl, ?_, fun status octets response _ => by rw [response]; rfl⟩
      cases d <;> simp [Delivery.isResponse, Delivery.status?]
    · obtain ⟨fault, rfl⟩ := call.read_fails failed
      refine ⟨fault, none, rfl, fun _ => rfl, fun status octets response bad => ?_⟩
      obtain ⟨status', octets', response', answers, -⟩ := Delivery.payload_eq_ok_iff.mp given
      cases response.symm.trans response'
      simp [answers] at bad

theorem run_of_address {c : Client} (call : ClientCall α) {a : Address} (opened : c.closed = false)
    (writable : call.body.bind Json.unwritable? = none)
    (addressed : Address.ofString (call.endpoint.url c.baseUrl) = .ok a)
    (absolute : a.isAbsolute = true) (w : World) (past : Trace) :
    call.run c w past =
      ⟨[call.announced c, .request (call.requestAt a)],
        (Delivery.payload c.timeout.text (call.endpoint.url c.baseUrl)
          (call.delivered c a w past)).bind (call.read (call.endpoint.url c.baseUrl))⟩ := by
  have made : c.payload call.endpoint call.body w past = _ :=
    Client.payload_of_address opened writable addressed absolute
  rw [run_eq]
  rcases given : Delivery.payload c.timeout.text (call.endpoint.url c.baseUrl)
    (call.delivered c a w past) with f | v <;> rw [given] at made
  · exact Run.bind_of_error made
  · rw [Run.bind_of_ok made, Run.ofExcept, List.append_nil]
    rfl

theorem run_of_unaddressed {c : Client} (call : ClientCall α) {fault : AddressFault}
    (refused : Address.ofString (call.endpoint.url c.baseUrl) = .error fault) (w : World)
    (past : Trace) : call.run c w past = ⟨[call.announced c], .error (.address fault)⟩ := by
  rw [run_eq]
  exact Run.bind_of_error (Client.payload_of_unaddressed refused)

/-- What comes of a call of a client. An address that is too long is never asked, and the failure
is not one of the backend. Otherwise there is one request. Where its status is one of success or
stands for an error, success alone is an answer; where it is neither, the response is an answer
as well. -/
structure Comes (call : ClientCall α) (c : Client) (w : World) (past : Trace) (r : Ran α) :
    Prop where
  unasked : Address.lengthLimit < (call.endpoint.url c.baseUrl).length →
    requests r.trace = [] ∧ r.outcome = .error (.address .tooLong)
  asked : (call.endpoint.url c.baseUrl).length ≤ Address.lengthLimit →
    ∃ a, Address.ofString (call.endpoint.url c.baseUrl) = .ok a ∧
      requests r.trace = [call.requestAt a] ∧
      Surfaces (fun status => !Delivery.isErrorStatus status) call (call.endpoint.url c.baseUrl)
        (call.delivered c a w past) r.outcome ∧
      ((∀ status octets, call.delivered c a w past = .response status octets →
          isSuccessStatus status = true ∨ Delivery.isErrorStatus status = true) →
        Surfaces isSuccessStatus call (call.endpoint.url c.baseUrl) (call.delivered c a w past)
          r.outcome)

theorem isSuccessStatus_eq {status : Int}
    (h : isSuccessStatus status = true ∨ Delivery.isErrorStatus status = true) :
    (!Delivery.isErrorStatus status) = isSuccessStatus status := by
  simp only [isSuccessStatus, Delivery.isErrorStatus] at h ⊢
  grind

theorem call_comes (call : ClientCall α) {c : Client} (opened : c.closed = false)
    (usable : c.Usable) (writable : call.body.bind Json.unwritable? = none) (w : World)
    (past : Trace) : Comes call c w past (call.run c w past) where
  unasked long := by
    rw [call.run_of_unaddressed (Endpoint.address_of_long long)]
    exact ⟨rfl, rfl⟩
  asked short := by
    obtain ⟨a, addressed, absolute⟩ := Endpoint.address_of_short usable short
    have surfaces := call.surfaces_delivered c.timeout.text (call.endpoint.url c.baseUrl)
      (call.delivered c a w past)
    rw [call.run_of_address opened writable addressed absolute]
    refine ⟨a, addressed, rfl, surfaces, fun classified => ?_⟩
    exact surfaces.congr fun status octets response =>
      isSuccessStatus_eq (classified status octets response)

/-- A client of a server, with nothing below the server but the features. -/
def plainClient : Client := { baseUrl := "http://h", timeout := .whole 30, owned := false }

def plainFeatures : Address :=
  { scheme := "http".toList, host := ['h'], path := "/xfeatures".toList }

theorem plainFeatures_read :
    Address.ofChars (plainClient.baseUrl ++ "/xfeatures").toList = .ok plainFeatures := by
  cbv

theorem plainFeatures_asked :
    Address.ofString (Endpoint.url plainClient.baseUrl .features) = .ok plainFeatures := by
  have bare : Endpoint.url plainClient.baseUrl .features = plainClient.baseUrl ++ "/xfeatures" := by
    decide
  rw [bare]
  exact Address.ofString_of_absolute plainFeatures_read rfl

theorem plainClient_usable : plainClient.Usable := ⟨plainFeatures, plainFeatures_read, rfl⟩

/-- A world in which the same comes of every request. -/
def constantly (d : Delivery) : World := { transport := fun _ _ => d }

theorem limited_query_comes :
    let call := ClientCall.query "f" "q" [("limit", .int 5)]
    plainClient.closed = false ∧ plainClient.Usable ∧
      call.body.bind Json.unwritable? = none ∧
      Comes call plainClient (constantly .timedOut) []
        (call.run plainClient (constantly .timedOut) []) := by
  intro call
  have writable : call.body.bind Json.unwritable? = none := by decide +kernel
  exact ⟨rfl, plainClient_usable, writable, call_comes call rfl plainClient_usable writable _ _⟩

/-- An empty list is taken as the answer even where the status says that there is none. -/
theorem not_modified_answers :
    let d := Delivery.response 304 [0x5B, 0x5D]
    ¬ Surfaces isSuccessStatus .features (Endpoint.url plainClient.baseUrl .features) d
      (ClientCall.features.run plainClient (constantly d) []).outcome := by
  intro d h
  rw [ClientCall.features.run_of_address rfl rfl plainFeatures_asked rfl] at h
  obtain ⟨status, octets, v, response, answers, -⟩ := (h.value []).mp rfl
  obtain ⟨rfl, -⟩ := Delivery.response.inj response
  exact absurd answers (by decide)

end ClientCall
end FeatureSpec
