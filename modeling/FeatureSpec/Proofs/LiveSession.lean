import FeatureSpec.Proofs.ClientCalls
import FeatureSpec.Proofs.LegibleFeature
import FeatureSpec.Proofs.OfflineSession
import FeatureSpec.Proofs.RoundTrip
/-!
Sessions that load a feature from a backend. Where the backend answers with the wire forms of the
parts of a feature, the session comes to hold what it would hold if it served the feature by
itself, unless an address that it asks for is too long.
-/
namespace FeatureSpec

open Payload Trace

namespace Json

theorem ofString_cons (c : Char) (cs : List Char) :
    Octets.ofString (.ofList (c :: cs)) =
      String.utf8EncodeChar c ++ Octets.ofString (.ofList cs) := by
  rw [Octets.ofString_eq, Octets.ofString_eq]
  simp [List.utf8Encode]

/-- A brace and a quotation mark at the start show UTF-8. -/
theorem charsOfOctets?_of_quote (rest : Octets) :
    charsOfOctets? (0x7B :: 0x22 :: rest) =
      (Octets.utf8? (0x7B :: 0x22 :: rest)).map String.toList := by
  rcases rest with _ | ⟨c, _ | ⟨d, rest⟩⟩ <;> rfl

theorem readOctets_write {first : String × Json} {members : List (String × Json)}
    (legible : (Json.object (first :: members)).Legible) :
    readOctets (Octets.ofString (write ⟨true, none⟩ (.object (first :: members)))) =
      .ok (.object (first :: members)) := by
  obtain ⟨more, front⟩ : ∃ more, write ⟨true, none⟩ (.object (first :: members)) =
      .ofList ('{' :: '"' :: more) := ⟨_, rfl⟩
  have octets : Octets.ofString (.ofList ('{' :: '"' :: more)) =
      0x7B :: 0x22 :: Octets.ofString (.ofList more) := by
    rw [ofString_cons, ofString_cons]
    rfl
  have utf8 := Octets.utf8?_ofString (.ofList ('{' :: '"' :: more))
  have back := read_write ⟨true, none⟩ legible
  rw [front] at back ⊢
  rw [octets] at utf8 ⊢
  rw [readOctets, charsOfOctets?_of_quote, utf8]
  exact back

end Json

namespace Trace

theorem requests_record (t : Trace) (r : Log.Record) :
    requests (t ++ [.record r]) = requests t := by
  rw [requests_append]
  exact List.append_nil _

end Trace

namespace Endpoint

def requestAt (e : Endpoint) (a : Address) : Request := { method := e.method, url := a.text }

def ofLoad (name : String) : List Endpoint := [.backend name, .frontend name, .mappings name]

end Endpoint

/-- The backend answers these requests, the first of them after those that were made, each with
status 200 and a body that holds the payload. An address that is refused is never asked. -/
def Scripts (w : World) (c : Client) : (made : List Request) → List (Endpoint × Json) → Prop
  | _, [] => True
  | made, (e, v) :: rest => ∀ a, Address.ofString (e.url c.baseUrl) = .ok a →
    (∀ past, requests past = made → ∃ octets,
      w.transport past (e.requestAt a) = .response 200 octets ∧ Json.readOctets octets = .ok v) ∧
    Scripts w c (made ++ [e.requestAt a]) rest

/-- A world without hooks in which requests are answered with these bodies, one after another. -/
def scripted (bodies : List Octets) : World where
  transport past _ :=
    match bodies[(requests past).length]? with
    | some octets => .response 200 octets
    | none => .failed "no response"

/-- Bodies that hold the payloads in order make a script, from wherever they are given on. -/
theorem scripts_scripted (c : Client) (answers : List (Endpoint × Json × Octets))
    (read : ∀ x ∈ answers, Json.readOctets x.2.2 = .ok x.2.1) (earlier : List Octets)
    (made : List Request) (count : earlier.length = made.length) :
    Scripts (scripted (earlier ++ answers.map (·.2.2))) c made
      (answers.map fun x => (x.1, x.2.1)) := by
  induction answers generalizing earlier made with
  | nil => trivial
  | cons x rest ih =>
    intro a addressed
    constructor
    · intro past asked
      refine ⟨x.2.2, ?_, read x (.head _)⟩
      simp [scripted, asked, ← count]
    · have later := ih (fun y member => read y (.tail _ member)) (earlier ++ [x.2.2])
        (made ++ [x.1.requestAt a]) (by simp [count])
      simpa using later

/-- How the request of an operation goes for which the value `b` is scripted: the address is too
long to be asked, or the value is given and the other answers are still to come. -/
def Fetched {β : Type} (w : World) (c : Client) (e : Endpoint) (rest : List (Endpoint × Json))
    (past : Trace) (b : β) (r : Ran β) : Prop :=
  (Address.lengthLimit < (e.url c.baseUrl).length ∧ ∃ t, r = ⟨t, .error (.address .tooLong)⟩) ∨
  ((e.url c.baseUrl).length ≤ Address.lengthLimit ∧
    ∃ t, r = ⟨t, .ok b⟩ ∧ Scripts w c (requests (past ++ t)) rest)

section

variable {β : Type} {w : World} {c : Client} {e : Endpoint} {rest : List (Endpoint × Json)}
  {past : Trace} {b : β}

theorem fetched_run (call : ClientCall β) {v : Json} (opened : c.closed = false)
    (usable : c.Usable) (unposted : call.body = none)
    (scripts : Scripts w c (requests past) ((call.endpoint, v) :: rest))
    (accepted : call.Accepts v b) :
    Fetched w c call.endpoint rest past b (call.run c w past) := by
  by_cases long : Address.lengthLimit < (call.endpoint.url c.baseUrl).length
  · exact .inl ⟨long, _, call.run_of_unaddressed (Endpoint.address_of_long long) w past⟩
  · have short := Nat.not_lt.mp long
    obtain ⟨address, addressed, absolute⟩ := Endpoint.address_of_short usable short
    have request : call.requestAt address = call.endpoint.requestAt address := by
      rw [ClientCall.requestAt, unposted]
      rfl
    obtain ⟨answers, later⟩ := scripts address addressed
    obtain ⟨octets, response, read⟩ := answers _ (requests_record past _)
    have payload : Delivery.payload c.timeout.text (call.endpoint.url c.baseUrl)
        (call.delivered c address w past) = .ok v := by
      refine Delivery.payload_eq_ok_iff.mpr ⟨200, octets, ?_, rfl, read⟩
      rw [ClientCall.delivered, request]
      exact response
    have value : (Except.ok v).bind (call.read (call.endpoint.url c.baseUrl)) = .ok b :=
      call.read_eq_ok_iff.mpr accepted
    have ran := call.run_of_address opened (by rw [unposted]; rfl) addressed absolute w past
    rw [payload, value] at ran
    refine .inr ⟨short, _, ran, ?_⟩
    rwa [requests_append, request]

theorem fetched_record {r : Ran β} (record : Log.Record)
    (h : Fetched w c e rest (past ++ [.record record]) b r) :
    Fetched w c e rest past b ⟨.record record :: r.trace, r.outcome⟩ := by
  obtain ⟨long, t, rfl⟩ | ⟨short, t, rfl, later⟩ := h
  · exact .inl ⟨long, _, rfl⟩
  · rw [List.append_assoc] at later
    exact .inr ⟨short, _, rfl, later⟩

theorem fetched_reporting {x : Run β} (event : Failure → ErrorEvent)
    (h : Fetched w c e rest past b (x w past)) :
    Fetched w c e rest past b (Gateway.reporting event x w past) := by
  obtain ⟨long, t, ran⟩ | ⟨short, t, ran, later⟩ := h
  · obtain ⟨closing, reported, -⟩ := Gateway.reporting_of_error event ran
    exact .inl ⟨long, _, reported⟩
  · exact .inr ⟨short, _, Gateway.reporting_of_ok ran, later⟩

/-- Without hooks an operation comes to what the call of the client comes to. -/
theorem fetched_dispatch (hookless : w.hooks = {}) {op : Operation β} {call : Run β}
    (h : Fetched w c e rest past b (call w past)) :
    Fetched w c e rest past (.proper b) (Gateway.dispatch op call w past) := by
  -- Without hooks nothing comes between the client and the caller.
  have unheard : op.beforeHook w.hooks = none := by
    rw [hookless]
    cases op <;> rfl
  have unasked : Gateway.asked op w = [] := by
    rw [Gateway.asked, unheard]
    rfl
  have unanswered : Gateway.objection op w past = .ok none := by
    rw [Gateway.objection, unheard]
    rfl
  have answered : Gateway.answer op call w past = _ := Gateway.answer_of_none call unanswered
  rw [unasked, List.append_nil, List.nil_append] at answered
  obtain ⟨long, t, ran⟩ | ⟨short, t, ran, later⟩ := h <;> rw [ran] at answered
  · obtain ⟨closing, reported, -⟩ := Gateway.dispatch_of_error answered
    exact .inl ⟨long, _, reported⟩
  · obtain ⟨closing, told, only⟩ := Gateway.dispatch_of_ok answered
    refine .inr ⟨short, _, told, ?_⟩
    rwa [← List.append_assoc, requests_append, only.requests, List.append_nil]

theorem fetched_perform (op : Operation β) (call : ClientCall β) {v : Json}
    (same : op.request c = call.run c) (opened : c.closed = false) (usable : c.Usable)
    (hookless : w.hooks = {}) (unposted : call.body = none)
    (scripts : Scripts w c (requests past) ((call.endpoint, v) :: rest))
    (accepted : call.Accepts v b) :
    Fetched w c call.endpoint rest past (.proper b) ((Gateway.live c).perform op w past) := by
  have asked : requests (past ++ [Gateway.announced op]) = requests past := requests_record past _
  have fetched : Fetched w c call.endpoint rest (past ++ [Gateway.announced op]) b
      (op.request c w (past ++ [Gateway.announced op])) :=
    same ▸ fetched_run call opened usable unposted (asked ▸ scripts) accepted
  exact fetched_record _ (fetched_dispatch hookless fetched)

theorem fetched_loadBackend (name : String) {v : Json} {backend : Backend}
    (opened : c.closed = false) (usable : c.Usable)
    (scripts : Scripts w c (requests past) ((.backend name, v) :: rest))
    (accepted : (ClientCall.backend name).Accepts v backend) :
    Fetched w c (.backend name) rest past backend ((Gateway.live c).loadBackend name w past) := by
  let record := Log.note Log.debug .gateway s!"Loading backend info for {name}"
  have asked : requests (past ++ [.record record]) = requests past := requests_record past _
  have fetched := fetched_run (.backend name) opened usable rfl (asked ▸ scripts) accepted
  exact fetched_record record (fetched_reporting (Gateway.backendEvent name) fetched)

end

/-- The wire form of a value that is restored reads back as the value. -/
theorem decode_of_wire (m : Model) {v : m.Value} {j : Json} (restored : Restores m.codec v)
    (written : m.wire v = .ok j) : m.codec.decode j = .ok v := by
  unfold Model.wire writtenWith at written
  split at written <;> cases written
  exact restored

theorem wire_of_plain (m : Model) {v : m.Value} (plain : m.given v = []) :
    m.wire v = .ok (m.codec.encode v) := by
  rw [Model.wire, plain]
  rfl

theorem accepts_backend {name : String} {b : Backend} {j : Json}
    (written : Model.backend.wire b = .ok j) : (ClientCall.backend name).Accepts j b := by
  have decoded : Backend.codec.decode j = .ok b :=
    decode_of_wire .backend (backend_restores b) written
  have plain : Delivery.sectionPayload j = j := by
    cases written
    rfl
  rw [ClientCall.Accepts, plain]
  exact decoded

/-- The backend of a client offers a feature to a load, which no hook comes between: it answers
the requests with the wire forms of the parts of the feature. -/
structure Offers (w : World) (c : Client) (d : Feature) (past : Trace) : Prop where
  hookless : w.hooks = {}
  scripts : ∃ (b r m : Json) (resolvedCount : Int), Model.backend.wire d.backend = .ok b ∧
    Model.frontendReply.wire d.frontendReply = .ok r ∧
    Model.mappingsReply.wire (d.mappingsReply resolvedCount) = .ok m ∧
    Scripts w c (requests past)
      [(.backend d.name, b), (.frontend d.name, r), (.mappings d.name, m)]

/-- What the requests of a load come to. -/
theorem course_of_offers {w : World} {c : Client} {d : Feature} {past : Trace}
    (opened : c.closed = false) (usable : c.Usable) (offers : Offers w c d past) :
    ((∃ e ∈ Endpoint.ofLoad d.name, Address.lengthLimit < (e.url c.baseUrl).length) ∧
      (((Gateway.live c).loadSteps d.name).course w past).outcome =
        .error (.address .tooLong)) ∨
    ((∀ e ∈ Endpoint.ofLoad d.name, (e.url c.baseUrl).length ≤ Address.lengthLimit) ∧
      ∃ resolvedCount, (((Gateway.live c).loadSteps d.name).course w past).outcome =
        .ok ⟨d.backend, .proper d.frontendReply, .proper (d.mappingsReply resolvedCount)⟩) := by
  obtain ⟨hookless, b, r, m, resolvedCount, wroteB, wroteR, wroteM, scripts⟩ := offers
  obtain ⟨long, bt, backend⟩ | ⟨shortB, bt, backend, scripts⟩ :=
    fetched_loadBackend d.name opened usable scripts (accepts_backend wroteB)
  · refine .inl ⟨⟨.backend d.name, by simp [Endpoint.ofLoad], long⟩, ?_⟩
    simp only [LoadSteps.course, Gateway.loadSteps, backend]
  obtain ⟨long, rt, frontend⟩ | ⟨shortR, rt, frontend, scripts⟩ :=
    fetched_perform (.frontend d.name) (.frontend d.name) rfl opened usable hookless rfl scripts
      (decode_of_wire .frontendReply (frontendReply_restores _) wroteR)
  · refine .inl ⟨⟨.frontend d.name, by simp [Endpoint.ofLoad], long⟩, ?_⟩
    simp only [LoadSteps.course, Gateway.loadSteps, Gateway.loadFrontend, backend, frontend]
  obtain ⟨long, mt, mappings⟩ | ⟨shortM, mt, mappings, -⟩ :=
    fetched_perform (.mappings d.name) (.mappings d.name) rfl opened usable hookless rfl scripts
      (decode_of_wire .mappingsReply (mappingsReply_restores _) wroteM)
  · refine .inl ⟨⟨.mappings d.name, by simp [Endpoint.ofLoad], long⟩, ?_⟩
    simp only [LoadSteps.course, Gateway.loadSteps, Gateway.loadFrontend, Gateway.loadMappings,
      backend, frontend, mappings]
  · refine .inr ⟨?_, resolvedCount, course_of_ok backend frontend mappings⟩
    simp only [Endpoint.ofLoad, List.forall_mem_cons]
    exact ⟨shortB, shortR, shortM, by simp⟩

namespace Session

def overClient (c : Client) (feature : String) : Session := { feature, gateway := .live c }

/-- What a load from a backend comes to beside a load from the feature itself: the same, with the
same in the store, unless an address is too long. -/
structure LoadsAlike (c : Client) (d : Feature) (live offline : Session) : Prop where
  served : Holds offline d ∧ offline.definition? = some d
  loaded : (∀ e ∈ Endpoint.ofLoad d.name, (e.url c.baseUrl).length ≤ Address.lengthLimit) →
    Holds live d ∧ live.definition? = some d ∧ live.store = offline.store
  refused : (∃ e ∈ Endpoint.ofLoad d.name, Address.lengthLimit < (e.url c.baseUrl).length) →
    live.state = .failed ∧ live.error = some (.address .tooLong) ∧ live.store = {}

/-- The step from the course of the live load to the session after it. -/
theorem live_load_of_offers {c : Client} {d : Feature} {w : World} {past : Trace}
    (opened : c.closed = false) (usable : c.Usable) (offers : Offers w c d past) :
    ((∃ e ∈ Endpoint.ofLoad d.name, Address.lengthLimit < (e.url c.baseUrl).length) ∧
      ((overClient c d.name).load w past).outcome =
        .ok ((overClient c d.name).failedBy (.address .tooLong))) ∨
    ((∀ e ∈ Endpoint.ofLoad d.name, (e.url c.baseUrl).length ≤ Address.lengthLimit) ∧
      ((overClient c d.name).load w past).outcome =
        .ok ((overClient c d.name).loadedWith d.entry)) := by
  have asked : Offers w c d (past ++ [.record (overClient c d.name).loadingRecord]) :=
    ⟨offers.hookless, by rw [requests_record]; exact offers.scripts⟩
  obtain ⟨long, failed⟩ | ⟨short, resolvedCount, replied⟩ := course_of_offers opened usable asked
  · obtain ⟨t, ran⟩ := loadBy_of_failure (s := overClient c d.name) failed
    exact .inl ⟨long, congrArg Ran.outcome ran⟩
  · obtain ⟨t, ran⟩ := loadBy_of_replies (s := overClient c d.name) rfl replied
    rw [← compose_replies d resolvedCount]
    exact .inr ⟨short, congrArg Ran.outcome ran⟩

/-- A load from a backend that offers a feature leaves what a load from the feature itself leaves,
unless an address is too long; then it fails and leaves nothing. -/
theorem live_load_agrees {c : Client} {d : Feature} {w : World} {past : Trace}
    (opened : c.closed = false) (usable : c.Usable) (offers : Offers w c d past)
    (queries : Entries QueryReply) (actions : Entries ActionReply) (w' : World) (past' : Trace) :
    ∃ live offline, ((overClient c d.name).load w past).outcome = .ok live ∧
      ((ofFeature d queries actions).load w' past').outcome = .ok offline ∧
      LoadsAlike c d live offline := by
  obtain ⟨t, served⟩ := load_of_serves (serves_ofFeature d queries actions) w' past'
  have offline : Holds ((ofFeature d queries actions).loadedWith d.entry) d := holds_loadedWith rfl
  have same : Holds ((ofFeature d queries actions).loadedWith d.entry) d ∧
      ((ofFeature d queries actions).loadedWith d.entry).definition? = some d :=
    ⟨offline, (mirrors_of_holds offline).definition⟩
  obtain ⟨⟨e, member, long⟩, ended⟩ | ⟨short, ended⟩ := live_load_of_offers opened usable offers
  · refine ⟨_, _, ended, congrArg Ran.outcome served, same, fun short => ?_,
      fun _ => ⟨rfl, rfl, rfl⟩⟩
    exact absurd (short e member) (Nat.not_le.mpr long)
  · have live : Holds ((overClient c d.name).loadedWith d.entry) d := holds_loadedWith rfl
    refine ⟨_, _, ended, congrArg Ran.outcome served, same,
      fun _ => ⟨live, (mirrors_of_holds live).definition, rfl⟩, ?_⟩
    rintro ⟨e, member, long⟩
    exact absurd (short e member) (Nat.not_le.mpr long)

/-! ### A backend that offers a feature -/

theorem frontendReply_writes {r : FrontendReply}
    (tables : ∀ t ∈ r.dataTables, WritesLegibly DataTable.codec t)
    (forms : ∀ f ∈ r.forms, WritesLegibly Form.codec f) :
    WritesLegibly FrontendReply.codec r :=
  record_writes
    ((writes_field (list_writes tables)).map _
      |>.seq (writes_field (list_writes forms))
      |>.seq (writes_field (text_writes _))
      |>.seq (writes_field (text_writes _)))
    (by decide)

theorem mappingsReply_writes {r : MappingsReply}
    (count : WritesLegibly .integer r.resolvedCount)
    (mappings : ∀ m ∈ r.mappings, WritesLegibly Mapping.codec m) :
    WritesLegibly MappingsReply.codec r :=
  record_writes
    ((writes_field (text_writes _)).map _
      |>.seq (writes_field (text_writes _))
      |>.seq (writes_field count)
      |>.seq (writes_field (list_writes mappings)))
    (by decide)

/-- What a load asks for, and the bodies of the answers from a backend that offers a feature. -/
def answersWith (d : Feature) : List (Endpoint × Json × Octets) :=
  let answer (e : Endpoint) (v : Json) := (e, v, Octets.ofString (Json.write ⟨true, none⟩ v))
  [answer (.backend d.name) (Backend.codec.encode d.backend),
    answer (.frontend d.name) (FrontendReply.codec.encode d.frontendReply),
    answer (.mappings d.name) (MappingsReply.codec.encode (d.mappingsReply 0))]

/-- A feature whose wire form is legible is offered by some backend. -/
theorem offers_answersWith (c : Client) {d : Feature}
    (frontend : WritesLegibly FrontendReply.codec d.frontendReply)
    (mappings : WritesLegibly MappingsReply.codec (d.mappingsReply 0)) :
    Offers (scripted ((answersWith d).map (·.2.2))) c d [] := by
  have read : ∀ x ∈ answersWith d, Json.readOctets x.2.2 = .ok x.2.1 := by
    simp only [answersWith, List.forall_mem_cons]
    exact ⟨Json.readOctets_write (backend_writes d.backend), Json.readOctets_write frontend,
      Json.readOctets_write mappings, List.forall_mem_nil _⟩
  have scripts := scripts_scripted c (answersWith d) read [] [] rfl
  exact ⟨rfl, _, _, _, 0, wire_of_plain .backend rfl, wire_of_plain .frontendReply rfl,
    wire_of_plain .mappingsReply rfl, scripts⟩

/-- A feature with something of every kind, and a name that is escaped in addresses. -/
def orders : Feature where
  name := "orders / 1"
  version := "1"
  backend.queries := [
    { id := "list", sql := "SELECT * FROM o WHERE id = :id", parameters := [{ name := "id" }] }]
  backend.actionQueries := [
    { id := "add", sql := "INSERT INTO o VALUES (:id)", parameters := [{ name := "id" }] }]
  frontend.dataTables := [
    { id := "all", queryRef := "list", pageSize := some 20, columns := [{ name := "id" }] }]
  frontend.forms := [
    { id := "new", actionRef := some "add", fields := [{ name := "id" }],
      buttons := [{ label := some "Add" }], messages := [{ content := "\"Added\"" }] }]
  mappings := [
    { name := "id", label := "Number", listQuery := some { id := "free" },
      options := some { items := [{ label := "first", value := .text "1" }] } }]

/-- A load of the orders agrees with what they hold. -/
theorem orders_load_alike :
    let c := ClientCall.plainClient
    let w := scripted ((answersWith orders).map (·.2.2))
    c.closed = false ∧ c.Usable ∧ Offers w c orders [] ∧
      ∃ live offline, ((overClient c orders.name).load w []).outcome = .ok live ∧
        ((ofFeature orders [] []).load w []).outcome = .ok offline ∧
        LoadsAlike c orders live offline := by
  intro c w
  have few {n : Nat} (small : n < 10 ^ 2) : n < 10 ^ Number.integerDigitLimit :=
    Nat.lt_trans small (Nat.pow_lt_pow_right (by decide) (by decide))
  have table : ∀ t ∈ orders.frontend.dataTables, WritesLegibly DataTable.codec t :=
    List.forall_mem_singleton.mpr (dataTable_writes fun n given => by
      cases given
      exact few (by decide))
  have form : ∀ f ∈ orders.frontend.forms, WritesLegibly Form.codec f :=
    List.forall_mem_singleton.mpr <| form_writes <| List.forall_mem_singleton.mpr <|
      field_writes (List.forall_mem_nil _) nofun
  have mapping : ∀ m ∈ orders.mappings, WritesLegibly Mapping.codec m := by
    refine List.forall_mem_singleton.mpr (mapping_writes (fun o given => ?_) nofun)
    cases given
    exact mappingOptions_writes (List.forall_mem_singleton.mpr (mappingOption_writes trivial))
  have offers : Offers w c orders [] := offers_answersWith c (frontendReply_writes table form)
    (mappingsReply_writes (few (n := 0) (by decide)) mapping)
  have usable : c.Usable := ClientCall.plainClient_usable
  exact ⟨rfl, usable, offers, live_load_agrees rfl usable offers [] [] w []⟩

/-- Where the name alone is longer than an address may be, every backend offers the feature, since
none is asked for it, and no load comes to anything. -/
theorem load_of_long_name {c : Client} {d : Feature} {w : World} (past : Trace)
    (opened : c.closed = false) (usable : c.Usable) (hookless : w.hooks = {})
    (long : Address.lengthLimit < d.name.length) :
    Offers w c d past ∧ ((overClient c d.name).load w past).outcome =
      .ok ((overClient c d.name).failedBy (.address .tooLong)) := by
  have far : Address.lengthLimit < (Endpoint.url c.baseUrl (.backend d.name)).length :=
    Nat.lt_of_lt_of_le long (Url.length_le_below _ d.name ["backend"])
  have offers : Offers w c d past := by
    refine ⟨hookless, _, _, _, 0, wire_of_plain .backend rfl, wire_of_plain .frontendReply rfl,
      wire_of_plain .mappingsReply rfl, fun a addressed => ?_⟩
    rw [Endpoint.address_of_long far] at addressed
    cases addressed
  refine ⟨offers, ?_⟩
  obtain ⟨-, failed⟩ | ⟨short, -⟩ := live_load_of_offers opened usable offers
  · exact failed
  · exact absurd (short _ (.head _)) (Nat.not_le.mpr far)

def longName : String := String.ofList (List.replicate (Address.lengthLimit + 1) 'a')

/-- Whatever the backend would answer, a feature with so long a name is not loaded from it. -/
theorem long_name_not_loaded :
    let c := ClientCall.plainClient
    c.closed = false ∧ c.Usable ∧ ∀ w : World, w.hooks = {} →
      Offers w c { name := longName } [] ∧
      ¬∃ live, ((overClient c longName).load w []).outcome = .ok live ∧ live.state = .loaded := by
  intro c
  have long : Address.lengthLimit < longName.length := by
    rw [longName, String.length_ofList, List.length_replicate]
    exact Nat.lt_succ_self _
  have usable : c.Usable := ClientCall.plainClient_usable
  refine ⟨rfl, usable, fun w hookless => ?_⟩
  obtain ⟨offers, failed⟩ :=
    load_of_long_name (d := { name := longName }) [] rfl usable hookless long
  refine ⟨offers, ?_⟩
  rintro ⟨live, ended, loaded⟩
  obtain rfl : _ = live := Except.ok.inj (failed.symm.trans ended)
  exact absurd loaded nofun

end Session
end FeatureSpec
