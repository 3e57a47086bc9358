import FeatureSpec.Proofs.ClientCalls
/-!
Backends of an older kind call the mutations of a feature by another name. That name counts where
the wire name is missing, and it counts before the plain name.
-/
namespace FeatureSpec

open Payload Payload.Fields

namespace Entries

variable {α : Type} {m : Entries α} {old new key : String}

def rename (m : Entries α) (old new : String) : Entries α :=
  m.map fun e => if e.1 = old then (new, e.2) else e

theorem get?_rename_new (fresh : m.get? new = none) : (m.rename old new).get? new = m.get? old := by
  induction m with
  | nil => rfl
  | cons e rest ih =>
    obtain ⟨k, v⟩ := e
    have other : k ≠ new := by
      rintro rfl
      simp [get?] at fresh
    have later : get? rest new = none := by simpa [get?, other] using fresh
    by_cases same : k = old
    · simp [rename, get?, same]
    · have rest' := ih later
      simpa [rename, get?, same, other] using rest'

theorem get?_rename_other (kept : key ≠ old) (apart : key ≠ new) :
    (m.rename old new).get? key = m.get? key := by
  induction m with
  | nil => rfl
  | cons e rest ih =>
    obtain ⟨k, v⟩ := e
    by_cases same : k = old
    · subst same
      simpa [rename, get?, kept.symm, apart.symm] using ih
    · by_cases found : k = key
      · subst found
        simp [rename, get?, same]
      · simpa [rename, get?, same, found] using ih

theorem get?_rename_old (apart : old ≠ new) : (m.rename old new).get? old = none := by
  induction m with
  | nil => rfl
  | cons e rest ih =>
    obtain ⟨k, v⟩ := e
    by_cases same : k = old
    · simpa [rename, get?, same, apart.symm] using ih
    · simpa [rename, get?, same] using ih

theorem get?_append_single (v : α) :
    get? (m ++ [(new, v)]) key = (m.get? key).or (if new = key then some v else none) := by
  induction m with
  | nil => simp [get?]
  | cons e rest ih =>
    obtain ⟨k, w⟩ := e
    by_cases found : k = key <;> simp [get?, found, ih]

theorem contains_eq_false : m.contains key = false ↔ m.get? key = none := by
  rw [contains, Option.isSome_eq_false_iff, Option.isNone_iff_eq_none]

end Entries

namespace Payload

variable {α β ρ : Type}

/-- The value of a check, or the number of faults found. -/
def Checked.tally (x : Checked α) : Except Nat α := x.mapError List.length

/-- Both of two outcomes, with the faults of both counted. -/
def Checked.tallyBoth (f : Except Nat (α → β)) (x : Except Nat α) : Except Nat β :=
  match f, x with
  | .ok f, .ok a => .ok (f a)
  | .error n, .ok _ => .error n
  | .ok _, .error n => .error n
  | .error m, .error n => .error (m + n)

theorem tally_under (step : Step) (x : Checked α) : (Checked.under step x).tally = x.tally := by
  cases x with
  | ok a => rfl
  | error faults => exact congrArg Except.error (List.length_map _)

theorem tally_map (f : α → β) (x : Checked α) :
    Checked.tally (x.map f) = x.tally.map f := by
  cases x <;> rfl

theorem tally_both (f : Checked (α → β)) (x : Checked α) :
    (Checked.both f x).tally = Checked.tallyBoth f.tally x.tally := by
  cases f <;> cases x <;> simp [Checked.both, Checked.tally, Checked.tallyBoth, Except.mapError]

theorem tally_field {wire plain : String} {codec : Codec α} {absent : α} (get : ρ → α)
    (m : Entries Json) :
    ((Fields.field wire plain codec absent get).decode m).tally =
      match (m.get? wire).or (m.get? plain) with
      | some v => (codec.decode v).tally
      | none => .ok absent := by
  rcases named : m.get? wire with _ | v
  · rcases plainly : m.get? plain with _ | v
    · simp [Fields.field, Fields.find?, named, plainly, Checked.tally, Except.mapError]
    · simp [Fields.field, Fields.find?, named, plainly, tally_under]
  · simp [Fields.field, Fields.find?, named, tally_under]

end Payload

namespace Delivery

theorem reply_of_tally {α : Type} (title url : String) (codec : Codec α) (v : Json) :
    reply title url codec v =
      (codec.decode v).tally.mapError fun n => .backend (.unexpected title n) none (some url) := by
  unfold reply
  cases codec.decode v <;> rfl

end Delivery

namespace Backend

variable {p p' : Entries Json}

/-- The member that the mutations of a backend are read from. -/
def actionsOf (p : Entries Json) : Option Json :=
  ((p.get? "actionQueries").or (p.get? "actions")).or (p.get? "action_queries")

theorem tally_decode (p : Entries Json) :
    (codec.decode (.object p)).tally =
      Checked.tallyBoth
        ((((field "queries" "queries" (.list Query.codec) [] queries).decode p).tally).map mk)
        (match (p.get? "actionQueries").or (p.get? "action_queries") with
          | some v => ((Codec.list ActionQuery.codec).decode v).tally
          | none => .ok []) := by
  rw [← tally_map, ← tally_field Backend.actionQueries, ← tally_both]
  rfl

/-- What a backend answers with reads as the object does that names its mutations on the wire. -/
theorem sectionPayload_eq (p : Entries Json) :
    ∃ q : Entries Json, Delivery.sectionPayload (.object p) = .object q ∧
      q.get? "queries" = p.get? "queries" ∧
      (q.get? "actionQueries").or (q.get? "action_queries") = actionsOf p := by
  unfold Delivery.sectionPayload actionsOf
  -- Only one of the three cases changes the object: the older name without the wire name.
  rcases named : p.get? "actionQueries" with _ | v
  · rcases older : p.get? "actions" with _ | v
    · exact ⟨p, by simp [Entries.contains, named, older], rfl, by simp [named]⟩
    · refine ⟨p ++ [("actionQueries", v)], by simp [Entries.contains, named, older], ?_, ?_⟩
      · simp [Entries.get?_append_single]
      · simp [Entries.get?_append_single, named]
  · exact ⟨p, by simp [Entries.contains, named], rfl, by simp [named]⟩

theorem read_congr (name url : String) (queries : p'.get? "queries" = p.get? "queries")
    (actions : actionsOf p' = actionsOf p) :
    (ClientCall.backend name).read url (.object p') =
      (ClientCall.backend name).read url (.object p) := by
  obtain ⟨q, adapted, queried, acted⟩ := sectionPayload_eq p
  obtain ⟨q', adapted', queried', acted'⟩ := sectionPayload_eq p'
  have tallied : (codec.decode (.object q')).tally = (codec.decode (.object q)).tally := by
    rw [tally_decode, tally_decode, tally_field, tally_field, acted, acted', queried, queried',
      queries, actions]
  simp only [ClientCall.read, adapted, adapted', Delivery.reply_of_tally, tallied]

theorem actionQueries_of_none {name url : String} {b : Backend} (none : actionsOf p = none)
    (read : (ClientCall.backend name).read url (.object p) = .ok b) : b.actionQueries = [] := by
  obtain ⟨q, adapted, queried, acted⟩ := sectionPayload_eq p
  have decoded : codec.decode (.object q) = .ok b := by
    rw [ClientCall.read_eq_ok_iff] at read
    simpa [ClientCall.Accepts, adapted] using read
  have absent : find? q "actionQueries" "action_queries" = Option.none := by
    obtain ⟨wire, plain⟩ := Option.or_eq_none_iff.mp (acted.trans none)
    simp [find?, wire, plain]
  obtain ⟨make, actions, made, empty, rfl⟩ := Checked.both_eq_ok decoded
  obtain ⟨queries, -, rfl⟩ := Checked.map_eq_ok made
  simp only [field, absent] at empty
  exact (Except.ok.inj empty).symm

end Backend

namespace ClientCall

variable {α : Type} {c : Client} {w w' : World} {past past' : Trace} {name : String} {status : Int}
  {p p' : Entries Json}

/-- Every request is answered with a status and an object. -/
def Answered (w : World) (status : Int) (p : Entries Json) : Prop :=
  ∀ past r, ∃ octets, w.transport past r = .response status octets ∧
    Json.readOctets octets = .ok (.object p)

theorem payload_of_closed {a : Address} (call : ClientCall α) (closed : c.closed = true)
    (writable : call.body.bind Json.unwritable? = none)
    (addressed : Address.ofString (call.endpoint.url c.baseUrl) = .ok a) :
    (c.payload call.endpoint call.body w past).outcome = .error (.state .clientClosed) := by
  unfold Client.payload
  rw [Run.log_bind, addressed, Run.bind_of_ok rfl, writable, closed]
  rfl

/-- An open client gets the payload of what is delivered, unless that is a response from a place
that is not known by scheme and host. -/
theorem payload_of_open {a : Address} (call : ClientCall α) (opened : c.closed = false)
    (writable : call.body.bind Json.unwritable? = none)
    (addressed : Address.ofString (call.endpoint.url c.baseUrl) = .ok a) :
    (c.payload call.endpoint call.body w past).outcome =
      if (call.delivered c a w past).isResponse && !a.isAbsolute then
        .error (.value (.unknownAddressType a.text))
      else Delivery.payload c.timeout.text (call.endpoint.url c.baseUrl)
        (call.delivered c a w past) := by
  unfold Client.payload
  rw [Run.log_bind, addressed, Run.bind_of_ok rfl, writable, opened]
  simp only [Bool.false_eq_true, if_false]
  rw [Run.bind_of_ok (x := Run.deliver _) rfl, List.append_nil]
  exact apply_ite (fun x : Run Json => (x w _).outcome) _ _ _

/-- The payload that a client gets out of an answer is the object of the answer. -/
theorem payload_eq_of_answered {v : Json} (call : ClientCall α)
    (writable : call.body.bind Json.unwritable? = none) (answered : Answered w status p)
    (given : (c.payload call.endpoint call.body w past).outcome = .ok v) : v = .object p := by
  rcases addressed : Address.ofString (call.endpoint.url c.baseUrl) with fault | a
  · rw [Client.payload_of_unaddressed addressed] at given
    cases given
  rcases opened : c.closed
  · obtain ⟨octets, sent, told⟩ := answered (past ++ [call.announced c]) (call.requestAt a)
    have delivered : call.delivered c a w past = .response status octets := sent
    rw [payload_of_open call opened writable addressed, delivered] at given
    split at given
    · cases given
    · obtain ⟨_, _, response, -, read⟩ := Delivery.payload_eq_ok_iff.mp given
      cases response
      exact Except.ok.inj (read.symm.trans told)
  · rw [payload_of_closed call opened writable addressed] at given
    cases given

/-- The words of a server that refuses are read off one member of its answer. -/
theorem payload_bind_congr (after url : String) {octets octets' : Octets}
    {read : Json → Except Failure α} (told : Json.readOctets octets = .ok (.object p))
    (told' : Json.readOctets octets' = .ok (.object p')) (error : p'.get? "error" = p.get? "error")
    (same : read (.object p') = read (.object p)) :
    (Delivery.payload after url (.response status octets')).bind read =
      (Delivery.payload after url (.response status octets)).bind read := by
  have words : Delivery.refusal status octets' = Delivery.refusal status octets := by
    simp only [Delivery.refusal, told, told', error]
  simp only [Delivery.payload, words, told, told']
  cases Delivery.isErrorStatus status
  · exact same
  · rfl

/-- Nothing counts of an answer but the queries, the member for the mutations and the words of a
server that refuses; nor does what has occurred before. -/
theorem backend_congr (answered : Answered w status p) (answered' : Answered w' status p')
    (error : p'.get? "error" = p.get? "error") (queries : p'.get? "queries" = p.get? "queries")
    (actions : Backend.actionsOf p' = Backend.actionsOf p) :
    ((ClientCall.backend name).run c w' past').outcome =
      ((ClientCall.backend name).run c w past).outcome := by
  let call := ClientCall.backend name
  rcases addressed : Address.ofString (call.endpoint.url c.baseUrl) with fault | a
  · rw [run_of_unaddressed _ addressed, run_of_unaddressed _ addressed]
  rw [run_eq, Run.outcome_bind_ofExcept, Run.outcome_bind_ofExcept]
  rcases opened : c.closed
  · obtain ⟨octets, given, told⟩ := answered (past ++ [call.announced c]) (call.requestAt a)
    obtain ⟨octets', given', told'⟩ := answered' (past' ++ [call.announced c]) (call.requestAt a)
    have delivered : call.delivered c a w past = .response status octets := given
    have delivered' : call.delivered c a w' past' = .response status octets' := given'
    rw [payload_of_open _ opened rfl addressed, payload_of_open _ opened rfl addressed, delivered,
      delivered']
    cases a.isAbsolute
    · rfl
    · exact payload_bind_congr c.timeout.text _ told told' error
        (Backend.read_congr name _ queries actions)
  · rw [payload_of_closed _ opened rfl addressed, payload_of_closed _ opened rfl addressed]

theorem actionQueries_of_returned {b : Backend} (answered : Answered w status p)
    (nowhere : Backend.actionsOf p = none)
    (ended : ((ClientCall.backend name).run c w past).outcome = .ok b) : b.actionQueries = [] := by
  rw [run_eq, Run.outcome_bind_ofExcept] at ended
  rcases given : (c.payload (ClientCall.backend name).endpoint (ClientCall.backend name).body w
    past).outcome with f | v <;> rw [given] at ended
  · cases ended
  · obtain rfl := payload_eq_of_answered _ rfl answered given
    have read : (ClientCall.backend name).read ((Endpoint.backend name).url c.baseUrl)
        (.object p) = .ok b := ended
    exact Backend.actionQueries_of_none nowhere read

/-- The older name of the mutations counts exactly where the wire name is missing. With the wire
name, nothing that is said under the older one makes a difference. Without it, the older name
stands for it, even next to the plain name, and the plain name stands for it where the older one is
missing too. With none of the three there are no mutations. -/
theorem older_name_counts (c : Client) (name : String) (answered : Answered w status p)
    (answered' : Answered w' status p') :
    let outcome := ((ClientCall.backend name).run c w past).outcome
    let outcome' := ((ClientCall.backend name).run c w' past').outcome
    (p.contains "actionQueries" = true → (∀ key, key ≠ "actions" → p'.get? key = p.get? key) →
      outcome' = outcome) ∧
    (p.contains "actionQueries" = false → p.contains "actions" = true →
      p' = p.rename "actions" "actionQueries" → outcome' = outcome) ∧
    (p.contains "actionQueries" = false → p.contains "actions" = false →
      (p' = p.rename "action_queries" "actionQueries" → outcome' = outcome) ∧
      (p.contains "action_queries" = false → ∀ b, outcome = .ok b → b.actionQueries = [])) := by
  refine ⟨fun named same => ?wire, fun unnamed older renamed => ?older,
    fun unnamed absent => ⟨fun renamed => ?plain, fun bare b ended => ?none⟩⟩
  case wire =>
    refine backend_congr answered answered' (same _ (by decide)) (same _ (by decide)) ?_
    obtain ⟨v, found⟩ := Option.isSome_iff_exists.mp named
    simp [Backend.actionsOf, same "actionQueries" (by decide), found]
  case older =>
    have fresh := Entries.contains_eq_false.mp unnamed
    obtain ⟨v, found⟩ := Option.isSome_iff_exists.mp older
    subst renamed
    refine backend_congr answered answered' (Entries.get?_rename_other (by decide) (by decide))
      (Entries.get?_rename_other (by decide) (by decide)) ?_
    simp [Backend.actionsOf, Entries.get?_rename_new fresh, fresh, found]
  case plain =>
    have fresh := Entries.contains_eq_false.mp unnamed
    have missing := Entries.contains_eq_false.mp absent
    subst renamed
    refine backend_congr answered answered' (Entries.get?_rename_other (by decide) (by decide))
      (Entries.get?_rename_other (by decide) (by decide)) ?_
    simp [Backend.actionsOf, Entries.get?_rename_new fresh, Entries.get?_rename_old, fresh, missing,
      Entries.get?_rename_other]
  case none =>
    have nowhere : Backend.actionsOf p = none := by
      simp [Backend.actionsOf, Entries.contains_eq_false.mp unnamed,
        Entries.contains_eq_false.mp absent, Entries.contains_eq_false.mp bare]
    exact actionQueries_of_returned answered nowhere ended

def oneAction (key : String) : Entries Json :=
  [(key, .array [.object [("id", .string "a")]])]

def telling (text : String) : World := constantly (.response 200 (Octets.ofString text))

theorem answered_of_read {text : String}
    (read : Json.readOctets (Octets.ofString text) = .ok (.object p)) :
    Answered (telling text) 200 p :=
  fun _ _ => ⟨_, rfl, read⟩

theorem older_name_read_as_wire_name :
    let w := telling "\x7b\"actions\": [\x7b\"id\": \"a\"\x7d]\x7d"
    let w' := telling "\x7b\"actionQueries\": [\x7b\"id\": \"a\"\x7d]\x7d"
    Answered w 200 (oneAction "actions") ∧ Answered w' 200 (oneAction "actionQueries") ∧
      ((ClientCall.backend "f").run plainClient w' []).outcome =
        ((ClientCall.backend "f").run plainClient w []).outcome := by
  intro w w'
  have answered : Answered w 200 (oneAction "actions") := answered_of_read (by decide +kernel)
  have answered' : Answered w' 200 (oneAction "actionQueries") :=
    answered_of_read (by decide +kernel)
  exact ⟨answered, answered', (older_name_counts plainClient "f" answered answered').2.1
    (by decide) (by decide) (by decide)⟩

theorem backend_of_telling {text : String}
    (read : Json.readOctets (Octets.ofString text) = .ok (.object p)) :
    ((ClientCall.backend "f").run plainClient (telling text) []).outcome =
      (ClientCall.backend "f").read ((Endpoint.backend "f").url plainClient.baseUrl)
        (.object p) := by
  have short : ((ClientCall.backend "f").endpoint.url plainClient.baseUrl).length ≤
      Address.lengthLimit := by decide +kernel
  obtain ⟨a, addressed, absolute⟩ := Endpoint.address_of_short plainClient_usable short
  have delivered : (ClientCall.backend "f").delivered plainClient a (telling text) [] =
      .response 200 (Octets.ofString text) := rfl
  have given : Delivery.payload plainClient.timeout.text
      ((ClientCall.backend "f").endpoint.url plainClient.baseUrl)
      (.response 200 (Octets.ofString text)) = .ok (.object p) :=
    Delivery.payload_eq_ok_iff.mpr ⟨_, _, rfl, rfl, read⟩
  rw [run_of_address _ rfl rfl addressed absolute, delivered, given]
  rfl

/-- What is said under the older name takes the place of what is said under the plain name, be it
that there are no mutations. -/
theorem plain_name_overridden :
    let w := telling "\x7b\"action_queries\": [\x7b\"id\": \"a\"\x7d]\x7d"
    let w' := telling "\x7b\"action_queries\": [\x7b\"id\": \"a\"\x7d], \"actions\": []\x7d"
    Answered w 200 (oneAction "action_queries") ∧
      Answered w' 200 (oneAction "action_queries" ++ [("actions", .array [])]) ∧
      ((ClientCall.backend "f").run plainClient w []).outcome =
        .ok { actionQueries := [{ id := "a" }] } ∧
      ((ClientCall.backend "f").run plainClient w' []).outcome = .ok {} := by
  intro w w'
  have read : Json.readOctets (Octets.ofString
      "\x7b\"action_queries\": [\x7b\"id\": \"a\"\x7d]\x7d") =
      .ok (.object (oneAction "action_queries")) := by decide +kernel
  have read' : Json.readOctets (Octets.ofString
      "\x7b\"action_queries\": [\x7b\"id\": \"a\"\x7d], \"actions\": []\x7d") =
      .ok (.object (oneAction "action_queries" ++ [("actions", .array [])])) := by decide +kernel
  refine ⟨answered_of_read read, answered_of_read read', ?_, ?_⟩
  · rw [backend_of_telling read]
    rfl
  · rw [backend_of_telling read']
    rfl

end ClientCall
end FeatureSpec
