import FeatureSpec.Proofs.AddressesBelow
import FeatureSpec.Proofs.ClientCalls
/-!
No two operations are asked for in the same way, but for two slips: a feature without a name is
asked for as all features are, and dot segments do not come through.
-/
namespace FeatureSpec

open Trace

namespace Endpoint

def Lists (e : Endpoint) : Prop := e = .features ∨ e = .feature ""

/-- The segments that an address tells of an operation. -/
def toldSegments (e : Endpoint) : List String := if e = .feature "" then [] else e.segments

def Undotted (e : Endpoint) : Prop := ∀ s ∈ e.segments, s ≠ "." ∧ s ≠ ".."

theorem segments_injective : Function.Injective segments := by
  intro e e' same
  cases e <;> cases e' <;> simp_all [segments]

theorem segments_eq_empty_iff {e : Endpoint} : e.segments = [""] ↔ e = .feature "" :=
  segments_injective.eq_iff' rfl

theorem toldSegments_eq_nil_iff {e : Endpoint} : e.toldSegments = [] ↔ e.Lists := by
  have all : e.segments = [] ↔ e = .features := segments_injective.eq_iff' rfl
  unfold toldSegments Lists
  split
  · rename_i nameless
    simp [nameless]
  · rename_i named
    simp [named, all]

theorem toldSegments_of_named {e : Endpoint} (h : ¬e.Lists) : e.toldSegments = e.segments :=
  if_neg fun nameless => h (.inr nameless)

theorem toldSegments_eq_iff {e e' : Endpoint} :
    e.toldSegments = e'.toldSegments ↔ e = e' ∨ (e.Lists ∧ e'.Lists) := by
  constructor
  · intro same
    -- The two that list are told by no segments, and nothing else is.
    by_cases lists : e.Lists
    · rw [toldSegments_eq_nil_iff.mpr lists] at same
      exact .inr ⟨lists, toldSegments_eq_nil_iff.mp same.symm⟩
    · have named : ¬e'.Lists := by
        rwa [← toldSegments_eq_nil_iff, ← same, toldSegments_eq_nil_iff]
      rw [toldSegments_of_named lists, toldSegments_of_named named] at same
      exact .inl (segments_injective same)
  · rintro (rfl | ⟨lists, lists'⟩)
    · rfl
    · rw [toldSegments_eq_nil_iff.mpr lists, toldSegments_eq_nil_iff.mpr lists']

theorem method_of_same {e e' : Endpoint} (h : e = e' ∨ (e.Lists ∧ e'.Lists)) :
    e.method = e'.method := by
  have get {e : Endpoint} (lists : e.Lists) : e.method = .get := by
    rcases lists with rfl | rfl <;> rfl
  rcases h with rfl | ⟨lists, lists'⟩
  · rfl
  · rw [get lists, get lists']

theorem segmentsOf?_path (e : Endpoint) :
    Url.segmentsOf? (Url.path e.segments) = some e.toldSegments := by
  rw [Url.segmentsOf?_path, toldSegments]
  simp only [segments_eq_empty_iff]

theorem path_toldSegments (e : Endpoint) : Url.path e.toldSegments = Url.path e.segments := by
  unfold toldSegments
  split
  · rename_i nameless
    rw [nameless, Url.path_of_empty (.inl rfl)]
    exact (Url.path_of_empty (.inr rfl)).symm
  · rfl

theorem path_eq_iff {e e' : Endpoint} :
    Url.path e.segments = Url.path e'.segments ↔ e = e' ∨ (e.Lists ∧ e'.Lists) := by
  rw [← toldSegments_eq_iff]
  constructor
  · intro same
    have told := segmentsOf?_path e
    rw [same, segmentsOf?_path e'] at told
    exact (Option.some.inj told).symm
  · intro same
    rw [← path_toldSegments e, same, path_toldSegments]

theorem url_toList (base : String) (e : Endpoint) :
    (e.url base).toList = (base ++ "/xfeatures").toList ++ Url.path e.segments :=
  Url.below_toList (base ++ "/xfeatures") e.segments

theorem url_eq_iff {base : String} {e e' : Endpoint} :
    e.url base = e'.url base ↔ e = e' ∨ (e.Lists ∧ e'.Lists) := by
  rw [← String.toList_inj, url_toList, url_toList, List.append_cancel_left_eq, path_eq_iff]

theorem segmentsBelow?_url (base : String) (e : Endpoint) :
    Url.segmentsBelow? (base ++ "/xfeatures") (e.url base) = some e.toldSegments := by
  rw [Url.segmentsBelow?_append _ (url_toList base e), segmentsOf?_path]

theorem undotted_path {e : Endpoint} (undotted : e.Undotted) :
    Address.Undotted (Url.path e.segments) := by
  by_cases empty : e.segments = [] ∨ e.segments = [""]
  · rw [Url.path_of_empty empty]
    intro s member
    rw [List.splitOn_nil, List.mem_singleton] at member
    simp [member]
  · have pieces := Url.splitOn_joined fun none => empty (.inl none)
    intro s member
    rw [Url.path_of_nonempty empty, Address.splitOn_slash, pieces, List.mem_cons] at member
    rcases member with rfl | member
    · simp
    obtain ⟨t, segment, rfl⟩ := List.mem_map.mp member
    exact Url.undotted_encodeSegment (undotted t segment)

theorem address_of_undotted {c : Client} {b : Address}
    (known : Address.ofChars (c.baseUrl ++ "/xfeatures").toList = .ok b)
    (absolute : b.isAbsolute = true) {e : Endpoint} (undotted : e.Undotted)
    (short : (e.url c.baseUrl).length ≤ Address.lengthLimit) :
    Address.ofString (e.url c.baseUrl) = .ok (b.extended (Url.path e.segments)) := by
  have parts := url_toList c.baseUrl e
  have read := Address.ofChars_append (Url.path_below e.segments) (Url.path_plain e.segments)
    (undotted_path undotted) known absolute (by rw [← parts, String.length_toList]; exact short)
  rw [← parts] at read
  apply Address.ofString_of_absolute read
  rw [Address.isAbsolute_extended]
  exact absolute

end Endpoint

namespace ClientCall

variable {α : Type}

theorem trace_bind_ofExcept {β : Type} (x : Run β) (read : β → Except Failure α) (w : World)
    (past : Trace) :
    ((x >>= fun v => Run.ofExcept (read v)) w past).trace = (x w past).trace := by
  rcases ran : x w past with ⟨t, f | v⟩
  · rw [Run.bind_of_error ran]
  · rw [Run.bind_of_ok ran]
    exact List.append_nil t

theorem mem_requests_payload {c : Client} {e : Endpoint} {body : Option Json} {w : World}
    {past : Trace} {r : Request} (made : r ∈ requests (c.payload e body w past).trace) :
    ∃ a, Address.ofString (e.url c.baseUrl) = .ok a ∧
      r = { method := e.method, url := a.text, body } := by
  unfold Client.payload at made
  rw [Run.log_bind] at made
  rcases addressed : Address.ofString (e.url c.baseUrl) with fault | a <;> rw [addressed] at made
  · rw [Run.bind_of_error rfl] at made
    cases made
  rw [Run.bind_of_ok rfl] at made
  refine ⟨a, rfl, ?_⟩
  -- Parameters that cannot be written and a closed client end the call before the request.
  rcases writable : body.bind Json.unwritable? with _ | fault <;> rw [writable] at made
  case some => cases made
  rcases opened : c.closed <;> rw [opened] at made
  case true => cases made
  simp only [Bool.false_eq_true, if_false] at made
  rw [Run.bind_of_ok (x := Run.deliver _) rfl] at made
  split at made <;> simpa [requests, Run.fail, Run.ofExcept] using made

theorem mem_requests {call : ClientCall α} {c : Client} {w : World} {past : Trace} {r : Request}
    (made : r ∈ requests (call.run c w past).trace) :
    ∃ a, Address.ofString (call.endpoint.url c.baseUrl) = .ok a ∧ r = call.requestAt a := by
  apply mem_requests_payload
  rw [run_eq, trace_bind_ofExcept] at made
  exact made

/-- A request asks below the address that the base is requested by. -/
theorem url_of_request {c : Client} {b : Address}
    (known : Address.ofChars (c.baseUrl ++ "/xfeatures").toList = .ok b)
    (absolute : b.isAbsolute = true) {call : ClientCall α} (undotted : call.endpoint.Undotted)
    {w : World} {past : Trace} {r : Request} (made : r ∈ requests (call.run c w past).trace) :
    r.method = call.endpoint.method ∧
      r.url.toList = b.text.toList ++ Url.path call.endpoint.segments := by
  obtain ⟨a, addressed, rfl⟩ := mem_requests made
  have short : (call.endpoint.url c.baseUrl).length ≤ Address.lengthLimit := by
    by_contra long
    rw [Endpoint.address_of_long (by omega)] at addressed
    cases addressed
  rw [Endpoint.address_of_undotted known absolute undotted short] at addressed
  cases addressed
  exact ⟨rfl, Address.text_extended b _⟩

/-- The requests of a client tell its calls apart: what they ask for, and with which arguments. -/
structure SentApart (c : Client) : Prop where
  apart : ∀ {α β : Type} (call : ClientCall α) (call' : ClientCall β) (w w' : World)
    (past past' : Trace), call.endpoint.Undotted → call'.endpoint.Undotted →
    ∀ r ∈ requests (call.run c w past).trace, ∀ r' ∈ requests (call'.run c w' past').trace,
      (r.method = r'.method ∧ r.url = r'.url) ↔
        call.endpoint = call'.endpoint ∨ (call.endpoint.Lists ∧ call'.endpoint.Lists)
  readBack : ∃ root, Address.ofString (c.baseUrl ++ "/xfeatures") = .ok root ∧
    ∀ {α : Type} (call : ClientCall α) (w : World) (past : Trace), call.endpoint.Undotted →
      ∀ r ∈ requests (call.run c w past).trace,
        Url.segmentsBelow? root.text r.url = some call.endpoint.toldSegments

theorem sentApart_of_usable {c : Client} (usable : c.Usable) : SentApart c := by
  obtain ⟨b, known, absolute⟩ := usable
  constructor
  · intro α β call call' w w' past past' undotted undotted' r made r' made'
    obtain ⟨method, url⟩ := url_of_request known absolute undotted made
    obtain ⟨method', url'⟩ := url_of_request known absolute undotted' made'
    rw [method, method', ← String.toList_inj, url, url', List.append_cancel_left_eq,
      Endpoint.path_eq_iff]
    apply and_iff_right_of_imp
    intro same
    exact Endpoint.method_of_same same
  · refine ⟨b, Address.ofString_of_absolute known absolute, ?_⟩
    intro α call w past undotted r made
    obtain ⟨-, url⟩ := url_of_request known absolute undotted made
    rw [Url.segmentsBelow?_append _ url, Endpoint.segmentsOf?_path]

/-- An address tells what is asked for, but for a feature without a name, which is asked for as
all features are. The requests of a client of a server tell it as well. -/
theorem requests_told_apart (c : Client) :
    (∀ e e' : Endpoint,
      e.url c.baseUrl = e'.url c.baseUrl ↔ e = e' ∨ (e.Lists ∧ e'.Lists)) ∧
    (∀ e : Endpoint,
      Url.segmentsBelow? (c.baseUrl ++ "/xfeatures") (e.url c.baseUrl) = some e.toldSegments) ∧
    (c.Usable → SentApart c) :=
  ⟨fun _ _ => Endpoint.url_eq_iff, Endpoint.segmentsBelow?_url c.baseUrl, sentApart_of_usable⟩

theorem slashed_name_told_apart :
    plainClient.Usable ∧ SentApart plainClient ∧
      Url.segmentsBelow? (plainClient.baseUrl ++ "/xfeatures")
        (Endpoint.url plainClient.baseUrl (.checksum "a/b")) = some ["a/b", "checksum"] := by
  obtain ⟨-, read, sent⟩ := requests_told_apart plainClient
  exact ⟨plainClient_usable, sent plainClient_usable, read (.checksum "a/b")⟩

/-- Two calls that ask for different things by the same request, whatever the world. -/
def Confused {α β : Type} (c : Client) (call : ClientCall α) (call' : ClientCall β) : Prop :=
  call.endpoint ≠ call'.endpoint ∧ ∃ r, ∀ (w : World) (past : Trace),
    requests (call.run c w past).trace = [r] ∧ requests (call'.run c w past).trace = [r]

theorem confused_of_address {α β : Type} {call : ClientCall α} {call' : ClientCall β} {a : Address}
    (differ : call.endpoint ≠ call'.endpoint) (bare : call.body = none) (bare' : call'.body = none)
    (same : call.endpoint.method = call'.endpoint.method)
    (addressed : Address.ofString (call.endpoint.url plainClient.baseUrl) = .ok a)
    (addressed' : Address.ofString (call'.endpoint.url plainClient.baseUrl) = .ok a)
    (absolute : a.isAbsolute = true) : Confused plainClient call call' := by
  refine ⟨differ, call.requestAt a, ?_⟩
  intro w past
  have alike : call'.requestAt a = call.requestAt a := by
    rw [requestAt, requestAt, same, bare, bare']
  constructor
  · rw [call.run_of_address rfl (by rw [bare]; rfl) addressed absolute]
    rfl
  · rw [call'.run_of_address rfl (by rw [bare']; rfl) addressed' absolute, ← alike]
    rfl

theorem nameless_and_dotted_confused :
    Confused plainClient .features (.feature "") ∧
      Confused plainClient (.checksum ".") (.feature "checksum") := by
  constructor
  · have nameless : Endpoint.url plainClient.baseUrl (.feature "") =
        Endpoint.url plainClient.baseUrl .features :=
      Endpoint.url_eq_iff.mpr (.inr ⟨.inr rfl, .inl rfl⟩)
    exact confused_of_address (by decide) rfl rfl rfl plainFeatures_asked
      (nameless ▸ plainFeatures_asked) rfl
  · have dotted : Address.ofString (Endpoint.url plainClient.baseUrl (.checksum ".")) =
        .ok { scheme := "http".toList, host := ['h'], path := "/xfeatures/checksum".toList } := by
      cbv
    have named : Address.ofString (Endpoint.url plainClient.baseUrl (.feature "checksum")) =
        .ok { scheme := "http".toList, host := ['h'], path := "/xfeatures/checksum".toList } := by
      cbv
    exact confused_of_address (by decide) rfl rfl rfl dotted named rfl

end ClientCall
end FeatureSpec
