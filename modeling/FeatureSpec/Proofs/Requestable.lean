import FeatureSpec.Gateway.Client
import FeatureSpec.Proofs.EncodedSegments
import FeatureSpec.Proofs.Spans
/-!
Which addresses of a backend can be requested. What stands below a base is percent-encoded, so
that it changes neither the scheme nor the server of the address, and nothing in it is refused.
Only an address that is too long is.
-/
namespace FeatureSpec

namespace Octets

theorem length_le_utf8Encode (cs : List Char) : cs.length ≤ cs.utf8Encode.size := by
  induction cs with
  | nil => exact Nat.zero_le _
  | cons c cs ih =>
    have first : 0 < [c].utf8Encode.size := by
      simpa [List.utf8Encode_singleton] using c.utf8Size_pos
    rw [List.utf8Encode_cons, ByteArray.size_append, List.length_cons]
    omega

theorem length_le_ofString (s : String) : s.length ≤ (ofString s).length := by
  have octets : (ofString s).length = s.toList.utf8Encode.size := by
    rw [ofString_eq, String.utf8Encode_toList]
    rfl
  rw [octets, ← String.length_toList]
  exact length_le_utf8Encode s.toList

end Octets

namespace Address

/-- The text before the path: host and service, as they are written. -/
def serverOf (cs : List Char) : List Char × List Char :=
  spanHost (spanUserinfo (spanAuthority (spanScheme cs).2).1).2

/-- A text with a scheme that names a server. -/
structure Reaches (cs : List Char) : Prop where
  scheme : (spanScheme cs).1 ≠ []
  host : ∃ host, hostOf (serverOf cs).1 = .ok host ∧ host ≠ []
  service : ∃ n, serviceOf (spanScheme cs).1 (serverOf cs).2 = .ok n

/-- What an address tells of its server is read from the text alone. -/
theorem ofChars_server {cs : List Char} {a : Address} (h : ofChars cs = .ok a) :
    cs.length ≤ lengthLimit ∧ control? cs = none ∧ a.scheme = (spanScheme cs).1.map Char.toLower ∧
      hostOf (serverOf cs).1 = .ok a.host ∧
      serviceOf (spanScheme cs).1 (serverOf cs).2 = .ok a.service := by
  simp only [ofChars, bind, Except.bind, pure, Except.pure, throw, throwThe,
    MonadExceptOf.throw] at h
  split at h
  case isTrue => cases h
  case isFalse short =>
  -- The checks are passed one after another; any that fails ends the reading.
  rcases uncontrolled : control? cs with _ | ⟨c, place⟩ <;> rw [uncontrolled] at h
  case some => cases h
  case none =>
  rcases host : hostOf (serverOf cs).1 with f | host' <;> rw [serverOf] at host <;>
    simp only [host] at h
  case error => cases h
  case ok =>
  rcases service : serviceOf (spanScheme cs).1 (serverOf cs).2 with f | service' <;>
    rw [serverOf] at service <;> simp only [service] at h
  case error => cases h
  case ok =>
  refine ⟨by omega, rfl, ?_⟩
  split at h
  case isTrue =>
    cases h
    exact ⟨rfl, rfl, rfl⟩
  case isFalse =>
  split at h
  case isTrue => cases h
  case isFalse =>
  split at h <;> cases h
  exact ⟨rfl, rfl, rfl⟩

/-- What stands after the server. -/
def remainder (cs : List Char) : List Char := (spanAuthority (spanScheme cs).2).2

/-- The address of a server, with path, query and fragment read from a text. -/
def withRemainder (a : Address) (cs : List Char) : Address :=
  let more := (spanBefore "?#" cs).2
  { a with
    path := Escape.escaped isPathPlain (normalPath (spanBefore "?#" cs).1)
    query := (after? '?' (spanBefore "#" more).1).map (Escape.escaped isQueryPlain)
    fragment := (after? '#' (spanBefore "#" more).2).map (Escape.escaped isFragmentPlain) }

/-- The server that a text names, once host and service are known. -/
def serverAddress (cs host : List Char) (service : Option Int) : Address where
  scheme := (spanScheme cs).1.map Char.toLower
  userinfo := Escape.escaped isUserinfoPlain (spanUserinfo (spanAuthority (spanScheme cs).2).1).1
  host := host
  service := service

theorem ofChars_of_server {cs host : List Char} {service : Option Int}
    (short : cs.length ≤ lengthLimit) (uncontrolled : control? cs = none)
    (scheme : (spanScheme cs).1 ≠ []) (named : hostOf (serverOf cs).1 = .ok host)
    (numbered : serviceOf (spanScheme cs).1 (serverOf cs).2 = .ok service) :
    ofChars cs = .ok ((serverAddress cs host service).withRemainder (remainder cs)) := by
  rw [serverOf] at named numbered
  simp only [ofChars, bind, Except.bind, pure, Except.pure, throw, throwThe,
    MonadExceptOf.throw, uncontrolled, named, numbered]
  rw [if_neg (by omega), if_pos (by simp [scheme])]
  rfl

theorem ofChars_of_reaches {cs : List Char} (short : cs.length ≤ lengthLimit)
    (uncontrolled : control? cs = none) (h : Reaches cs) :
    ∃ a, ofChars cs = .ok a ∧ a.isAbsolute = true := by
  obtain ⟨scheme, ⟨host, named, nonempty⟩, service, numbered⟩ := h
  refine ⟨_, ofChars_of_server short uncontrolled scheme named numbered, ?_⟩
  simp [isAbsolute, withRemainder, serverAddress, scheme, nonempty]

theorem reaches_of_absolute {cs : List Char} {a : Address} (h : ofChars cs = .ok a)
    (absolute : a.isAbsolute = true) : Reaches cs := by
  obtain ⟨-, -, scheme, host, service⟩ := ofChars_server h
  simp only [isAbsolute, Bool.and_eq_true, Bool.not_eq_true', List.isEmpty_eq_false_iff] at absolute
  refine ⟨fun none => absolute.1 ?_, ⟨_, host, absolute.2⟩, _, service⟩
  rw [scheme, none, List.map_nil]

theorem ofString_of_absolute {url : String} {a : Address} (read : ofChars url.toList = .ok a)
    (absolute : a.isAbsolute = true) : ofString url = .ok a := by
  rw [ofString, read]
  simp [bind, Except.bind, absolute, pure, Except.pure]

theorem ofChars_of_long {cs : List Char} (long : lengthLimit < cs.length) :
    ofChars cs = .error .tooLong := by
  simp [ofChars, long, bind, Except.bind, throw, throwThe, MonadExceptOf.throw]

theorem isPathPlain_iff {c : Char} :
    isPathPlain c = true ↔ (' ' ≤ c ∧ c ≤ '~') ∧
      c ∉ [' ', '"', '#', '<', '>', '?', '`', '\x7b', '\x7d'] := by
  simp only [isPathPlain, isQueryPlain, isPlainExcept]
  simp
  tauto

/-- What follows a base: nothing, or a slash and then printable characters of ASCII. -/
structure Below (tail : List Char) : Prop where
  slash : ∀ c ∈ tail.head?, c = '/'
  printable : ∀ c ∈ tail, ' ' ≤ c ∧ c ≤ '~'

variable {tail : List Char}

theorem control?_eq_none_iff (cs : List Char) :
    control? cs = none ↔ ∀ c ∈ cs, ' ' ≤ c ∧ c ≠ '\x7f' := by
  rw [control?, List.find?_eq_none]
  constructor
  · intro h c member
    obtain ⟨i, lt, rfl⟩ := List.getElem_of_mem member
    have := h (cs[i], i) (by simp [List.mem_zipIdx_iff_getElem?, lt])
    simpa using this
  · rintro h ⟨c, i⟩ member
    simpa using h c (List.fst_mem_of_mem_zipIdx member)

theorem control?_append (below : Below tail) {cs : List Char} (h : control? cs = none) :
    control? (cs ++ tail) = none := by
  rw [control?_eq_none_iff] at h ⊢
  intro c member
  rcases List.mem_append.mp member with inBase | inTail
  · exact h c inBase
  · obtain ⟨least, greatest⟩ := below.printable c inTail
    refine ⟨least, ?_⟩
    rintro rfl
    exact absurd greatest (by decide)

theorem spanScheme_append (below : Below tail) {cs : List Char} (h : (spanScheme cs).1 ≠ []) :
    spanScheme (cs ++ tail) = ((spanScheme cs).1, (spanScheme cs).2 ++ tail) := by
  unfold spanScheme at h ⊢
  dsimp only at h ⊢
  rw [span_append_of_stop (by rintro c member; rw [below.slash c member]; rfl)]
  split at h
  case h_2 => exact absurd rfl h
  case h_1 scheme rest cut =>
    rw [cut]
    split at h
    case isTrue named => simp only [List.cons_append, named, if_true]
    case isFalse => exact absurd rfl h

theorem spanAuthority_append (below : Below tail) {cs : List Char} (h : (spanAuthority cs).1 ≠ []) :
    spanAuthority (cs ++ tail) = ((spanAuthority cs).1, (spanAuthority cs).2 ++ tail) := by
  unfold spanAuthority at h
  split at h
  case h_1 rest =>
    have stop : ∀ c ∈ tail.head?, (!"/?#".contains c) = false := by
      rintro c member
      simp [below.slash c member]
    exact span_append_of_stop stop rest
  case h_2 => exact absurd rfl h

theorem authority_ne_nil {cs : List Char} (h : Reaches cs) :
    (spanAuthority (spanScheme cs).2).1 ≠ [] := by
  intro none
  obtain ⟨host, named, nonempty⟩ := h.host
  rw [serverOf, none] at named
  exact nonempty (Except.ok.inj named).symm

theorem spanServer_append (below : Below tail) {cs : List Char} (h : Reaches cs) :
    spanAuthority (spanScheme (cs ++ tail)).2 =
      ((spanAuthority (spanScheme cs).2).1, remainder cs ++ tail) := by
  rw [spanScheme_append below h.scheme]
  exact spanAuthority_append below (authority_ne_nil h)

theorem serverOf_append (below : Below tail) {cs : List Char} (h : Reaches cs) :
    serverOf (cs ++ tail) = serverOf cs := by
  rw [serverOf, spanServer_append below h]
  rfl

theorem reaches_append (below : Below tail) {cs : List Char} (h : Reaches cs) :
    Reaches (cs ++ tail) := by
  constructor
  · rw [spanScheme_append below h.scheme]
    exact h.scheme
  · rw [serverOf_append below h]
    exact h.host
  · rw [spanScheme_append below h.scheme, serverOf_append below h]
    exact h.service

end Address

namespace Url

theorem plain_of_unreserved {c : Char} (h : Escape.isUnreserved c = true) :
    Address.isPathPlain c = true := by
  have range := Escape.unreserved_range h
  simp only [List.mem_cons, List.not_mem_nil, or_false] at range
  rw [Address.isPathPlain_iff]
  refine ⟨?_, ?_⟩
  · simp only [Char.le_def, UInt32.le_iff_toNat_le]
    have : 32 ≤ c.toNat ∧ c.toNat ≤ 126 := by omega
    exact this
  · intro member
    simp only [List.mem_cons, List.not_mem_nil, or_false] at member
    rcases member with rfl | rfl | rfl | rfl | rfl | rfl | rfl | rfl | rfl <;> simp at range

/-- Nothing in the path of segments would be encoded again. -/
theorem path_plain (segments : List String) :
    ∀ c ∈ path segments, Address.isPathPlain c = true := by
  intro c member
  rcases mem_path member with rfl | ⟨s, -, inSegment⟩
  · rw [Address.isPathPlain_iff]
    decide
  rcases mem_encodeSegment inSegment with unreserved | rfl
  · exact plain_of_unreserved unreserved
  · rw [Address.isPathPlain_iff]
    decide

theorem path_below (segments : List String) : Address.Below (path segments) where
  slash := by
    by_cases empty : segments = [] ∨ segments = [""]
    · simp [path_of_empty empty]
    · simp [path_of_nonempty empty]
  printable c member := (Address.isPathPlain_iff.mp (path_plain segments c member)).1

theorem length_le_encodeSegment (s : String) : s.length ≤ (encodeSegment s).length := by
  have written (o : UInt8) : 1 ≤ (encodeOctet o).length := by
    rcases encodeOctet_cases o with ⟨c, single, -⟩ | digits
    · rw [single]
      exact Nat.le_refl 1
    · rw [digits]
      simp
  rw [encodeSegment, String.length_ofList]
  refine Nat.le_trans (Octets.length_le_ofString s) ?_
  induction Octets.ofString s with
  | nil => exact Nat.zero_le _
  | cons o os ih =>
    have first := written o
    rw [List.flatMap_cons, List.length_append, List.length_cons]
    omega

/-- An address is no shorter than the first of its segments. -/
theorem length_le_below (base s : String) (rest : List String) :
    s.length ≤ (below base (s :: rest)).length := by
  have first : s.length ≤ ("/".intercalate ((s :: rest).map encodeSegment)).length := by
    refine Nat.le_trans (length_le_encodeSegment s) ?_
    rw [← String.length_toList, ← String.length_toList, String.toList_intercalate]
    rcases rest with _ | ⟨t, rest⟩
    · simp
    · simp only [List.map_cons, List.intercalate_cons_cons, List.length_append]
      omega
  unfold below
  dsimp only
  split
  case isTrue none =>
    rw [none] at first
    exact Nat.le_trans first (Nat.zero_le _)
  case isFalse =>
    simp only [String.length_append]
    omega

end Url

/-- The base of a client is the address of a server. -/
def Client.Usable (c : Client) : Prop :=
  ∃ a, Address.ofChars (c.baseUrl ++ "/xfeatures").toList = .ok a ∧ a.isAbsolute = true

namespace Endpoint

/-- Below the address of a server every operation can be asked for, as long as its address is not
too long. -/
theorem address_of_short {c : Client} (usable : c.Usable) {e : Endpoint}
    (short : (e.url c.baseUrl).length ≤ Address.lengthLimit) :
    ∃ a, Address.ofString (e.url c.baseUrl) = .ok a ∧ a.isAbsolute = true := by
  obtain ⟨base, known, absolute⟩ := usable
  have parts := Url.below_toList (c.baseUrl ++ "/xfeatures") e.segments
  have below := Url.path_below e.segments
  obtain ⟨-, uncontrolled, -⟩ := Address.ofChars_server known
  obtain ⟨a, read, absolute⟩ := Address.ofChars_of_reaches
    (by rw [← parts, String.length_toList]; exact short)
    (Address.control?_append below uncontrolled)
    (Address.reaches_append below (Address.reaches_of_absolute known absolute))
  rw [← parts] at read
  exact ⟨a, Address.ofString_of_absolute read absolute, absolute⟩

theorem address_of_long {base : String} {e : Endpoint}
    (long : Address.lengthLimit < (e.url base).length) :
    Address.ofString (e.url base) = .error .tooLong := by
  rw [Address.ofString, Address.ofChars_of_long (by rw [String.length_toList]; exact long)]
  rfl

end Endpoint
end FeatureSpec
