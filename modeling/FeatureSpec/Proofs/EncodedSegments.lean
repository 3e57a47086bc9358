import FeatureSpec.Backend.Url
import Mathlib.Logic.Function.Basic
/-!
Percent-encoded segments are read back. An octet is written in one of two ways, each of which is
told by its first character; so the octets of a segment are read one after the other, and with
them the text that they encode. No segment holds a slash, and so the segments of a path are told
apart as well.
-/
namespace FeatureSpec

theorem mem_of_mem_intercalate {sign c : Char} {pieces : List (List Char)}
    (h : c ∈ [sign].intercalate pieces) : (∃ cs ∈ pieces, c ∈ cs) ∨ c = sign := by
  induction pieces with
  | nil => cases h
  | cons cs rest ih =>
    rcases rest with _ | ⟨ds, rest⟩
    · rw [List.intercalate_singleton] at h
      exact .inl ⟨cs, List.mem_cons_self, h⟩
    · rw [List.intercalate_cons_cons, List.append_assoc, List.mem_append] at h
      rcases h with inFirst | later
      · exact .inl ⟨cs, List.mem_cons_self, inFirst⟩
      rcases List.mem_cons.mp later with joins | inRest
      · exact .inr joins
      · exact (ih inRest).imp_left fun ⟨ds, member, inPiece⟩ =>
          ⟨ds, List.mem_cons_of_mem _ member, inPiece⟩

namespace Octets

theorem toList_loop (os : ByteArray) (i : Nat) (read : List UInt8) :
    ByteArray.toList.loop os i read = read.reverse ++ os.data.toList.drop i := by
  fun_induction ByteArray.toList.loop os i read with
  | case1 i read lt ih =>
    have bound : i < os.data.toList.length := lt
    have head : os.get! i = os.data.toList[i] := getElem!_pos os.data i lt
    rw [ih, List.reverse_cons, List.append_assoc, head, List.drop_eq_getElem_cons bound]
    rfl
  | case2 i read ge =>
    have none : os.data.toList.length ≤ i := Nat.le_of_not_lt ge
    rw [List.drop_of_length_le none, List.append_nil]

theorem ofString_eq (s : String) : ofString s = s.toByteArray.data.toList := by
  rw [ofString, ByteArray.toList, toList_loop]
  rfl

theorem utf8?_ofString (s : String) : utf8? (ofString s) = some s := by
  have same : (⟨(ofString s).toArray⟩ : ByteArray) = s.toByteArray := by
    rw [ofString_eq]
  rw [utf8?, same, String.fromUTF8?, dif_pos s.isValidUTF8]
  rfl

end Octets

namespace Escape

theorem unreserved_range {c : Char} (h : isUnreserved c = true) :
    (48 ≤ c.toNat ∧ c.toNat ≤ 57) ∨ (65 ≤ c.toNat ∧ c.toNat ≤ 90) ∨
      (97 ≤ c.toNat ∧ c.toNat ≤ 122) ∨ c.toNat ∈ [45, 46, 95, 126] := by
  have between {low high : Char} (h : c.val ≥ low.val ∧ c.val ≤ high.val) :
      low.toNat ≤ c.toNat ∧ c.toNat ≤ high.toNat := by
    simpa [UInt32.le_iff_toNat_le] using h
  have bounds {low high : Char}
      (h : (decide (c.val ≥ low.val) && decide (c.val ≤ high.val)) = true) :
      low.toNat ≤ c.toNat ∧ c.toNat ≤ high.toNat := by
    apply between
    simpa using h
  simp only [isUnreserved, Bool.or_eq_true, beq_iff_eq] at h
  rcases h with (((alphanumeric | rfl) | rfl) | rfl) | rfl
  case inr | inl.inr | inl.inl.inr | inl.inl.inl.inr => simp
  rcases Bool.or_eq_true_iff.mp alphanumeric with letter | digit
  · rcases Bool.or_eq_true_iff.mp letter with capital | small
    · exact .inr (.inl (between (of_decide_eq_true capital)))
    · exact .inr (.inr (.inl (bounds small)))
  · exact .inl (bounds digit)

end Escape

namespace Url

/-- The octets that a percent-encoded text stands for. A character outside of ASCII stands for
none, nor does a percent sign without two hexadecimal digits behind it. -/
def decodeOctets? : List Char → Option Octets
  | [] => some []
  | '%' :: high :: low :: rest => do
    let octet := UInt8.ofNat (Text.ofDigits 16 [← Text.hexDigit? high, ← Text.hexDigit? low])
    return octet :: (← decodeOctets? rest)
  | c :: rest =>
    if c = '%' ∨ 127 < c.toNat then none
    else (decodeOctets? rest).map (UInt8.ofNat c.toNat :: ·)

def decodeSegment? (cs : List Char) : Option String := (decodeOctets? cs).bind Octets.utf8?

theorem hexDigit?_upper {d : Nat} (small : d < 16) :
    Text.hexDigit? (Text.hexChar d).toUpper = some d := by
  have all : ∀ d : Fin 16, Text.hexDigit? (Text.hexChar d).toUpper = some d.val := by decide
  exact all ⟨d, small⟩

theorem toNat_octet (o : UInt8) : (Char.ofNat o.toNat).toNat = o.toNat := by
  have bound := o.toNat_lt
  have valid : o.toNat.isValidChar := .inl (by omega)
  rw [Char.ofNat, dif_pos valid]
  rfl

theorem encodeOctet_cases (o : UInt8) :
    (∃ c, encodeOctet o = [c] ∧ Escape.isUnreserved c = true ∧ c.toNat = o.toNat) ∨
    encodeOctet o = ['%', (Text.hexChar (o.toNat / 16 % 16)).toUpper,
      (Text.hexChar (o.toNat % 16)).toUpper] := by
  unfold encodeOctet
  dsimp only
  split
  case isTrue unreserved =>
    exact .inl ⟨_, rfl, unreserved, toNat_octet o⟩
  case isFalse =>
    exact .inr rfl

theorem mem_encodeOctet {o : UInt8} {c : Char} (h : c ∈ encodeOctet o) :
    Escape.isUnreserved c = true ∨ c = '%' := by
  have digit : ∀ d : Fin 16, Escape.isUnreserved (Text.hexChar d).toUpper = true := by decide
  have bounded : ∀ n : Nat, n % 16 < 16 := fun n => Nat.mod_lt n (by decide)
  rcases encodeOctet_cases o with ⟨d, written, unreserved, -⟩ | written <;> rw [written] at h
  · obtain rfl := List.mem_singleton.mp h
    exact .inl unreserved
  · simp only [List.mem_cons, List.not_mem_nil, or_false] at h
    rcases h with rfl | rfl | rfl
    · exact .inr rfl
    · exact .inl (digit ⟨_, bounded _⟩)
    · exact .inl (digit ⟨_, bounded _⟩)

theorem decodeOctets?_encodeOctet (o : UInt8) (rest : List Char) :
    decodeOctets? (encodeOctet o ++ rest) = (decodeOctets? rest).map (o :: ·) := by
  rcases encodeOctet_cases o with ⟨c, written, unreserved, same⟩ | written
  -- A percent sign is reserved, so a character of its own is not taken for an escape.
  · have ordinary : c ≠ '%' := by
      rintro rfl
      cases unreserved
    have ascii : ¬127 < c.toNat := by
      have range := Escape.unreserved_range unreserved
      simp only [List.mem_cons, List.not_mem_nil, or_false] at range
      omega
    rw [written, List.singleton_append, decodeOctets?, if_neg (by simp [ordinary, ascii]), same,
      UInt8.ofNat_toNat]
    rintro high low rest' rfl
    exact absurd rfl ordinary
  · have first := hexDigit?_upper (Nat.mod_lt (o.toNat / 16) (by decide : 16 > 0))
    have second := hexDigit?_upper (Nat.mod_lt o.toNat (by decide : 16 > 0))
    have whole : Text.ofDigits 16 [o.toNat / 16 % 16, o.toNat % 16] = o.toNat := by
      have bound := o.toNat_lt
      simp only [Text.ofDigits, List.foldl_cons, List.foldl_nil]
      omega
    rw [written]
    simp only [List.cons_append, List.nil_append, decodeOctets?, first, second]
    cases decodeOctets? rest with
    | none => rfl
    | some os =>
      refine congrArg (fun octet => some (octet :: os)) ?_
      rw [whole, UInt8.ofNat_toNat]

theorem decodeOctets?_flatMap (os : Octets) : decodeOctets? (os.flatMap encodeOctet) = some os := by
  induction os with
  | nil => rfl
  | cons o os ih => rw [List.flatMap_cons, decodeOctets?_encodeOctet, ih, Option.map_some]

theorem decodeSegment?_encodeSegment (s : String) :
    decodeSegment? (encodeSegment s).toList = some s := by
  rw [decodeSegment?, encodeSegment, String.toList_ofList, decodeOctets?_flatMap]
  exact Octets.utf8?_ofString s

theorem encodeSegment_injective : Function.Injective encodeSegment := by
  intro s t same
  have read := decodeSegment?_encodeSegment s
  rw [same, decodeSegment?_encodeSegment t] at read
  exact (Option.some.inj read).symm

def path (segments : List String) : List Char := (below "" segments).toList

theorem below_toList (base : String) (segments : List String) :
    (below base segments).toList = base.toList ++ path segments := by
  unfold path below
  dsimp only
  split <;> simp

theorem mem_encodeSegment {s : String} {c : Char} (h : c ∈ (encodeSegment s).toList) :
    Escape.isUnreserved c = true ∨ c = '%' := by
  rw [encodeSegment, String.toList_ofList, List.mem_flatMap] at h
  obtain ⟨o, -, inOctet⟩ := h
  exact mem_encodeOctet inOctet

theorem slash_not_mem_encodeSegment (s : String) : '/' ∉ (encodeSegment s).toList := by
  intro slash
  rcases mem_encodeSegment slash with unreserved | percent
  · cases unreserved
  · cases percent

theorem encodeSegment_eq_empty_iff {s : String} : encodeSegment s = "" ↔ s = "" :=
  encodeSegment_injective.eq_iff' (by simp [encodeSegment, Octets.ofString_eq])

theorem joined_eq_nil_iff (segments : List String) :
    "/".intercalate (segments.map encodeSegment) = "" ↔ segments = [] ∨ segments = [""] := by
  rw [← String.toList_eq_nil_iff, String.toList_intercalate]
  rcases segments with _ | ⟨s, _ | ⟨t, rest⟩⟩
  · simp
  · simp [encodeSegment_eq_empty_iff]
  · simp

theorem path_of_empty {segments : List String} (h : segments = [] ∨ segments = [""]) :
    path segments = [] := by
  rw [path, below, if_pos ((joined_eq_nil_iff segments).mpr h)]
  rfl

theorem path_of_nonempty {segments : List String} (h : ¬(segments = [] ∨ segments = [""])) :
    path segments = '/' :: ['/'].intercalate (segments.map fun s => (encodeSegment s).toList) := by
  have written : "/".intercalate (segments.map encodeSegment) ≠ "" :=
    fun none => h ((joined_eq_nil_iff segments).mp none)
  rw [path, below, if_neg written]
  simp [String.toList_intercalate, Function.comp_def]

theorem mem_path {segments : List String} {c : Char} (h : c ∈ path segments) :
    c = '/' ∨ ∃ s ∈ segments, c ∈ (encodeSegment s).toList := by
  by_cases empty : segments = [] ∨ segments = [""]
  · simp [path_of_empty empty] at h
  · rw [path_of_nonempty empty, List.mem_cons] at h
    rcases h with rfl | inPieces
    · exact .inl rfl
    · obtain ⟨cs, piece, inPiece⟩ | rfl := mem_of_mem_intercalate inPieces
      · obtain ⟨s, member, rfl⟩ := List.mem_map.mp piece
        exact .inr ⟨s, member, inPiece⟩
      · exact .inl rfl

/-- The segments that a path tells: each piece between slashes stands for one. -/
def segmentsOf? : List Char → Option (List String)
  | [] => some []
  | '/' :: pieces => (pieces.splitOn '/').mapM decodeSegment?
  | _ => none

def segmentsBelow? (base url : String) : Option (List String) :=
  if base.toList.isPrefixOf url.toList then segmentsOf? (url.toList.drop base.length) else none

theorem splitOn_joined {segments : List String} (h : segments ≠ []) :
    (['/'].intercalate (segments.map fun s => (encodeSegment s).toList)).splitOn '/' =
      segments.map fun s => (encodeSegment s).toList := by
  have apart : ∀ cs ∈ segments.map fun s => (encodeSegment s).toList, '/' ∉ cs := by
    simpa using fun s _ => slash_not_mem_encodeSegment s
  have several : (segments.map fun s => (encodeSegment s).toList) ≠ [] := by simpa using h
  exact List.splitOn_intercalate '/' apart several

theorem segmentsOf?_path (segments : List String) :
    segmentsOf? (path segments) = some (if segments = [""] then [] else segments) := by
  by_cases empty : segments = [] ∨ segments = [""]
  · rw [path_of_empty empty]
    rcases empty with rfl | rfl <;> rfl
  · rw [path_of_nonempty empty]
    rw [segmentsOf?, splitOn_joined fun none => empty (.inl none),
      if_neg fun one => empty (.inr one)]
    rw [List.mapM_map]
    simp only [Function.comp_def, decodeSegment?_encodeSegment]
    exact List.mapM_pure.trans (by simp)

theorem segmentsBelow?_append (base : String) {url : String} {cs : List Char}
    (h : url.toList = base.toList ++ cs) : segmentsBelow? base url = segmentsOf? cs := by
  have start : base.toList.isPrefixOf (base.toList ++ cs) = true := by simp
  rw [segmentsBelow?, h, if_pos start, ← String.length_toList, List.drop_left]

/-- A dot segment is not encoded. -/
theorem undotted_encodeSegment {s : String} (h : s ≠ "." ∧ s ≠ "..") :
    (encodeSegment s).toList ≠ ['.'] ∧ (encodeSegment s).toList ≠ ['.', '.'] := by
  have one : encodeSegment "." = String.ofList ['.'] := by
    rw [encodeSegment, Octets.ofString_eq]
    rfl
  have two : encodeSegment ".." = String.ofList ['.', '.'] := by
    rw [encodeSegment, Octets.ofString_eq]
    rfl
  constructor
  · intro same
    exact h.1 (encodeSegment_injective (by rw [one, ← same, String.ofList_toList]))
  · intro same
    exact h.2 (encodeSegment_injective (by rw [two, ← same, String.ofList_toList]))

end Url
end FeatureSpec
