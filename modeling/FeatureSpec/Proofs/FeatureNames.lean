import FeatureSpec.Proofs.Spans
import FeatureSpec.SpecDirectory
/-!
The names of feature files. A name is cut at its last dot into a stem and a suffix, and a file is a
feature's if something stands before a suffix of the right letters, be they capital or small.
-/
namespace FeatureSpec

namespace Text

theorem eq_of_toLower_eq {c d : Char} (h : c.toLower = d) :
    c = d ∨ 65 ≤ c.toNat ∧ c.toNat + 32 = d.toNat := by
  unfold Char.toLower at h
  split at h
  case isFalse => exact .inl h
  case isTrue capital =>
    obtain ⟨above, below⟩ := capital
    have low : 65 ≤ c.val.toNat := above
    have high : c.val.toNat ≤ 90 := below
    have moved : (c.val + ('a'.val - 'A'.val)).toNat = c.val.toNat + 32 := by
      rw [UInt32.toNat_add, show ('a'.val - 'A'.val : UInt32).toNat = 32 from rfl]
      omega
    subst h
    exact .inr ⟨low, moved.symm⟩

/-- A character that no other character has in its lower case comes from one of its own cases. -/
theorem of_lower_cons {cs ds : List Char} {d : Char} (plain : d ≠ 'i' ∧ d ≠ 'k')
    (h : cs.flatMap lowerChar = d :: ds) :
    ∃ c rest, cs = c :: rest ∧ c.toLower = d ∧ rest.flatMap lowerChar = ds := by
  cases cs with
  | nil => cases h
  | cons c rest =>
    rw [List.flatMap_cons] at h
    unfold lowerChar at h
    split at h
    · exact absurd (List.cons.inj h).1.symm plain.1
    split at h
    · exact absurd (List.cons.inj h).1.symm plain.2
    · exact ⟨c, rest, rfl, List.cons.inj h⟩

theorem of_toLower_letter {c d : Char} (capital : Char) (h : c.toLower = d)
    (case : capital.toNat + 32 = d.toNat) : c = capital ∨ c = d := by
  rcases eq_of_toLower_eq h with same | ⟨-, moved⟩
  · exact .inr same
  · exact .inl (Char.toNat_inj.mp (by omega))

theorem lowerChar_ne_nil (c : Char) : lowerChar c ≠ [] := by
  unfold lowerChar
  split
  · simp
  split <;> simp

theorem eq_nil_of_lower {cs : List Char} (h : cs.flatMap lowerChar = []) : cs = [] := by
  cases cs with
  | nil => rfl
  | cons c rest =>
    rw [List.flatMap_cons] at h
    exact absurd (List.append_eq_nil_iff.mp h).1 (lowerChar_ne_nil c)

end Text

namespace Path

/-- A dot that stands between a stem and some characters without another dot cuts a name. -/
theorem splitName_append {stem ext : List Char} (named : stem ≠ []) (extended : ext ≠ [])
    (dotless : '.' ∉ ext) :
    splitName (String.ofList (stem ++ '.' :: ext)) =
      (String.ofList stem, String.ofList ('.' :: ext)) := by
  have all : ∀ c ∈ ext.reverse, (c != '.') = true := by
    intro c member
    have other : c ≠ '.' := fun same => dotless (same ▸ List.mem_reverse.mp member)
    simpa using other
  have stop : ∀ c ∈ ('.' :: stem.reverse).head?, (c != '.') = false := by
    rintro c ⟨⟩
    rfl
  -- The name is cut from its end, so everything is read backwards.
  have backward : (stem ++ '.' :: ext).reverse = ext.reverse ++ '.' :: stem.reverse := by simp
  obtain ⟨e, es, lastFirst⟩ := List.exists_cons_of_ne_nil (mt List.reverse_eq_nil_iff.mp extended)
  obtain ⟨c, cs, before⟩ := List.exists_cons_of_ne_nil (mt List.reverse_eq_nil_iff.mp named)
  have front : stem = (c :: cs).reverse := by rw [← before, List.reverse_reverse]
  have back : ext = (e :: es).reverse := by rw [← lastFirst, List.reverse_reverse]
  have cut := span_append_of_all all stop
  rw [lastFirst, before] at cut
  rw [splitName, String.toList_ofList, backward, lastFirst, before, cut]
  dsimp only
  rw [← front, ← back]

/-- What a name is cut into: itself and nothing, or what stands before the last dot, and the rest
of the name from there. -/
theorem splitName_cases (name : String) :
    splitName name = (name, "") ∨ ∃ stem ext : List Char, stem ≠ [] ∧ ext ≠ [] ∧ '.' ∉ ext ∧
      name = String.ofList (stem ++ '.' :: ext) := by
  have whole := List.takeWhile_append_dropWhile (p := (· != '.')) (l := name.toList.reverse)
  have dotless : ∀ c ∈ name.toList.reverse.takeWhile (· != '.'), c ≠ '.' := by
    intro c member
    simpa using List.all_eq_true.mp List.all_takeWhile c member
  unfold splitName
  rw [List.span_eq_takeWhile_dropWhile]
  dsimp only
  split
  case h_2 => exact .inl rfl
  case h_1 e es d c cs taken dropped =>
    have dot : d = '.' := by
      have stopped := List.head?_dropWhile_not (· != '.') name.toList.reverse
      rw [dropped] at stopped
      simpa using stopped
    refine .inr ⟨(c :: cs).reverse, (e :: es).reverse, by simp, by simp, ?_, ?_⟩
    · rw [taken] at dotless
      exact fun member => dotless '.' (List.mem_reverse.mp member) rfl
    · apply String.toList_injective
      rw [taken, dropped, dot] at whole
      have forward := congrArg List.reverse whole
      rw [List.reverse_reverse] at forward
      rw [String.toList_ofList, ← forward]
      simp

end Path

namespace SpecDirectory

def spellings : List String :=
  [".xml", ".xmL", ".xMl", ".xML", ".Xml", ".XmL", ".XMl", ".XML"]

theorem lower_eq_suffix_iff (s : String) : Text.lower s = suffix ↔ s ∈ spellings := by
  constructor
  · intro lowered
    have chars : s.toList.flatMap Text.lowerChar = ['.', 'x', 'm', 'l'] := by
      have same := congrArg String.toList lowered
      rwa [Text.lower, String.toList_ofList] at same
    obtain ⟨dot, one, spelled, isDot, chars⟩ := Text.of_lower_cons (by decide) chars
    obtain ⟨x, two, rfl, isX, chars⟩ := Text.of_lower_cons (by decide) chars
    obtain ⟨m, three, rfl, isM, chars⟩ := Text.of_lower_cons (by decide) chars
    obtain ⟨l, four, rfl, isL, chars⟩ := Text.of_lower_cons (by decide) chars
    -- No capital letter is 32 below the dot.
    have dotted : dot = '.' := by
      rcases Text.eq_of_toLower_eq isDot with same | ⟨capital, moved⟩
      · exact same
      · have small : '.'.toNat = 46 := rfl
        omega
    have text : s = String.ofList ['.', x, m, l] := by
      apply String.toList_injective
      rw [String.toList_ofList, spelled, dotted, Text.eq_nil_of_lower chars]
    rw [text]
    rcases Text.of_toLower_letter 'X' isX rfl with rfl | rfl <;>
    rcases Text.of_toLower_letter 'M' isM rfl with rfl | rfl <;>
    rcases Text.of_toLower_letter 'L' isL rfl with rfl | rfl <;>
    decide
  · have all : ∀ s ∈ spellings, Text.lower s = suffix := by decide
    exact all s

theorem splitName_spelled {stem s : String} (named : stem ≠ "") (spelled : s ∈ spellings) :
    Path.splitName (stem ++ s) = (stem, s) := by
  have all : ∀ s ∈ spellings, ∃ ext : List Char, ext ≠ [] ∧ '.' ∉ ext ∧
      s = String.ofList ('.' :: ext) := by
    simp only [spellings, List.forall_mem_cons]
    refine ⟨⟨['x', 'm', 'l'], ?_⟩, ⟨['x', 'm', 'L'], ?_⟩, ⟨['x', 'M', 'l'], ?_⟩,
      ⟨['x', 'M', 'L'], ?_⟩, ⟨['X', 'm', 'l'], ?_⟩, ⟨['X', 'm', 'L'], ?_⟩, ⟨['X', 'M', 'l'], ?_⟩,
      ⟨['X', 'M', 'L'], ?_⟩, List.forall_mem_nil _⟩ <;> decide
  obtain ⟨ext, extended, dotless, rfl⟩ := all s spelled
  have nonempty : stem.toList ≠ [] := mt String.toList_eq_nil_iff.mp named
  have cut := Path.splitName_append nonempty extended dotless
  rw [String.ofList_append, String.ofList_toList] at cut
  exact cut

theorem stem_spelled {stem s : String} (named : stem ≠ "") (spelled : s ∈ spellings) :
    Path.stem (stem ++ s) = stem := by
  rw [Path.stem, splitName_spelled named spelled]

/-- The names of feature files are stems with the suffix after them, in capital or small letters. -/
theorem isFeatureName_iff (name : String) :
    isFeatureName name = true ↔ ∃ stem ≠ "", ∃ s ∈ spellings, name = stem ++ s := by
  rw [isFeatureName, beq_iff_eq, lower_eq_suffix_iff]
  constructor
  · intro spelled
    rcases Path.splitName_cases name with whole | ⟨stem, ext, named, extended, dotless, rfl⟩
    · rw [Path.suffix, whole] at spelled
      have nothing : "" ∉ spellings := by decide
      exact absurd spelled nothing
    · rw [Path.suffix, Path.splitName_append named extended dotless] at spelled
      refine ⟨String.ofList stem, ?_, _, spelled, String.ofList_append⟩
      intro empty
      exact named (String.ofList_injective empty)
  · rintro ⟨stem, named, s, spelled, rfl⟩
    rw [Path.suffix, splitName_spelled named spelled]
    exact spelled

end SpecDirectory
end FeatureSpec
