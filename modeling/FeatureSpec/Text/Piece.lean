/-!
Texts in pieces, between the occurrences of one character.
-/
namespace FeatureSpec.Text

def pieces (c : Char) (s : String) : List String := (s.toList.splitOn c).map String.ofList

theorem not_mem_of_mem_splitOn {c : Char} {cs piece : List Char} (h : piece ∈ cs.splitOn c) :
    c ∉ piece := by
  induction cs generalizing piece with
  | nil =>
    obtain rfl : piece = [] := by simpa using h
    exact List.not_mem_nil
  | cons d cs ih =>
    rw [List.splitOn_cons_eq_if_modifyHead] at h
    by_cases same : d = c
    · rw [if_pos (by simpa using same)] at h
      rcases List.mem_cons.mp h with rfl | later
      · exact List.not_mem_nil
      · exact ih later
    · rw [if_neg (by simpa using same)] at h
      rcases split : cs.splitOn c with _ | ⟨first, rest⟩
      · exact absurd split (List.splitOn_ne_nil c cs)
      rw [split] at h ih
      rcases List.mem_cons.mp h with rfl | later
      · have clean : c ∉ first := ih List.mem_cons_self
        simpa [Ne.symm same] using clean
      · exact ih (List.mem_cons_of_mem _ later)

theorem eq_pieces_iff {c : Char} {s : String} {ps : List String} :
    ps = pieces c s ↔
      ps ≠ [] ∧ (∀ p ∈ ps, c ∉ p.toList) ∧ (String.singleton c).intercalate ps = s := by
  constructor
  · rintro rfl
    refine ⟨by simp [pieces], ?_, ?_⟩
    · intro p member
      obtain ⟨piece, split, rfl⟩ := List.mem_map.mp member
      rw [String.toList_ofList]
      exact not_mem_of_mem_splitOn split
    · apply String.toList_injective
      simp [pieces, String.toList_intercalate, List.intercalate_splitOn, Function.comp_def]
  · rintro ⟨some, clean, rfl⟩
    have split : (((String.singleton c).intercalate ps).toList).splitOn c = ps.map String.toList := by
      rw [String.toList_intercalate, String.toList_singleton]
      refine List.splitOn_intercalate c ?_ (by simpa using some)
      intro l member
      obtain ⟨p, among, rfl⟩ := List.mem_map.mp member
      exact clean p among
    rw [pieces, split, List.map_map]
    simp [Function.comp_def]

end FeatureSpec.Text
