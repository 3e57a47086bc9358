import Mathlib.Data.List.TakeDrop
/-!
Where a text is cut that is put together of two.
-/
namespace FeatureSpec

variable {p : Char → Bool} {tail : List Char}

theorem takeWhile_dropWhile_of_stop (stop : ∀ c ∈ tail.head?, p c = false) :
    tail.takeWhile p = [] ∧ tail.dropWhile p = tail := by
  cases tail with
  | nil => exact ⟨rfl, rfl⟩
  | cons c rest =>
    have cut : ¬p c = true := by simp [stop c rfl]
    exact ⟨List.takeWhile_cons_of_neg cut, List.dropWhile_cons_of_neg cut⟩

theorem span_append_of_stop (stop : ∀ c ∈ tail.head?, p c = false) (cs : List Char) :
    (cs ++ tail).span p = ((cs.span p).1, (cs.span p).2 ++ tail) := by
  obtain ⟨kept, dropped⟩ := takeWhile_dropWhile_of_stop stop
  induction cs with
  | nil => simp [kept, dropped]
  | cons c cs ih =>
    simp only [List.span_eq_takeWhile_dropWhile, Prod.mk.injEq, List.cons_append] at ih ⊢
    cases h : p c <;> simp [h, ih]

theorem span_append_of_cut {cs : List Char} (cut : (cs.span p).2 ≠ []) (tail : List Char) :
    (cs ++ tail).span p = ((cs.span p).1, (cs.span p).2 ++ tail) := by
  induction cs with
  | nil => exact absurd rfl cut
  | cons c cs ih =>
    simp only [List.span_eq_takeWhile_dropWhile, Prod.mk.injEq, List.cons_append] at cut ih ⊢
    by_cases kept : p c = true
    · rw [List.dropWhile_cons_of_pos kept] at cut
      simp [kept, ih cut]
    · simp [kept]

theorem span_append_of_all {cs : List Char} (all : ∀ c ∈ cs, p c = true)
    (stop : ∀ c ∈ tail.head?, p c = false) : (cs ++ tail).span p = (cs, tail) := by
  obtain ⟨kept, dropped⟩ := takeWhile_dropWhile_of_stop stop
  rw [List.span_eq_takeWhile_dropWhile, List.takeWhile_append_of_pos all,
    List.dropWhile_append_of_pos all, kept, dropped, List.append_nil]

end FeatureSpec
