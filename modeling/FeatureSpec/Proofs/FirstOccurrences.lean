import FeatureSpec.Entries
import Mathlib.Data.List.Induction
import Mathlib.Data.List.Nodup
/-!
Lists in the order of first occurrence. Keys of maps and reports on repeated ids stand in it.
-/
namespace FeatureSpec

/-- `ys` has the elements of `xs` that satisfy `p`, each once, in the order in which they first
occur in `xs`. -/
structure FirstOccurrences (p : String → Prop) (xs ys : List String) : Prop where
  mem : ∀ x, x ∈ ys ↔ x ∈ xs ∧ p x
  ordered : ys.Pairwise fun a b => xs.idxOf a < xs.idxOf b

namespace FirstOccurrences

variable {p : String → Prop} {xs ys : List String}

theorem nodup (h : FirstOccurrences p xs ys) : ys.Nodup :=
  h.ordered.imp fun before same => by
    rw [same] at before
    exact Nat.lt_irrefl _ before

theorem ordered_append (h : FirstOccurrences p xs ys) (zs : List String) :
    ys.Pairwise fun a b => (xs ++ zs).idxOf a < (xs ++ zs).idxOf b := by
  refine h.ordered.imp_of_mem fun ha hb before => ?_
  have left := ((h.mem _).mp ha).1
  have right := ((h.mem _).mp hb).1
  rw [List.idxOf_append_of_mem left, List.idxOf_append_of_mem right]
  exact before

end FirstOccurrences

theorem eraseDups_snoc (xs : List String) (x : String) :
    (xs ++ [x]).eraseDups = if x ∈ xs then xs.eraseDups else xs.eraseDups ++ [x] := by
  rw [List.eraseDups_append]
  by_cases known : x ∈ xs
  · simp [List.removeAll, known]
  · simp [List.removeAll, known, List.eraseDups_cons]

theorem firstOccurrences_eraseDups (xs : List String) :
    FirstOccurrences (fun _ => True) xs xs.eraseDups := by
  refine ⟨fun x => by simp, ?_⟩
  induction xs using List.reverseRecOn with
  | nil => exact List.Pairwise.nil
  | append_singleton xs x ih =>
    have before : FirstOccurrences (fun _ => True) xs xs.eraseDups := ⟨fun x => by simp, ih⟩
    have kept := before.ordered_append [x]
    rw [eraseDups_snoc]
    split
    case isTrue known => exact kept
    case isFalse fresh =>
      refine List.pairwise_append.mpr ⟨kept, List.pairwise_singleton _ _, ?_⟩
      intro a ha b hb
      obtain rfl : b = x := by simpa using hb
      have old : a ∈ xs := List.mem_eraseDups.mp ha
      have early : xs.idxOf a < xs.length := List.idxOf_lt_length_iff.mpr old
      rw [List.idxOf_append_of_mem old, List.idxOf_append_of_notMem fresh]
      omega

/-- A part of the elements that is chosen one by one keeps their order. -/
theorem firstOccurrences_filter (xs : List String) (q : String → Bool) :
    FirstOccurrences (fun x => q x = true) xs (xs.eraseDups.filter q) where
  mem := by simp
  ordered := (firstOccurrences_eraseDups xs).ordered.filter q

namespace Entries

variable {α : Type}

/-- A list of entries makes a map with the keys in the order of first occurrence. -/
theorem keys_ofList (kvs : List (String × α)) :
    (ofList kvs).keys = (kvs.map Prod.fst).eraseDups := by
  induction kvs using List.reverseRecOn with
  | nil => rfl
  | append_singleton kvs kv ih =>
    have last : ofList (kvs ++ [kv]) = (ofList kvs).put kv.1 kv.2 := by
      simp [ofList, List.foldl_append]
    rw [last, keys_put, ih, List.map_append, List.map_singleton, eraseDups_snoc]
    simp only [List.mem_eraseDups]

/-- Every key of a map without repeated keys finds the value beside it. -/
theorem map_get?_keys {m : Entries α} (distinct : m.keys.Nodup) :
    m.keys.map m.get? = m.values.map some := by
  induction m with
  | nil => rfl
  | cons e rest ih =>
    obtain ⟨k, v⟩ := e
    obtain ⟨fresh, distinct⟩ := List.nodup_cons.mp distinct
    have later : (keys rest).map (get? ((k, v) :: rest)) = (keys rest).map (get? rest) := by
      refine List.map_congr_left fun key member => ?_
      have other : k ≠ key := fun same => fresh (same ▸ member)
      simp [get?, other]
    calc (keys ((k, v) :: rest)).map (get? ((k, v) :: rest))
        = some v :: (keys rest).map (get? ((k, v) :: rest)) := by simp [keys, get?]
      _ = some v :: (values rest).map some := by rw [later, ih distinct]
      _ = (values ((k, v) :: rest)).map some := by simp [values]

theorem mem_of_get? {m : Entries α} {key : String} {v : α} (found : m.get? key = some v) :
    (key, v) ∈ m := by
  induction m with
  | nil => cases found
  | cons e rest ih =>
    obtain ⟨k, w⟩ := e
    unfold get? at found
    split at found
    · rename_i same
      cases found
      exact same ▸ List.mem_cons_self
    · exact List.mem_cons_of_mem _ (ih found)

theorem get?_eq_some_iff {m : Entries α} (distinct : m.keys.Nodup) {key : String} {v : α} :
    m.get? key = some v ↔ (key, v) ∈ m := by
  induction m with
  | nil => simp [get?]
  | cons e rest ih =>
    obtain ⟨k, w⟩ := e
    obtain ⟨fresh, distinct⟩ := List.nodup_cons.mp distinct
    by_cases same : k = key
    · have absent : (key, v) ∉ rest := by
        intro member
        have known : key ∈ rest.map Prod.fst := List.mem_map_of_mem member
        exact fresh (same ▸ known)
      simp [get?, same, absent, eq_comm]
    · simp [get?, same, Ne.symm same, ih distinct]

theorem isSome_get? (m : Entries α) (key : String) : (m.get? key).isSome ↔ key ∈ m.keys := by
  induction m with
  | nil => simp [get?, keys]
  | cons e rest ih =>
    obtain ⟨k, v⟩ := e
    by_cases same : k = key
    · simp [get?, keys, same]
    · simpa [get?, keys, same, Ne.symm same] using ih

end Entries
end FeatureSpec
