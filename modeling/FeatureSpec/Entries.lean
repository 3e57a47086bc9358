/-!
Insertion-ordered maps with text keys, as lists of entries: a new key goes to the end, a known
key keeps its place and takes the new value.
-/
namespace FeatureSpec

abbrev Entries (α : Type) := List (String × α)

namespace Entries

variable {α β : Type}

def get? : Entries α → String → Option α
  | [], _ => none
  | (k, v) :: rest, key => if k = key then some v else get? rest key

def contains (m : Entries α) (key : String) : Bool := (m.get? key).isSome

def put : Entries α → String → α → Entries α
  | [], key, v => [(key, v)]
  | (k, w) :: rest, key, v => if k = key then (k, v) :: rest else (k, w) :: put rest key v

def erase : Entries α → String → Entries α
  | [], _ => []
  | (k, v) :: rest, key => if k = key then erase rest key else (k, v) :: erase rest key

def keys (m : Entries α) : List String := m.map Prod.fst

def values (m : Entries α) : List α := m.map Prod.snd

/-- The entries of a list in order, a later one replacing an earlier one of the same key. -/
def ofList (kvs : List (String × α)) : Entries α :=
  kvs.foldl (fun m kv => put m kv.1 kv.2) []

def merge (m n : Entries α) : Entries α := n.foldl (fun m kv => put m kv.1 kv.2) m

theorem get?_put (m : Entries α) (k key : String) (v : α) :
    (m.put k v).get? key = if k = key then some v else m.get? key := by
  induction m with
  | nil => simp [put, get?]
  | cons e rest ih =>
    obtain ⟨k', w⟩ := e
    by_cases h : k' = k
    · subst h
      by_cases h' : k' = key <;> simp [put, get?, h']
    · by_cases h' : k' = key
      · subst h'
        simp [put, get?, h, Ne.symm h]
      · simp [put, get?, h, h', ih]

theorem keys_put (m : Entries α) (key : String) (v : α) :
    (m.put key v).keys = if key ∈ m.keys then m.keys else m.keys ++ [key] := by
  induction m with
  | nil => simp [put, keys]
  | cons e rest ih =>
    obtain ⟨k, w⟩ := e
    by_cases h : k = key
    · subst h
      simp [put, keys]
    · have tail : (put rest key v).map Prod.fst =
          if key ∈ rest.map Prod.fst then rest.map Prod.fst else rest.map Prod.fst ++ [key] := ih
      by_cases h' : key ∈ rest.map Prod.fst <;> simp [put, keys, h, h', Ne.symm h, tail]

theorem get?_merge (m n : Entries α) (key : String) :
    (m.merge n).get? key = ((n.reverse.find? (·.1 == key)).map Prod.snd).or (m.get? key) := by
  induction n generalizing m with
  | nil => rfl
  | cons e rest ih =>
    obtain ⟨k, v⟩ := e
    have step : (m.merge ((k, v) :: rest)).get? key = ((m.put k v).merge rest).get? key := rfl
    rw [step, ih, get?_put, List.reverse_cons, List.find?_append, Option.map_or, Option.or_assoc]
    by_cases h : k = key <;> simp [h]

theorem get?_ofList (kvs : List (String × α)) (key : String) :
    (ofList kvs).get? key = (kvs.reverse.find? (·.1 == key)).map Prod.snd := by
  have merged : (ofList kvs).get? key = (merge [] kvs).get? key := rfl
  rw [merged, get?_merge, get?, Option.or_none]

end Entries
end FeatureSpec
