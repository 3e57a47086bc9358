import FeatureSpec.Proofs.FirstOccurrences
import FeatureSpec.Proofs.LoadCourse
import Mathlib.Data.Finset.Card
/-!
Mappings by name, in a table and in the list that the table is made of. Both find the last mapping
of a name, and a session never pairs a definition with the table of another.
-/
namespace FeatureSpec

theorem Entries.get?_erase {α : Type} (m : Entries α) (key other : String) :
    (m.erase key).get? other = if key = other then none else m.get? other := by
  induction m with
  | nil => simp [erase, get?]
  | cons e rest ih =>
    obtain ⟨k, v⟩ := e
    by_cases removed : k = key
    · subst removed
      rw [erase, if_pos rfl, ih, get?]
      by_cases asked : k = other <;> simp [asked]
    · by_cases asked : k = other
      · subst asked
        simp [erase, get?, removed, Ne.symm removed]
      · simp [erase, get?, removed, asked, ih]

theorem find?_reverse_eq_getLast? {α : Type} (p : α → Bool) (xs : List α) :
    xs.reverse.find? p = (xs.filter p).getLast? := by
  rw [← List.head?_filter, List.filter_reverse, List.head?_reverse]

/-- A table is the record of a list of mappings: it has each name once, in the order of first
occurrence, with the last mapping of the name, which is the one that definitions look up. -/
structure Records (t : MappingTable) (mappings : List Mapping) : Prop where
  last : ∀ name, t.get? name = (mappings.filter (·.name == name)).getLast?
  lookup : ∀ d : Feature, d.mappings = mappings → ∀ name, t.get? name = d.mapping? name
  contains : ∀ name, t.contains name = true ↔ ∃ m ∈ mappings, m.name = name
  names : FirstOccurrences (fun _ => True) (mappings.map Mapping.name) t.names
  values : t.names.map t.get? = t.values.map some
  valueNames : t.values.map Mapping.name = t.names
  size : t.size = (mappings.map Mapping.name).toFinset.card

namespace MappingTable

/-- Of several mappings with one name, the table has the last. -/
theorem get?_ofList (mappings : List Mapping) (name : String) :
    (ofList mappings).get? name = mappings.reverse.find? (·.name == name) := by
  rw [ofList, get?, Entries.get?_ofList, ← List.map_reverse, List.find?_map, Option.map_map]
  exact Option.map_id'

theorem names_ofList (mappings : List Mapping) :
    (ofList mappings).names = (mappings.map Mapping.name).eraseDups := by
  rw [names, ofList, Entries.keys_ofList, List.map_map]
  rfl

/-- What is declared later stands over what is declared before it. -/
theorem get?_append (earlier later : List Mapping) (name : String) :
    (ofList (earlier ++ later)).get? name =
      ((ofList later).get? name).or ((ofList earlier).get? name) := by
  rw [get?_ofList, get?_ofList, get?_ofList, List.reverse_append, List.find?_append]

theorem distinct_names (mappings : List Mapping) : (ofList mappings).names.Nodup := by
  rw [names_ofList]
  exact (firstOccurrences_eraseDups _).nodup

theorem name_of_get? {mappings : List Mapping} {name : String} {m : Mapping}
    (found : (ofList mappings).get? name = some m) : m.name = name := by
  rw [get?_ofList] at found
  simpa using List.find?_some found

theorem valueNames_ofList (mappings : List Mapping) :
    (ofList mappings).values.map Mapping.name = (ofList mappings).names := by
  have paired : (ofList mappings).names.map (ofList mappings).get? =
      (ofList mappings).values.map some :=
    Entries.map_get?_keys (distinct_names mappings)
  refine List.ext_getElem ?_ fun i valued named => ?_
  · simpa using congrArg List.length paired.symm
  · have found := List.getElem_of_eq paired (i := i) (by simpa using named)
    rw [List.getElem_map, List.getElem_map] at found
    rw [List.getElem_map]
    exact name_of_get? found

theorem records_ofList (mappings : List Mapping) : Records (ofList mappings) mappings where
  last := fun name => by rw [get?_ofList, find?_reverse_eq_getLast?]
  lookup := fun d same name => by rw [get?_ofList, Feature.mapping?, same]
  contains := fun name => by
    have known : (ofList mappings).contains name = true ↔ name ∈ (ofList mappings).names :=
      Entries.isSome_get? _ _
    rw [known, names_ofList, List.mem_eraseDups, List.mem_map]
  names := by
    rw [names_ofList]
    exact firstOccurrences_eraseDups _
  values := Entries.map_get?_keys (distinct_names mappings)
  valueNames := valueNames_ofList mappings
  size := by
    have counted : (ofList mappings).size = (ofList mappings).names.length := by
      simp [size, names, Entries.keys]
    have same : (mappings.map Mapping.name).toFinset = (ofList mappings).names.toFinset := by
      ext name
      simp [names_ofList]
    rw [counted, same, List.toFinset_card_of_nodup (distinct_names mappings)]

end MappingTable

namespace Session

/-- One thing that is done with a session: a load, whatever its requests come to, a removal of one
entry or of all from an open store, or closing it. -/
inductive Step : Session → Session → Prop where
  | load {s s' : Session} {w : World} {past occurred : Trace} (steps : LoadSteps)
    (ran : s.loadBy steps w past = ⟨occurred, .ok s'⟩) : Step s s'
  | discard {s : Session} {store : Store} (feature : String)
    (written : s.store.discard feature = .ok store) : Step s { s with store }
  | clear {s : Session} {store : Store} (written : s.store.clear = .ok store) :
    Step s { s with store }
  | close (s : Session) : Step s s.close

/-- The sessions that a fresh one turns into. -/
inductive Reachable : Session → Prop where
  | fresh (feature : String) (gateway : Gateway) : Reachable { feature, gateway }
  | step {s s' : Session} (before : Reachable s) (done : Step s s') : Reachable s'

/-- Every table in the store is made of the mappings of the definition beside it. -/
def Paired (s : Session) : Prop :=
  ∀ feature entry, s.store.get? feature = some entry →
    entry.table = MappingTable.ofList entry.definition.mappings

theorem table_of_entry {course : Course} {feature : String} {entry : StoreEntry}
    (composed : course.entry feature = .ok entry) :
    entry.table = MappingTable.ofList entry.definition.mappings := by
  unfold Course.entry at composed
  cases replied : course.outcome with
  | error f =>
    rw [replied] at composed
    cases composed
  | ok replies =>
    rw [replied] at composed
    obtain ⟨b, r | _, m | _⟩ := replies <;> cases composed
    rfl

theorem paired_after {s : Session} (paired : Paired s) (course : Course) :
    Paired (s.after (course.entry s.feature)) := by
  cases composed : course.entry s.feature with
  | error f => exact paired
  | ok entry =>
    cases closed : s.store.closed with
    | true =>
      rw [after_of_closed closed]
      exact paired
    | false =>
      rw [after_of_opened closed]
      intro feature found stored
      have put : (if s.feature = feature then some entry else s.store.get? feature) =
          some found := by
        rw [Store.get?, ← Entries.get?_put]
        exact stored
      by_cases here : s.feature = feature
      · rw [if_pos here] at put
        cases put
        exact table_of_entry composed
      · rw [if_neg here] at put
        exact paired feature found put

theorem paired_step {s s' : Session} (paired : Paired s) (done : Step s s') : Paired s' := by
  cases done with
  | @load _ w past occurred steps ran =>
    obtain ⟨records, loaded⟩ := s.loadBy_eq steps w past
    rw [ran] at loaded
    cases loaded
    exact paired_after paired _
  | @discard store removed written =>
    unfold Store.discard Store.write at written
    split at written
    · cases written
    cases written
    intro feature entry stored
    have other : (if removed = feature then none else s.store.get? feature) = some entry := by
      rw [Store.get?, ← Entries.get?_erase]
      exact stored
    split at other
    · cases other
    · exact paired feature entry other
  | clear written =>
    unfold Store.clear Store.write at written
    split at written
    · cases written
    cases written
    intro feature entry stored
    cases stored
  | close =>
    intro feature entry stored
    cases stored

theorem paired_of_reachable {s : Session} (reachable : Reachable s) : Paired s := by
  induction reachable with
  | fresh feature gateway =>
    intro name entry stored
    cases stored
  | step before done ih => exact paired_step ih done

theorem table_of_definition {s : Session} {d : Feature} (paired : Paired s)
    (holds : s.definition? = some d) : s.table = MappingTable.ofList d.mappings := by
  unfold definition? at holds
  cases stored : s.store.get? s.feature with
  | none =>
    rw [stored] at holds
    cases holds
  | some entry =>
    rw [stored] at holds
    cases holds
    rw [table, stored]
    exact paired _ _ stored

/-- The table of a list of mappings records it, a list that goes on stands over its beginning, and
whatever has been done with a session that holds a definition, it finds the mappings of that
definition. -/
theorem mapping_lookups_agree (mappings more : List Mapping) :
    Records (MappingTable.ofList mappings) mappings ∧
      (∀ name, (MappingTable.ofList (mappings ++ more)).get? name =
        ((MappingTable.ofList more).get? name).or ((MappingTable.ofList mappings).get? name)) ∧
      ∀ s : Session, Reachable s → ∀ d, s.definition? = some d →
        ∀ name, s.mapping? name = d.mapping? name := by
  refine ⟨MappingTable.records_ofList mappings, MappingTable.get?_append mappings more, ?_⟩
  intro s reachable d holds name
  have table := table_of_definition (paired_of_reachable reachable) holds
  rw [mapping?, table]
  exact MappingTable.get?_ofList d.mappings name

def interleaved : List Mapping :=
  [{ name := "a", label := "one" }, { name := "b" }, { name := "a", label := "two" }]

def interleavedSteps : LoadSteps where
  backend := return {}
  frontend := return .proper { feature := "f" }
  mappings := return .proper { feature := "f", mappings := interleaved }

theorem repeated_mapping_looked_up :
    ∃ s : Session, Reachable s ∧ s.mapping? "a" = some { name := "a", label := "two" } := by
  let start : Session := { feature := "f", gateway := .canned {} }
  let w : World := { transport := fun _ _ => .failed "" }
  have replied : (interleavedSteps.course w ([] ++ [.record start.loadingRecord])).outcome =
      .ok ⟨{}, .proper { feature := "f" }, .proper { feature := "f", mappings := interleaved }⟩ :=
    rfl
  have opened : start.store.closed = false := rfl
  obtain ⟨occurred, ran⟩ := loadBy_of_replies opened replied
  have loaded := Reachable.step (.fresh "f" (.canned {})) (.load interleavedSteps ran)
  refine ⟨_, loaded, ?_⟩
  rw [(mapping_lookups_agree [] []).2.2 _ loaded _ rfl "a"]
  decide

end Session
end FeatureSpec
