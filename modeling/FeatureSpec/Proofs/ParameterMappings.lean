import FeatureSpec.Proofs.OfflineSession
import FeatureSpec.Proofs.QueryTexts
/-!
The mappings that describe the parameters of a compiled query. They follow the text of the query:
its placeholders in the order in which they first stand there, as far as the feature declares a
mapping of the name, and of several such mappings the last.
-/
namespace FeatureSpec

/-- A feature that a document was compiled to, be it given as a tree, as a text or in octets. -/
inductive Feature.Compiled (d : Feature) : Prop where
  | tree (options : Document.Options) (root : Xml.Element)
    (returned : (Document.compileTree options root).outcome = .ok d)
  | text (options : Document.Options) (text : String)
    (returned : (Document.compileText options text).outcome = .ok d)
  | octets (options : Document.Options) (os : Octets)
    (returned : (Document.compileOctets options os).outcome = .ok d)

def IsFirst {α : Type} (p : α → Prop) (xs : List α) (x : α) : Prop :=
  ∃ before after, xs = before ++ x :: after ∧ p x ∧ ∀ y ∈ before, ¬p y

/-- Mappings describe the parameters of a text: they have the names of its placeholders for which
the feature declares a mapping, each name once, in the order of first positions, and each is the
last that is declared under its name. -/
structure Describes (d : Feature) (text : String) (found : List Mapping) : Prop where
  names : found.map Mapping.name =
    (Placeholder.names text).filter fun name => d.mappings.any (·.name == name)
  mem : ∀ name, name ∈ found.map Mapping.name ↔
    (∃ i, Placeholder.StandsAt text.toList i name.toList) ∧ ∃ m ∈ d.mappings, m.name = name
  nodup : (found.map Mapping.name).Nodup
  ordered : (found.map Mapping.name).Pairwise fun a b =>
    ∃ i j, Placeholder.FirstAt text a i ∧ Placeholder.FirstAt text b j ∧ i < j
  last : ∀ m ∈ found, (d.mappings.filter (·.name == m.name)).getLast? = some m

/-- The mappings of an id describe the text of the first query that has it, or of the first mutation
if no query has it; without either there are none. -/
inductive FollowsText (d : Feature) (id : String) (found : List Mapping) : Prop where
  | query (q : Query) (first : IsFirst (·.id = id) d.backend.queries q)
    (described : Describes d q.sql found)
  | mutation (a : ActionQuery) (unqueried : ∀ q ∈ d.backend.queries, q.id ≠ id)
    (first : IsFirst (·.id = id) d.backend.actionQueries a) (described : Describes d a.sql found)
  | unknown (unqueried : ∀ q ∈ d.backend.queries, q.id ≠ id)
    (unmutated : ∀ a ∈ d.backend.actionQueries, a.id ≠ id) (empty : found = [])

/-! ### What a document gives -/

theorem tree_of_compiled {d : Feature} (compiled : d.Compiled) :
    ∃ options root, (Document.compileTree options root).outcome = .ok d := by
  have read {options : Document.Options} {root : Except Xml.Fault Xml.Element}
      (returned : (Document.compileRead options root).outcome = .ok d) :
      ∃ options root, (Document.compileTree options root).outcome = .ok d := by
    cases root with
    | ok root => exact ⟨options, root, returned⟩
    | error fault => cases returned
  cases compiled with
  | tree options root returned => exact ⟨options, root, returned⟩
  | text options text returned =>
    unfold Document.compileText at returned
    split at returned
    · cases returned
    · exact read returned
  | octets options os returned =>
    unfold Document.compileOctets at returned
    split at returned
    · cases returned
    · exact read returned

theorem forall_of_forall₂ {α β : Type} {R : α → β → Prop} {p : β → Prop} {xs : List α}
    {ys : List β} (related : List.Forall₂ R xs ys) (weaken : ∀ x y, R x y → p y) :
    ∀ y ∈ ys, p y := by
  induction related with
  | nil => nofun
  | cons first _ ih => exact List.forall_mem_cons.mpr ⟨weaken _ _ first, ih⟩

theorem parameterNames_of_stored {sql : String} {parameters : List Parameter}
    (stored : parameters = Placeholder.parameters sql) :
    parameters.map Parameter.name = Placeholder.names sql := by
  rw [stored, Placeholder.parameters, List.map_map]
  exact List.map_id _

theorem parameterNames_of_compiled {d : Feature} (compiled : d.Compiled) :
    (∀ q ∈ d.backend.queries, q.parameterNames = Placeholder.names q.sql) ∧
      ∀ a ∈ d.backend.actionQueries, a.parameterNames = Placeholder.names a.sql := by
  obtain ⟨options, root, returned⟩ := tree_of_compiled compiled
  have read := Compile.queriesRead_of_compileTree returned
  exact ⟨forall_of_forall₂ read.queries fun e q from_ => parameterNames_of_stored from_.ofStored,
    forall_of_forall₂ read.actionQueries fun e a from_ => parameterNames_of_stored from_.ofStored⟩

/-! ### Tables -/

theorem isFirst_of_find? {α : Type} {id : α → String} {name : String} {xs : List α} {x : α}
    (found : xs.find? (fun y => id y == name) = some x) : IsFirst (fun y => id y = name) xs x := by
  obtain ⟨passes, before, after, parted, earlier⟩ := List.find?_eq_some_iff_append.mp found
  exact ⟨before, after, parted, by simpa using passes,
    fun y member => by simpa using earlier y member⟩

theorem mem_of_isFirst {α : Type} {p : α → Prop} {xs : List α} {x : α} (first : IsFirst p xs x) :
    x ∈ xs := by
  obtain ⟨before, after, rfl, -⟩ := first
  simp

theorem map_name_describe (mappings : List Mapping) (names : List String) :
    ((MappingTable.ofList mappings).describe names).map Mapping.name =
      names.filter fun name => mappings.any (·.name == name) := by
  induction names with
  | nil => rfl
  | cons name rest ih =>
    have declared := (MappingTable.records_ofList mappings).contains name
    rw [MappingTable.describe] at ih ⊢
    rcases found : (MappingTable.ofList mappings).get? name with _ | m
    · have none : ¬∃ m ∈ mappings, m.name = name := by
        rw [← declared, MappingTable.contains, Entries.contains, ← MappingTable.get?, found]
        simp
      rw [List.filterMap_cons_none found, ih, List.filter_cons_of_neg (by simpa using none)]
    · have some : ∃ m ∈ mappings, m.name = name := by
        rw [← declared, MappingTable.contains, Entries.contains, ← MappingTable.get?, found]
        rfl
      rw [List.filterMap_cons_some found, List.map_cons, ih, MappingTable.name_of_get? found,
        List.filter_cons_of_pos (by simpa using some)]

/-- A table of the mappings of a feature describes every text. -/
theorem describes_names (d : Feature) (text : String) :
    Describes d text ((MappingTable.ofList d.mappings).describe (Placeholder.names text)) := by
  have lists := Placeholder.lists_names text
  have names := map_name_describe d.mappings (Placeholder.names text)
  have kept : (((MappingTable.ofList d.mappings).describe (Placeholder.names text)).map
      Mapping.name).Sublist (Placeholder.names text) := by
    rw [names]
    exact List.filter_sublist
  exact
    { names
      mem := fun name => by rw [names, List.mem_filter, lists.mem]; simp
      nodup := lists.nodup.sublist kept
      ordered := lists.ordered.sublist kept
      last := fun m member => by
        obtain ⟨name, -, found⟩ := List.mem_filterMap.mp member
        rw [MappingTable.name_of_get? found, ← (MappingTable.records_ofList d.mappings).last]
        exact found }

namespace Session

/-- A session that holds a compiled feature beside the table of its mappings. -/
theorem followsText_of_definition {s : Session} {d : Feature} (compiled : d.Compiled)
    (holds : s.definition? = some d) (paired : s.table = MappingTable.ofList d.mappings)
    (id : String) : FollowsText d id (s.parameterMappings id) := by
  obtain ⟨ofQueries, ofActions⟩ := parameterNames_of_compiled compiled
  have query : s.query? id = d.query? id := by rw [query?, holds]; rfl
  have action : s.action? id = d.action? id := by rw [action?, holds]; rfl
  unfold parameterMappings
  rw [query, action, paired]
  -- A query hides a mutation with the same id.
  rcases queried : d.query? id with _ | q
  · have unqueried : ∀ q ∈ d.backend.queries, q.id ≠ id := by
      simpa using List.find?_eq_none.mp queried
    rcases mutated : d.action? id with _ | a
    · have unmutated : ∀ a ∈ d.backend.actionQueries, a.id ≠ id := by
        simpa using List.find?_eq_none.mp mutated
      exact .unknown unqueried unmutated rfl
    · have first := isFirst_of_find? mutated
      refine .mutation a unqueried first ?_
      dsimp only
      rw [ofActions a (mem_of_isFirst first)]
      exact describes_names d a.sql
  · have first := isFirst_of_find? queried
    refine .query q first ?_
    dsimp only
    rw [ofQueries q (mem_of_isFirst first)]
    exact describes_names d q.sql

/-- Whatever has been done with a session that holds a compiled feature, the mappings that it finds
for an id follow the text of the query or mutation of this id; and a session made of the feature
holds it after any number of loads but zero, whatever hooks there are. -/
theorem parameter_mappings_follow_text (d : Feature) (compiled : d.Compiled) :
    (∀ s : Session, Reachable s → s.definition? = some d →
      ∀ id, FollowsText d id (s.parameterMappings id)) ∧
    ∀ (queries : Entries QueryReply) (actions : Entries ActionReply) (n : Nat) (w : World)
      (past : Trace),
      ∃ s, ((ofFeature d queries actions).loadTimes (n + 1) w past).outcome = .ok s ∧
        s.definition? = some d ∧ ∀ id, FollowsText d id (s.parameterMappings id) := by
  refine ⟨fun s reachable holds id => ?_, fun queries actions n w past => ?_⟩
  · exact followsText_of_definition compiled holds
      (table_of_definition (paired_of_reachable reachable) holds) id
  · obtain ⟨s, ended, -, holds⟩ :=
      loadTimes_of_serves (serves_ofFeature d queries actions) n w past
    have defined : s.definition? = some d := (mirrors_of_holds holds).definition
    have paired : s.table = MappingTable.ofList d.mappings := by
      rw [table, holds.stored]
      rfl
    exact ⟨s, ended, defined, followsText_of_definition compiled defined paired⟩

def doubled : Xml.Element where
  tag := "Feature"
  attrs := [("Name", "f")]
  content :=
    [.element "Backend" []
      [.element "ActionQuery" [("Id", "q")] [.text "UPDATE t SET c = :c"],
       .element "Query" [("Id", "q")] [.text "SELECT :b, :x, :a, :b"],
       .element "Query" [("Id", "q")] [.text "SELECT :c"]],
     .element "Mapping" [("Name", "a"), ("Label", "one")] [],
     .element "ParameterMapping" [("Name", "b")] [],
     .element "Mapping" [("Name", "c")] [],
     .element "Mapping" [("Name", "a"), ("Label", "two")] []]

def doubledFeature : Feature where
  name := "f"
  backend :=
    { queries :=
        [{ id := "q", sql := "SELECT :b, :x, :a, :b"
           parameters := [{ name := "b" }, { name := "x" }, { name := "a" }] },
         { id := "q", sql := "SELECT :c", parameters := [{ name := "c" }] }]
      actionQueries :=
        [{ id := "q", sql := "UPDATE t SET c = :c", parameters := [{ name := "c" }] }] }
  mappings :=
    [{ name := "a", label := "one" }, { name := "b" }, { name := "c" },
     { name := "a", label := "two" }]

def doubledSteps : LoadSteps where
  backend := return doubledFeature.backend
  frontend := return .proper doubledFeature.frontendReply
  mappings := return .proper (doubledFeature.mappingsReply 4)

/-- The first query counts, and the last mapping. -/
theorem doubled_query_described :
    doubledFeature.Compiled ∧ ∃ s, Reachable s ∧ s.definition? = some doubledFeature ∧
      FollowsText doubledFeature "q" (s.parameterMappings "q") ∧
      s.parameterMappings "q" = [{ name := "b" }, { name := "a", label := "two" }] := by
  have returned :
      (Document.compileTree { strict := false, source := none } doubled).outcome =
        .ok doubledFeature := by decide
  have compiled : doubledFeature.Compiled := .tree _ _ returned
  let start : Session := { feature := "f", gateway := .canned {} }
  let w : World := { transport := fun _ _ => .failed "" }
  have replied : (doubledSteps.course w ([] ++ [.record start.loadingRecord])).outcome =
      .ok ⟨doubledFeature.backend, .proper doubledFeature.frontendReply,
        .proper (doubledFeature.mappingsReply 4)⟩ := rfl
  obtain ⟨occurred, ran⟩ := loadBy_of_replies (s := start) rfl replied
  have reachable := Reachable.step (.fresh "f" (.canned {})) (.load doubledSteps ran)
  have followed := (parameter_mappings_follow_text doubledFeature compiled).1 _ reachable rfl "q"
  exact ⟨compiled, _, reachable, rfl, followed, by decide⟩

end Session
end FeatureSpec
