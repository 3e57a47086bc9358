import FeatureSpec.Model.Lookup
import FeatureSpec.Model.Problem
import FeatureSpec.Proofs.FirstOccurrences
/-!
The check of references against the lookups. What it reports is what a lookup by id would miss,
and a feature without problems has every element where its id is looked up.
-/
namespace FeatureSpec

section Lists

variable {α : Type} (id : α → String)

theorem find?_eq_none_iff_notMem (xs : List α) (ref : String) :
    xs.find? (id · == ref) = none ↔ ref ∉ xs.map id := by
  simp [List.find?_eq_none]

theorem find?_of_distinct {xs : List α} (distinct : (xs.map id).Nodup) {x : α} (member : x ∈ xs) :
    xs.find? (id · == id x) = some x := by
  induction xs with
  | nil => cases member
  | cons y ys ih =>
    obtain ⟨fresh, distinct⟩ := List.nodup_cons.mp distinct
    rcases List.mem_cons.mp member with rfl | later
    · simp
    · have other : id y ≠ id x := fun same => fresh (same ▸ List.mem_map_of_mem later)
      rw [List.find?_cons_of_neg (by simpa using other)]
      exact ih distinct later

end Lists

abbrev Repeated (ids : List String) : List String → Prop :=
  FirstOccurrences (fun id => 1 < ids.count id) ids

theorem Repeated.eq_nil_iff {ids repeated : List String} (h : Repeated ids repeated) :
    repeated = [] ↔ ids.Nodup := by
  rw [List.nodup_iff_count_le_one, List.eq_nil_iff_forall_not_mem]
  constructor
  · intro none id
    by_contra twice
    have often : 1 < ids.count id := by omega
    have member : id ∈ ids := List.count_pos_iff.mp (by omega)
    exact none id ((h.mem id).mpr ⟨member, often⟩)
  · intro once id member
    have often := ((h.mem id).mp member).2
    have limited := once id
    omega

namespace Problem

theorem duplicates_repeated (kind : ElementKind) (ids : List String) :
    ∃ repeated, Repeated ids repeated ∧ duplicates kind ids = repeated.map (.duplicate kind) := by
  have chosen := firstOccurrences_filter ids fun id => decide (1 < ids.count id)
  simp only [decide_eq_true_eq] at chosen
  exact ⟨_, chosen, rfl⟩

theorem unresolved_iff (known : List String) (ref : String) :
    unresolved known ref = true ↔ ref ≠ "" ∧ ref ∉ known := by
  simp [unresolved]

theorem ofReference (known : List String) (ref? : Option String) (make : String → Problem) :
    (if unresolved known (ref?.getD "") then [make (ref?.getD "")] else []) =
      ((ref?.filter fun ref => ref ≠ "" ∧ ref ∉ known).map make).toList := by
  cases ref? with
  | none => simp [unresolved]
  | some ref =>
    by_cases missed : unresolved known ref = true
    · simp [Option.filter, missed, (unresolved_iff known ref).mp missed]
    · have found : ¬(ref ≠ "" ∧ ref ∉ known) := mt (unresolved_iff known ref).mpr missed
      simp [Option.filter, missed, found]

end Problem

namespace DataTable

/-- The trimmed pieces of a text between its commas, without the empty ones. -/
def Pieces (s : String) (ids : List String) : Prop :=
  ∃ pieces : List String, pieces ≠ [] ∧ (∀ piece ∈ pieces, ',' ∉ piece.toList) ∧
    ",".intercalate pieces = s ∧ ids = (pieces.map Text.trim).filter (· ≠ "")

theorem formActionIds_pieces {t : DataTable} {s : String} (given : t.formActions = some s) :
    Pieces s t.formActionIds := by
  obtain ⟨some, clean, joined⟩ := Text.eq_pieces_iff.mp (rfl : Text.pieces ',' s = Text.pieces ',' s)
  refine ⟨Text.pieces ',' s, some, clean, joined, ?_⟩
  rw [formActionIds, given]

theorem formActionIds_of_none {t : DataTable} (absent : t.formActions = none) :
    t.formActionIds = [] := by
  rw [formActionIds, absent]

theorem ne_empty_of_mem_formActionIds {t : DataTable} {id : String} (h : id ∈ t.formActionIds) :
    id ≠ "" := by
  unfold formActionIds at h
  split at h
  · cases h
  · simpa using (List.mem_filter.mp h).2

end DataTable

namespace Feature

/-- What a lookup by the references of a table misses: its query, then its forms. -/
def missedByTable (d : Feature) (t : DataTable) : List Problem :=
  (if t.queryRef ≠ "" ∧ d.query? t.queryRef = none then
    [.unknownTableQuery t.id t.queryRef] else []) ++
    (t.formActionIds.filter fun id => d.form? id = none).map (.unknownRowForm t.id)

/-- What a lookup by the references of a form misses: its action, then its query. -/
def missedByForm (d : Feature) (f : Form) : List Problem :=
  let missedAction (ref : String) := ref ≠ "" ∧ d.action? ref = none
  let missedQuery (ref : String) := ref ≠ "" ∧ d.query? ref = none
  ((f.actionRef.filter missedAction).map (.unknownFormAction f.id)).toList ++
    ((f.queryRef.filter missedQuery).map (.unknownFormQuery f.id)).toList

theorem query?_eq_none_iff (d : Feature) (ref : String) :
    d.query? ref = none ↔ ref ∉ d.backend.queries.map Query.id :=
  find?_eq_none_iff_notMem Query.id _ ref

theorem action?_eq_none_iff (d : Feature) (ref : String) :
    d.action? ref = none ↔ ref ∉ d.backend.actionQueries.map ActionQuery.id :=
  find?_eq_none_iff_notMem ActionQuery.id _ ref

theorem form?_eq_none_iff (d : Feature) (ref : String) :
    d.form? ref = none ↔ ref ∉ d.frontend.forms.map Form.id :=
  find?_eq_none_iff_notMem Form.id _ ref

theorem ofTable_eq_missed (d : Feature) (t : DataTable) :
    Problem.ofTable (d.backend.queries.map Query.id) (d.frontend.forms.map Form.id) t =
      d.missedByTable t := by
  have rows : t.formActionIds.filter (Problem.unresolved (d.frontend.forms.map Form.id)) =
      t.formActionIds.filter fun id => d.form? id = none := by
    refine List.filter_congr fun id member => ?_
    have given := DataTable.ne_empty_of_mem_formActionIds member
    rw [Bool.eq_iff_iff, Problem.unresolved_iff, decide_eq_true_iff, form?_eq_none_iff]
    exact and_iff_right given
  unfold Problem.ofTable missedByTable
  simp only [Problem.unresolved_iff, query?_eq_none_iff, rows]

theorem ofForm_eq_missed (d : Feature) (f : Form) :
    Problem.ofForm (d.backend.queries.map Query.id) (d.backend.actionQueries.map ActionQuery.id) f =
      d.missedByForm f := by
  have action := Problem.ofReference (d.backend.actionQueries.map ActionQuery.id) f.actionRef
    (.unknownFormAction f.id)
  have query := Problem.ofReference (d.backend.queries.map Query.id) f.queryRef
    (.unknownFormQuery f.id)
  unfold Problem.ofForm missedByForm
  simp only [query?_eq_none_iff, action?_eq_none_iff, action, query]

/-- A list of problems is the report on a feature: the ids that occur more than once, list by list,
then what the references of the tables and of the forms miss, in the order of the document. -/
def Reported (d : Feature) (problems : List Problem) : Prop :=
  ∃ queries actions tables forms : List String,
    Repeated (d.backend.queries.map Query.id) queries ∧
    Repeated (d.backend.actionQueries.map ActionQuery.id) actions ∧
    Repeated (d.frontend.dataTables.map DataTable.id) tables ∧
    Repeated (d.frontend.forms.map Form.id) forms ∧
    problems = queries.map (.duplicate .query) ++ actions.map (.duplicate .actionQuery) ++
      tables.map (.duplicate .dataTable) ++ forms.map (.duplicate .form) ++
      d.frontend.dataTables.flatMap d.missedByTable ++ d.frontend.forms.flatMap d.missedByForm

/-- Ids are distinct in each list and every reference leads somewhere. -/
structure Consistent (d : Feature) : Prop where
  queries : (d.backend.queries.map Query.id).Nodup
  actions : (d.backend.actionQueries.map ActionQuery.id).Nodup
  dataTables : (d.frontend.dataTables.map DataTable.id).Nodup
  forms : (d.frontend.forms.map Form.id).Nodup
  tableQuery : ∀ t ∈ d.frontend.dataTables, t.queryRef ≠ "" → (d.query? t.queryRef).isSome
  tableForms : ∀ t ∈ d.frontend.dataTables, ∀ id ∈ t.formActionIds, (d.form? id).isSome
  formAction : ∀ f ∈ d.frontend.forms, ∀ ref, f.actionRef = some ref → ref ≠ "" →
    (d.action? ref).isSome
  formQuery : ∀ f ∈ d.frontend.forms, ∀ ref, f.queryRef = some ref → ref ≠ "" →
    (d.query? ref).isSome

/-- Every element is the one that its id looks up. -/
structure FoundById (d : Feature) : Prop where
  query : ∀ q ∈ d.backend.queries, d.query? q.id = some q
  action : ∀ a ∈ d.backend.actionQueries, d.action? a.id = some a
  dataTable : ∀ t ∈ d.frontend.dataTables, d.dataTable? t.id = some t
  form : ∀ f ∈ d.frontend.forms, d.form? f.id = some f

theorem problems_reported (d : Feature) : Reported d d.problems := by
  obtain ⟨queries, hq, eq⟩ := Problem.duplicates_repeated .query (d.backend.queries.map Query.id)
  obtain ⟨actions, ha, ea⟩ :=
    Problem.duplicates_repeated .actionQuery (d.backend.actionQueries.map ActionQuery.id)
  obtain ⟨tables, ht, et⟩ :=
    Problem.duplicates_repeated .dataTable (d.frontend.dataTables.map DataTable.id)
  obtain ⟨forms, hf, ef⟩ := Problem.duplicates_repeated .form (d.frontend.forms.map Form.id)
  refine ⟨queries, actions, tables, forms, hq, ha, ht, hf, ?_⟩
  have ofTables : Problem.ofTable (d.backend.queries.map Query.id)
      (d.frontend.forms.map Form.id) = d.missedByTable := funext d.ofTable_eq_missed
  have ofForms : Problem.ofForm (d.backend.queries.map Query.id)
      (d.backend.actionQueries.map ActionQuery.id) = d.missedByForm := funext d.ofForm_eq_missed
  unfold problems
  dsimp only
  rw [eq, ea, et, ef, ofTables, ofForms]

theorem missedByTable_eq_nil_iff (d : Feature) (t : DataTable) :
    d.missedByTable t = [] ↔ (t.queryRef ≠ "" → (d.query? t.queryRef).isSome) ∧
      ∀ id ∈ t.formActionIds, (d.form? id).isSome := by
  unfold missedByTable
  rw [List.append_eq_nil_iff, List.map_eq_nil_iff, List.filter_eq_nil_iff]
  refine and_congr ?_ (forall₂_congr fun id _ => ?_)
  · by_cases given : t.queryRef = "" <;> simp [given, ← Option.ne_none_iff_isSome]
  · simp [← Option.ne_none_iff_isSome]

theorem missedByForm_eq_nil_iff (d : Feature) (f : Form) :
    d.missedByForm f = [] ↔
      (∀ ref, f.actionRef = some ref → ref ≠ "" → (d.action? ref).isSome) ∧
      ∀ ref, f.queryRef = some ref → ref ≠ "" → (d.query? ref).isSome := by
  unfold missedByForm
  simp [← Option.ne_none_iff_isSome, Option.filter_eq_none_iff]

/-- Nothing is reported of a consistent feature, and of no other. -/
theorem consistent_of_reported {d : Feature} {problems : List Problem}
    (reported : Reported d problems) : problems = [] ↔ d.Consistent := by
  obtain ⟨queries, actions, tables, forms, hq, ha, ht, hf, rfl⟩ := reported
  simp only [List.append_eq_nil_iff, List.map_eq_nil_iff, List.flatMap_eq_nil_iff,
    hq.eq_nil_iff, ha.eq_nil_iff, ht.eq_nil_iff, hf.eq_nil_iff, missedByTable_eq_nil_iff,
    missedByForm_eq_nil_iff]
  constructor
  · rintro ⟨⟨⟨⟨⟨q, a⟩, t⟩, f⟩, ofTables⟩, ofForms⟩
    exact ⟨q, a, t, f, fun t member => (ofTables t member).1, fun t member => (ofTables t member).2,
      fun f member => (ofForms f member).1, fun f member => (ofForms f member).2⟩
  · intro c
    exact ⟨⟨⟨⟨⟨c.queries, c.actions⟩, c.dataTables⟩, c.forms⟩,
      fun t member => ⟨c.tableQuery t member, c.tableForms t member⟩⟩,
      fun f member => ⟨c.formAction f member, c.formQuery f member⟩⟩

theorem foundById_of_consistent {d : Feature} (c : d.Consistent) : FoundById d where
  query _ member := find?_of_distinct Query.id c.queries member
  action _ member := find?_of_distinct ActionQuery.id c.actions member
  dataTable _ member := find?_of_distinct DataTable.id c.dataTables member
  form _ member := find?_of_distinct Form.id c.forms member

/-- The problems of a feature are the ids that occur more than once and the references whose lookup
misses; the pieces of a text of form actions are taken as references. There are none exactly when
the feature is consistent, and then every element is found by its id. -/
theorem problems_match_lookups (d : Feature) :
    Reported d d.problems ∧
      (∀ t : DataTable, t.formActions = none ∧ t.formActionIds = [] ∨
        ∃ s, t.formActions = some s ∧ DataTable.Pieces s t.formActionIds) ∧
      (d.problems = [] ↔ d.Consistent) ∧ (d.problems = [] → FoundById d) := by
  have iff := consistent_of_reported d.problems_reported
  refine ⟨d.problems_reported, fun t => ?_, iff, fun none => foundById_of_consistent (iff.mp none)⟩
  cases given : t.formActions with
  | none => exact .inl ⟨rfl, DataTable.formActionIds_of_none given⟩
  | some s => exact .inr ⟨s, rfl, DataTable.formActionIds_pieces given⟩

end Feature
end FeatureSpec
