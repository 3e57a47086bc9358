import FeatureSpec.Proofs.MappingLookup
/-!
Sessions that serve a feature by themselves. The feature is taken apart into the replies of a
bundle, and every load puts it together again, so that the session answers as the feature does.
-/
namespace FeatureSpec

namespace Feature

def frontendReply (d : Feature) : FrontendReply where
  dataTables := d.frontend.dataTables
  forms := d.frontend.forms
  feature := d.name
  version := d.version

def mappingsReply (d : Feature) (resolvedCount : Int) : MappingsReply where
  feature := d.name
  version := d.version
  resolvedCount := resolvedCount
  mappings := d.mappings

/-- What a store has of a feature once it is loaded. -/
def entry (d : Feature) : StoreEntry where
  definition := d
  backend := d.backend
  frontend := d.frontendReply
  table := MappingTable.ofList d.mappings

end Feature

/-- The parts of a feature make it up again, be its version empty or not. -/
theorem compose_replies (d : Feature) (resolvedCount : Int) :
    StoreEntry.compose d.name d.backend d.frontendReply (d.mappingsReply resolvedCount) =
      d.entry := by
  dsimp only [StoreEntry.compose, Feature.frontendReply, Feature.mappingsReply]
  rw [ite_self]
  rfl

namespace Session

/-- A session that answers from a bundle made of a feature, and has not been closed. -/
structure Serves (s : Session) (d : Feature) : Prop where
  feature : s.feature = d.name
  gateway : ∃ queries actions, s.gateway = .canned (Bundle.ofFeature d queries actions)
  opened : s.store.closed = false

/-- A session whose last load was successful and left this feature. -/
structure Holds (s : Session) (d : Feature) : Prop where
  feature : s.feature = d.name
  state : s.state = .loaded
  error : s.error = none
  stored : s.store.get? s.feature = some d.entry

/-- Everything that is looked up in the session is what the feature has. -/
structure Mirrors (s : Session) (d : Feature) : Prop where
  definition : s.definition? = some d
  query : ∀ id, s.query? id = d.query? id
  action : ∀ id, s.action? id = d.action? id
  form : ∀ id, s.form? id = d.form? id
  dataTable : ∀ id, s.dataTable? id = d.dataTable? id
  mapping : ∀ name, s.mapping? name = d.mapping? name
  resolvedForm : ∀ id,
    s.resolvedForm? id = (d.form? id).map (·.resolve (MappingTable.ofList d.mappings))
  resolvedDataTable : ∀ id,
    s.resolvedDataTable? id = (d.dataTable? id).map (·.resolve (MappingTable.ofList d.mappings))

theorem serves_ofFeature (d : Feature) (queries : Entries QueryReply)
    (actions : Entries ActionReply) : Serves (ofFeature d queries actions) d :=
  ⟨rfl, ⟨queries, actions, rfl⟩, rfl⟩

theorem serves_loadedWith {s : Session} {d : Feature} (h : Serves s d) (entry : StoreEntry) :
    Serves (s.loadedWith entry) d :=
  ⟨h.feature, h.gateway, h.opened⟩

theorem holds_loadedWith {s : Session} {d : Feature} (named : s.feature = d.name) :
    Holds (s.loadedWith d.entry) d where
  feature := named
  state := rfl
  error := rfl
  stored := by simp [loadedWith, Store.get?, Entries.get?_put]

theorem mirrors_of_holds {s : Session} {d : Feature} (h : Holds s d) : Mirrors s d := by
  have definition : s.definition? = some d := by
    rw [definition?, h.stored]
    rfl
  have table : s.table = MappingTable.ofList d.mappings := by
    rw [Session.table, h.stored]
    rfl
  have form : ∀ id, s.form? id = d.form? id := fun id => by rw [form?, definition]; rfl
  have dataTable : ∀ id, s.dataTable? id = d.dataTable? id := fun id => by
    rw [dataTable?, definition]; rfl
  exact
    { definition
      query := fun id => by rw [query?, definition]; rfl
      action := fun id => by rw [action?, definition]; rfl
      form
      dataTable
      mapping := fun name => by rw [mapping?, table]; exact MappingTable.get?_ofList _ _
      resolvedForm := fun id => by rw [resolvedForm?, form, table]
      resolvedDataTable := fun id => by rw [resolvedDataTable?, dataTable, table] }

/-- The step: a load finds every section in the bundle. -/
theorem load_of_serves {s : Session} {d : Feature} (h : Serves s d) (w : World)
    (past : Trace) :
    ∃ t, s.load w past = ⟨t, .ok (s.loadedWith d.entry)⟩ := by
  obtain ⟨queries, actions, canned⟩ := h.gateway
  have composed := compose_replies d d.mappings.length
  rw [← h.feature] at composed
  rw [load, canned, ← composed]
  exact loadBy_of_replies h.opened (course_of_ok rfl rfl rfl)

/-- The run: loads one after another. -/
def loadTimes (s : Session) : Nat → Run Session
  | 0 => return s
  | n + 1 => do
    let s ← s.load
    s.loadTimes n

theorem loadTimes_of_serves {s : Session} {d : Feature} (h : Serves s d) (n : Nat) (w : World)
    (past : Trace) :
    ∃ s', (s.loadTimes (n + 1) w past).outcome = .ok s' ∧ s'.revision = s.revision + (n + 1) ∧
      Holds s' d := by
  induction n generalizing s past with
  | zero =>
    obtain ⟨t, ran⟩ := load_of_serves h w past
    refine ⟨s.loadedWith d.entry, ?_, rfl, holds_loadedWith h.feature⟩
    rw [loadTimes, Run.bind_of_ok ran]
    rfl
  | succ n ih =>
    obtain ⟨t, ran⟩ := load_of_serves h w past
    obtain ⟨s', ended, revision, holds⟩ := ih (serves_loadedWith h d.entry) (past ++ t)
    refine ⟨s', ?_, ?_, holds⟩
    · rw [loadTimes, Run.bind_of_ok ran]
      exact ended
    · rw [revision, loadedWith]
      dsimp only
      omega

/-- A session made of a feature, loaded any number of times but zero, has been loaded that often
and answers every lookup as the feature does, whatever hooks there are. -/
theorem offline_session_mirrors (d : Feature) (queries : Entries QueryReply)
    (actions : Entries ActionReply) (n : Nat) (w : World) (past : Trace) :
    ∃ s, ((ofFeature d queries actions).loadTimes (n + 1) w past).outcome = .ok s ∧
      s.state = .loaded ∧ s.error = none ∧ s.revision = n + 1 ∧ Mirrors s d := by
  obtain ⟨s, ended, revision, holds⟩ :=
    loadTimes_of_serves (serves_ofFeature d queries actions) n w past
  refine ⟨s, ended, holds.state, holds.error, ?_, mirrors_of_holds holds⟩
  rw [revision]
  exact Nat.zero_add _

end Session
end FeatureSpec
