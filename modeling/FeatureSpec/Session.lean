import FeatureSpec.Gateway.Basic
import FeatureSpec.Model.Lookup
import FeatureSpec.Resolution
import FeatureSpec.Store
/-!
Sessions: one feature, loaded through a gateway into a store, looked up and resolved there. A
load that fails leaves the store as it was.
-/
namespace FeatureSpec

inductive LoadState where
  | uninitialized
  | loading
  | loaded
  | failed
  deriving DecidableEq, Repr

structure Session where
  feature : String
  gateway : Gateway
  store : Store := {}
  state : LoadState := .uninitialized
  revision : Nat := 0
  error : Option Failure := none
  deriving DecidableEq, Repr

structure LoadSteps where
  backend : Run Backend
  frontend : Run (Answer FrontendReply)
  mappings : Run (Answer MappingsReply)

structure Replies where
  backend : Backend
  frontend : Answer FrontendReply
  mappings : Answer MappingsReply
  deriving DecidableEq, Repr

def LoadSteps.replies (steps : LoadSteps) : Run Replies := do
  let backend ← steps.backend
  let frontend ← steps.frontend
  let mappings ← steps.mappings
  return { backend, frontend, mappings }

def Gateway.loadSteps (g : Gateway) (feature : String) : LoadSteps :=
  ⟨g.loadBackend feature, g.loadFrontend feature, g.loadMappings feature⟩

namespace LoadState

def name : LoadState → String
  | .uninitialized => "uninitialized"
  | .loading => "loading"
  | .loaded => "loaded"
  | .failed => "failed"

end LoadState

namespace Answer

def expect {α : Type} (attr : String) : Answer α → Except Failure α
  | .proper a => .ok a
  | .stray v => .error (.noAttribute (Payload.Fault.typeName v) attr)

end Answer

namespace StoreEntry

def compose (feature : String) (backend : Backend) (frontend : FrontendReply)
    (mappings : MappingsReply) : StoreEntry where
  definition :=
    { name := feature
      version := if frontend.version = "" then mappings.version else frontend.version
      backend
      frontend := { dataTables := frontend.dataTables, forms := frontend.forms }
      mappings := mappings.mappings }
  backend := backend
  frontend := frontend
  table := MappingTable.ofList mappings.mappings

/-- The entry that these replies make, if the hooks left them of the right kinds. -/
def ofReplies (feature : String) (replies : Replies) : Run StoreEntry := do
  let mappings ← Run.ofExcept (replies.mappings.expect "mappings")
  Run.logAll (MappingTable.repetitions [] mappings.mappings)
  let frontend ← Run.ofExcept (replies.frontend.expect "version")
  return compose feature replies.backend frontend mappings

end StoreEntry

namespace Session

def fetchInto (s : Session) (steps : LoadSteps) : Run (Store × Feature) := do
  let replies ← steps.replies
  let entry ← StoreEntry.ofReplies s.feature replies
  let store ← Run.ofExcept (s.store.replace s.feature entry)
  Run.log (Log.note Log.debug .store s!"Stored definition for feature {s.feature}")
  return (store, entry.definition)

def loadingRecord (s : Session) : Log.Record :=
  Log.note Log.debug .machine s!"Loading feature {s.feature} (revision {s.revision})"

/-- One load by these steps. It never fails itself: its outcome is the state of the session
after it. -/
def loadBy (s : Session) (steps : LoadSteps) : Run Session := do
  Run.log s.loadingRecord
  match ← Run.attempt (s.fetchInto steps) with
  | .error f => do
    Run.log (Log.note Log.warning .machine s!"Loading feature {s.feature} failed: {f.message}")
    return { s with state := .failed, error := some f }
  | .ok (store, definition) => do
    let revision := s.revision + 1
    Run.log (Log.note Log.info .machine
      s!"Loaded feature {s.feature} revision {revision}: {definition.stats.toJson.shown}")
    return { s with store, state := .loaded, revision, error := none }

def load (s : Session) : Run Session := s.loadBy (s.gateway.loadSteps s.feature)

def close (s : Session) : Session :=
  { s with store := s.store.close, gateway := s.gateway.close }

def definition? (s : Session) : Option Feature :=
  (s.store.get? s.feature).map StoreEntry.definition

def table (s : Session) : MappingTable :=
  match s.store.get? s.feature with
  | some entry => entry.table
  | none => {}

def query? (s : Session) (id : String) : Option Query := s.definition?.bind (·.query? id)

def action? (s : Session) (id : String) : Option ActionQuery := s.definition?.bind (·.action? id)

def form? (s : Session) (id : String) : Option Form := s.definition?.bind (·.form? id)

def dataTable? (s : Session) (id : String) : Option DataTable :=
  s.definition?.bind (·.dataTable? id)

def mapping? (s : Session) (name : String) : Option Mapping := s.table.get? name

def resolvedForm? (s : Session) (id : String) : Option Form := (s.form? id).map (·.resolve s.table)

def resolvedDataTable? (s : Session) (id : String) : Option DataTable :=
  (s.dataTable? id).map (·.resolve s.table)

/-- The mappings of the parameters of a query, or of a mutation where no query has the id. -/
def parameterMappings (s : Session) (id : String) : List Mapping :=
  match s.query? id, s.action? id with
  | some q, _ => s.table.describe q.parameterNames
  | none, some a => s.table.describe a.parameterNames
  | none, none => []

def executeQuery (s : Session) (id : String) (params : Entries Json) : Run (Answer QueryReply) :=
  s.gateway.executeQuery s.feature id params

def executeAction (s : Session) (id : String) (params : Entries Json) : Run (Answer ActionReply) :=
  s.gateway.executeAction s.feature id params

def ofFeature (f : Feature) (queries : Entries QueryReply) (actions : Entries ActionReply) :
    Session :=
  { feature := f.name, gateway := .canned (Bundle.ofFeature f queries actions) }

end Session
end FeatureSpec
