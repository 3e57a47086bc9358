import FeatureSpec.Gateway.Operation
/-!
Gateways: where the operations on a feature go. A canned one answers from a bundle alone. A live
one asks a backend, between a before-hook, which may answer instead, and an after-hook, whose
failures are only logged. Either tells the error hook of an operation that failed.
-/
namespace FeatureSpec

inductive Gateway where
  | canned (bundle : Bundle)
  | live (client : Client)
  deriving DecidableEq, Repr

namespace Gateway

def errorContext (e : ErrorEvent) : Entries String :=
  [("context", e.kind.name), ("feature", e.feature)] ++
    (e.query.map fun id => ("query_id", id)).toList ++
    (e.action.map fun id => ("action_id", id)).toList ++
    [("error_type", e.error.name)]

/-- Calls a hook whose own failure is only logged. -/
def tell (slot : Slot) (hook : Option (Hook Unit)) (e : Event) (complaint : Failure → String) :
    Run Unit := do
  match ← Run.attempt (Run.call slot hook () e) with
  | .ok _ => return ()
  | .error f => Run.log (Log.note Log.warning .gateway (complaint f))

def report (e : ErrorEvent) : Run Unit := do
  Run.log
    { Log.note Log.warning .gateway s!"{e.kind.name} operation failed: {e.error.message}" with
      context := errorContext e }
  let hooks ← Run.hooks
  tell .onError hooks.onError (.failed e) fun f =>
    s!"on_error hook failed for {e.kind.name}: {f.message}"

def reporting {α : Type} (event : Failure → ErrorEvent) (x : Run α) : Run α := do
  match ← Run.attempt x with
  | .ok a => return a
  | .error f => do
    report (event f)
    Run.fail f

def entry {α : Type} (value : Option α) (kind ref : String) (event : Failure → ErrorEvent) :
    Run α :=
  match value with
  | some a => do
    Run.log (Log.note Log.debug .gateway s!"Mock {kind} {ref}")
    return a
  | none =>
    reporting event
      (Run.fail (.notFound kind ref s!"Mock bundle has no {kind} entry for '{ref}'"))

/-- What the before-hook answers, or the client where the hook gives nothing. -/
def answer {α : Type} (op : Operation α) (call : Run α) : Run (Answer α) := do
  let hooks ← Run.hooks
  match ← Run.call op.beforeSlot (op.beforeHook hooks) none op.beforeEvent with
  | some answer => do
    Run.log
      (Log.note Log.debug .gateway s!"Before-hook short-circuited {op.beforeEvent.name}")
    return answer
  | none => do
    let a ← call
    return .proper a

def inform {α : Type} (op : Operation α) (answer : Answer α) : Run Unit := do
  let hooks ← Run.hooks
  tell op.afterSlot (op.afterHook hooks) (op.afterEvent answer) fun f =>
    s!"After-hook failed ({op.beforeEvent.name}): {f.message}"

def dispatch {α : Type} (op : Operation α) (call : Run α) : Run (Answer α) := do
  let a ← reporting op.errorEvent (answer op call)
  inform op a
  return a

def serve {α : Type} (op : Operation α) (call : Run α) : Run (Answer α) := do
  Run.log (Log.note Log.debug .gateway op.announcement)
  dispatch op call

def perform {α : Type} (g : Gateway) (op : Operation α) : Run (Answer α) :=
  match g with
  | .canned bundle =>
    .proper <$> entry (op.canned? bundle) op.cannedKind op.cannedRef op.errorEvent
  | .live client => serve op (op.request client)

def loadFrontend (g : Gateway) (feature : String) : Run (Answer FrontendReply) :=
  g.perform (.frontend feature)

def loadMappings (g : Gateway) (feature : String) : Run (Answer MappingsReply) :=
  g.perform (.mappings feature)

def executeQuery (g : Gateway) (feature id : String) (params : Entries Json) :
    Run (Answer QueryReply) :=
  g.perform (.query feature id params)

def executeAction (g : Gateway) (feature id : String) (params : Entries Json) :
    Run (Answer ActionReply) :=
  g.perform (.action feature id params)

def backendEvent (feature : String) (f : Failure) : ErrorEvent :=
  { error := f, kind := .feature, feature }

/-- The live request of the backend section, which no hook comes between. -/
def serveBackend (feature : String) (call : Run Backend) : Run Backend := do
  Run.log (Log.note Log.debug .gateway s!"Loading backend info for {feature}")
  reporting (backendEvent feature) call

def loadBackend (g : Gateway) (feature : String) : Run Backend :=
  match g with
  | .canned bundle => entry bundle.backend "backend info" feature (backendEvent feature)
  | .live client => serveBackend feature (client.backend feature)

def close : Gateway → Gateway
  | .canned bundle => .canned bundle
  | .live client => .live client.close

/-- The gateway to a bundle or to a client, of which a bundle comes first. -/
def make (client : Option Client) (bundle : Option Bundle) : Except Failure Gateway :=
  match bundle, client with
  | some b, _ => .ok (.canned b)
  | none, some c => .ok (.live c)
  | none, none => .error (.value .noBackend)

end Gateway
end FeatureSpec
