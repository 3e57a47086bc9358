import FeatureSpec.Backend.Endpoint
import FeatureSpec.Failure
import FeatureSpec.Log.Record
import FeatureSpec.Model.Reply
/-!
What can be observed of a run: log records, requests and calls of hooks; and the world that
answers requests and calls. A world may answer by all that has occurred before.
-/
namespace FeatureSpec

/-- What a caller gets: a reply of the right kind, or whatever a hook gave in its place. -/
inductive Answer (α : Type) where
  | proper (a : α)
  | stray (v : Json)
  deriving DecidableEq, Repr

inductive OperationKind where
  | feature
  | query
  | action
  | mappings
  deriving DecidableEq, Repr

structure ErrorEvent where
  error : Failure
  kind : OperationKind
  feature : String
  query : Option String := none
  action : Option String := none
  deriving DecidableEq, Repr

inductive Event where
  | beforeQuery (feature id : String) (params : Entries Json)
  | afterQuery (feature id : String) (params : Entries Json) (result : Answer QueryReply)
  | beforeAction (feature id : String) (params : Entries Json)
  | afterAction (feature id : String) (params : Entries Json) (result : Answer ActionReply)
  | beforeFrontend (feature : String)
  | afterFrontend (feature : String) (result : Answer FrontendReply)
  | beforeMappings (feature : String)
  | afterMappings (feature : String) (result : Answer MappingsReply)
  | failed (e : ErrorEvent)
  deriving DecidableEq, Repr

inductive Slot where
  | beforeQuery
  | afterQuery
  | beforeAction
  | afterAction
  | beforeFrontend
  | afterFrontend
  | beforeMappings
  | afterMappings
  | onError
  deriving DecidableEq, Repr

inductive Occurrence where
  | record (r : Log.Record)
  | request (r : Request)
  | call (slot : Slot) (e : Event)
  deriving DecidableEq, Repr

abbrev Trace := List Occurrence

inductive Reaction (α : Type) where
  | plain (outcome : Except Failure α)
  | awaitable (outcome : Except Failure α)

abbrev Hook (α : Type) := Trace → Event → Reaction α

/-- One place for each hook. A before-hook may return an answer, which is then given in place
of that of the backend; what other hooks return is of no account. -/
structure Hooks where
  beforeQuery : Option (Hook (Option (Answer QueryReply))) := none
  afterQuery : Option (Hook Unit) := none
  beforeAction : Option (Hook (Option (Answer ActionReply))) := none
  afterAction : Option (Hook Unit) := none
  beforeFrontend : Option (Hook (Option (Answer FrontendReply))) := none
  afterFrontend : Option (Hook Unit) := none
  beforeMappings : Option (Hook (Option (Answer MappingsReply))) := none
  afterMappings : Option (Hook Unit) := none
  onError : Option (Hook Unit) := none

structure World where
  transport : Trace → Request → Delivery
  hooks : Hooks := {}

namespace OperationKind

def name : OperationKind → String
  | .feature => "feature"
  | .query => "query"
  | .action => "action"
  | .mappings => "mappings"

end OperationKind

namespace Event

def name : Event → String
  | .beforeQuery .. => "BeforeQueryEvent"
  | .afterQuery .. => "AfterQueryEvent"
  | .beforeAction .. => "BeforeActionEvent"
  | .afterAction .. => "AfterActionEvent"
  | .beforeFrontend _ => "BeforeFrontendEvent"
  | .afterFrontend .. => "AfterFrontendEvent"
  | .beforeMappings _ => "BeforeMappingsEvent"
  | .afterMappings .. => "AfterMappingsEvent"
  | .failed _ => "ErrorEvent"

end Event

namespace Slot

def name : Slot → String
  | .beforeQuery => "on_before_query"
  | .afterQuery => "on_after_query"
  | .beforeAction => "on_before_action"
  | .afterAction => "on_after_action"
  | .beforeFrontend => "on_before_frontend"
  | .afterFrontend => "on_after_frontend"
  | .beforeMappings => "on_before_mappings"
  | .afterMappings => "on_after_mappings"
  | .onError => "on_error"

end Slot

namespace Reaction

def outcome {α : Type} : Reaction α → Except Failure α
  | .plain o => o
  | .awaitable o => o

end Reaction

namespace Answer

def toJson {α : Type} (codec : Payload.Codec α) : Answer α → Json
  | .proper a => codec.encode a
  | .stray v => v

def write {α : Type} (f : α → Except Failure Json) : Answer α → Except Failure Json
  | .proper a => f a
  | .stray v => .ok v

end Answer
end FeatureSpec
