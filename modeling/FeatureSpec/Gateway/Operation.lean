import FeatureSpec.Gateway.Client
/-!
The operations on a feature that hooks come between, by the kind of their replies. Each has its
own hooks, events, client call and canned reply.
-/
namespace FeatureSpec

inductive Operation : Type → Type where
  | frontend (feature : String) : Operation FrontendReply
  | mappings (feature : String) : Operation MappingsReply
  | query (feature id : String) (params : Entries Json) : Operation QueryReply
  | action (feature id : String) (params : Entries Json) : Operation ActionReply

namespace Operation

variable {α : Type}

def feature : Operation α → String
  | .frontend feature | .mappings feature | .query feature _ _ | .action feature _ _ => feature

def kind : Operation α → OperationKind
  | .frontend _ => .feature
  | .mappings _ => .mappings
  | .query .. => .query
  | .action .. => .action

def query? : Operation α → Option String
  | .query _ id _ => some id
  | _ => none

def action? : Operation α → Option String
  | .action _ id _ => some id
  | _ => none

def announcement : Operation α → String
  | .frontend feature => s!"Loading frontend elements for {feature}"
  | .mappings feature => s!"Loading mappings for {feature}"
  | .query feature id _ => s!"Executing query {feature}.{id}"
  | .action feature id _ => s!"Executing action {feature}.{id}"

def beforeSlot : Operation α → Slot
  | .frontend _ => .beforeFrontend
  | .mappings _ => .beforeMappings
  | .query .. => .beforeQuery
  | .action .. => .beforeAction

def afterSlot : Operation α → Slot
  | .frontend _ => .afterFrontend
  | .mappings _ => .afterMappings
  | .query .. => .afterQuery
  | .action .. => .afterAction

def beforeHook : Operation α → Hooks → Option (Hook (Option (Answer α)))
  | .frontend _, hooks => hooks.beforeFrontend
  | .mappings _, hooks => hooks.beforeMappings
  | .query .., hooks => hooks.beforeQuery
  | .action .., hooks => hooks.beforeAction

def afterHook : Operation α → Hooks → Option (Hook Unit)
  | .frontend _, hooks => hooks.afterFrontend
  | .mappings _, hooks => hooks.afterMappings
  | .query .., hooks => hooks.afterQuery
  | .action .., hooks => hooks.afterAction

def beforeEvent : Operation α → Event
  | .frontend feature => .beforeFrontend feature
  | .mappings feature => .beforeMappings feature
  | .query feature id params => .beforeQuery feature id params
  | .action feature id params => .beforeAction feature id params

def afterEvent : Operation α → Answer α → Event
  | .frontend feature, result => .afterFrontend feature result
  | .mappings feature, result => .afterMappings feature result
  | .query feature id params, result => .afterQuery feature id params result
  | .action feature id params, result => .afterAction feature id params result

def errorEvent (op : Operation α) (f : Failure) : ErrorEvent :=
  { error := f, kind := op.kind, feature := op.feature, query := op.query?, action := op.action? }

def request : Operation α → Client → Run α
  | .frontend feature, client => client.frontend feature
  | .mappings feature, client => client.mappings feature
  | .query feature id params, client => client.executeQuery feature id params
  | .action feature id params, client => client.executeAction feature id params

def canned? : Operation α → Bundle → Option α
  | .frontend _, bundle => bundle.frontend
  | .mappings _, bundle => bundle.mappings
  | .query _ id _, bundle => bundle.queries.get? id
  | .action _ id _, bundle => bundle.actions.get? id

def cannedKind : Operation α → String
  | .frontend _ => "frontend elements"
  | .mappings _ => "mappings"
  | .query .. => "query"
  | .action .. => "action"

def cannedRef : Operation α → String
  | .frontend feature => feature
  | .mappings feature => feature
  | .query _ id _ => id
  | .action _ id _ => id

end Operation
end FeatureSpec
