import FeatureSpec.Model.Feature
/-!
Ids that occur twice and references that lead nowhere.
-/
namespace FeatureSpec

inductive ElementKind where
  | query
  | actionQuery
  | dataTable
  | form
  deriving DecidableEq, Repr

inductive Problem where
  | duplicate (kind : ElementKind) (id : String)
  | unknownTableQuery (table query : String)
  | unknownRowForm (table form : String)
  | unknownFormAction (form action : String)
  | unknownFormQuery (form query : String)
  deriving DecidableEq, Repr

namespace ElementKind

def label : ElementKind → String
  | .query => "query"
  | .actionQuery => "action query"
  | .dataTable => "data table"
  | .form => "form"

end ElementKind

namespace Problem

def message : Problem → String
  | .duplicate kind id => s!"Duplicate {kind.label} id '{id}'"
  | .unknownTableQuery table query => s!"DataTable '{table}' references unknown query '{query}'"
  | .unknownRowForm table form =>
    s!"DataTable '{table}' form action references unknown form '{form}'"
  | .unknownFormAction form action =>
    s!"Form '{form}' references unknown action query '{action}'"
  | .unknownFormQuery form query => s!"Form '{form}' references unknown query '{query}'"

/-- One problem for each id that occurs more than once, in the order of first occurrence. -/
def duplicates (kind : ElementKind) (ids : List String) : List Problem :=
  (ids.eraseDups.filter fun id => decide (1 < ids.count id)).map (.duplicate kind)

def unresolved (known : List String) (ref : String) : Bool := ref != "" && !known.contains ref

def ofTable (queryIds formIds : List String) (t : DataTable) : List Problem :=
  (if unresolved queryIds t.queryRef then [.unknownTableQuery t.id t.queryRef] else []) ++
    (t.formActionIds.filter (unresolved formIds)).map (.unknownRowForm t.id)

def ofForm (queryIds actionIds : List String) (f : Form) : List Problem :=
  let actionRef := f.actionRef.getD ""
  let queryRef := f.queryRef.getD ""
  (if unresolved actionIds actionRef then [.unknownFormAction f.id actionRef] else []) ++
    (if unresolved queryIds queryRef then [.unknownFormQuery f.id queryRef] else [])

end Problem

namespace Feature

/-- The problems of a feature: duplicates of each list, then the references of the tables, then
those of the forms. -/
def problems (f : Feature) : List Problem :=
  let queryIds := f.backend.queries.map Query.id
  let actionIds := f.backend.actionQueries.map ActionQuery.id
  let tableIds := f.frontend.dataTables.map DataTable.id
  let formIds := f.frontend.forms.map Form.id
  Problem.duplicates .query queryIds ++ Problem.duplicates .actionQuery actionIds ++
    Problem.duplicates .dataTable tableIds ++ Problem.duplicates .form formIds ++
    f.frontend.dataTables.flatMap (Problem.ofTable queryIds formIds) ++
    f.frontend.forms.flatMap (Problem.ofForm queryIds actionIds)

end Feature
end FeatureSpec
