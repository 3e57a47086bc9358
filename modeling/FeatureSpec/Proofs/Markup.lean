import FeatureSpec.Compile.Feature
import Mathlib.Logic.Relation
/-!
What a compilation reads of a document, and the edits that touch nothing of it. Every element has a
role, which its tag and its parent give it; the role says which attributes count, which children,
and whether the text does.
-/
namespace FeatureSpec.Compile

open Xml

/-- What the compiler takes an element for. Below an element that is read as text everything is part
of the text; below an element that is not read nothing is. -/
inductive Role where
  | feature | backend | query | actionQuery | frontend | dataTable | column | form | field | button
  | message | mapping | options | option | listQuery | textual | unread
  deriving DecidableEq, Repr

/-- The children of one kind that are read below an element, all of them or the first alone. -/
structure Slot where
  kind : String
  role : Role
  firstOnly : Bool
  deriving DecidableEq, Repr

/-- Elements with one tag are of one kind, and so are those with either tag of a mapping. -/
def kindOf (tag : String) : String := if tag = "ParameterMapping" then "Mapping" else tag

namespace Role

/-- The attributes that count, by their first spelling. -/
def attributes : Role → List String
  | feature => ["Name", "Version"]
  | query => ["Id", "Type", "Description"]
  | actionQuery => ["Id", "Type", "Description"]
  | dataTable => ["Id", "QueryRef", "Title", "Description", "Pagination", "PageSize", "Sortable",
      "Filterable", "Searchable", "FormActions"]
  | column => ["Name", "Label", "Type", "Sortable", "Filterable", "Width", "Format", "Align"]
  | form => ["Id", "Mode", "Title", "Description", "Dialog", "ActionRef", "QueryRef"]
  | field => ["Name", "Label", "Type", "Required", "Readonly", "Disabled", "Placeholder",
      "HelperText", "Validation", "Format", "DefaultValue", "Rows"]
  | button => ["Id", "Type", "Label", "Style", "Disabled", "ActionRef"]
  | message => ["Type", "Visible"]
  | mapping => ["Name", "DataType", "Label", "Required", "Disabled", "Readonly", "Placeholder",
      "HelperText", "Rows"]
  | option => ["Label", "Value"]
  | listQuery => ["Id", "Type", "Description"]
  | backend | frontend | options | textual | unread => []

def slots : Role → List Slot
  | feature => [⟨"Backend", backend, true⟩, ⟨"Frontend", frontend, true⟩,
      ⟨"Mapping", mapping, false⟩]
  | backend => [⟨"Query", query, false⟩, ⟨"ActionQuery", actionQuery, false⟩]
  | frontend => [⟨"DataTable", dataTable, false⟩, ⟨"Form", form, false⟩]
  | dataTable => [⟨"Column", column, false⟩]
  | form => [⟨"Field", field, false⟩, ⟨"Button", button, false⟩, ⟨"Message", message, false⟩]
  | field => [⟨"Option", option, false⟩, ⟨"Options", options, false⟩]
  | mapping => [⟨"Options", options, true⟩, ⟨"ListQuery", listQuery, true⟩]
  | options => [⟨"Option", option, false⟩]
  | query | actionQuery | listQuery | message | column | button | option | textual | unread => []

def bearsText : Role → Bool
  | query | actionQuery | listQuery | message | textual => true
  | _ => false

/-- Whether an attribute counts, in either spelling. -/
def Reads (r : Role) (name : String) : Prop :=
  ∃ read ∈ r.attributes, name = read ∨ name = smallInitial read

instance (r : Role) (name : String) : Decidable (r.Reads name) :=
  inferInstanceAs (Decidable (∃ read ∈ r.attributes, _))

end Role

def isOfKind (kind : String) : Node → Bool
  | .text _ => false
  | .element tag _ _ => kindOf tag == kind

/-- The role of a child with this tag that comes after these nodes. -/
def Role.below (r : Role) (before : List Node) (tag : String) : Role :=
  match r.slots.find? (·.kind == kindOf tag) with
  | some slot => if slot.firstOnly && before.any (isOfKind slot.kind) then .unread else slot.role
  | none => if r.bearsText then .textual else .unread

/-- The content is in another order, but not for any kind, and not for the text. -/
def Reordered (content content' : List Node) : Prop :=
  (∀ kind, content.filter (isOfKind kind) = content'.filter (isOfKind kind)) ∧
    content.Perm content'

/-- One edit of an element with this role that touches nothing that is read: an attribute, text
between the children or a child comes in that does not count, the children change places, or a child
is edited so. An attribute gets another value by going, backwards, and coming in again. -/
inductive Edit : Role → Element → Element → Prop where
  | attr {r : Role} {tag name : String} (value : String) {before after : Entries String}
      {content : List Node} (unread : ¬r.Reads name) :
      Edit r ⟨tag, before ++ after, content⟩ ⟨tag, before ++ (name, value) :: after, content⟩
  | text {r : Role} {tag : String} {attrs : Entries String} (s : String) {before after : List Node}
      (structural : r.bearsText = false) :
      Edit r ⟨tag, attrs, before ++ after⟩ ⟨tag, attrs, before ++ .text s :: after⟩
  | child {r : Role} {tag t : String} {attrs as : Entries String} {before after inner : List Node}
      (structural : r.bearsText = false) (unread : r.below before t = .unread) :
      Edit r ⟨tag, attrs, before ++ after⟩ ⟨tag, attrs, before ++ .element t as inner :: after⟩
  | reorder {r : Role} {tag : String} {attrs : Entries String} {content content' : List Node}
      (structural : r.bearsText = false) (kept : Reordered content content') :
      Edit r ⟨tag, attrs, content⟩ ⟨tag, attrs, content'⟩
  | within {r : Role} {tag t : String} {attrs as as' : Entries String}
      {before after inner inner' : List Node}
      (edit : Edit (r.below before t) ⟨t, as, inner⟩ ⟨t, as', inner'⟩) :
      Edit r ⟨tag, attrs, before ++ .element t as inner :: after⟩
        ⟨tag, attrs, before ++ .element t as' inner' :: after⟩

def Edited (root root' : Element) : Prop := Relation.EqvGen (Edit .feature) root root'

end FeatureSpec.Compile
