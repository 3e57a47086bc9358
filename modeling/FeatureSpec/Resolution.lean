import FeatureSpec.MappingTable
import FeatureSpec.Model.Feature
/-!
The effective presentation of fields and columns. A mapping of the same name overrides the
label, unless its own is empty, and the options of a field, unless it has none.
-/
namespace FeatureSpec

namespace Mapping

def givenLabel? (m : Mapping) : Option String := if m.label = "" then none else some m.label

def givenOptions? (m : Mapping) : Option (List MappingOption) :=
  if m.hasOptions then some m.optionItems else none

end Mapping

namespace Field

/-- The field with what is put over it, be it what was there; none if nothing is. -/
def override? (t : MappingTable) (f : Field) : Option Field :=
  let label := (t.get? f.name).bind Mapping.givenLabel?
  let options := (t.get? f.name).bind Mapping.givenOptions?
  if label.isNone && options.isNone then none
  else some { f with label := label.getD f.label, options := options.getD f.options }

def resolve (t : MappingTable) (f : Field) : Field := (f.override? t).getD f

def isOverridden (t : MappingTable) (f : Field) : Bool := (f.override? t).isSome

end Field

namespace Column

def override? (t : MappingTable) (c : Column) : Option Column :=
  ((t.get? c.name).bind Mapping.givenLabel?).map fun label => { c with label }

def resolve (t : MappingTable) (c : Column) : Column := (c.override? t).getD c

def isOverridden (t : MappingTable) (c : Column) : Bool := (c.override? t).isSome

end Column

namespace Form

def resolve (t : MappingTable) (f : Form) : Form := { f with fields := f.fields.map (·.resolve t) }

end Form

namespace DataTable

def resolve (m : MappingTable) (t : DataTable) : DataTable :=
  { t with columns := t.columns.map (·.resolve m) }

end DataTable

namespace MappingTable

/-- The mappings of parameters, in their order; a parameter without one is passed over. -/
def describe (t : MappingTable) (parameterNames : List String) : List Mapping :=
  parameterNames.filterMap t.get?

end MappingTable
end FeatureSpec
