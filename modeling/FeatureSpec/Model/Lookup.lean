import FeatureSpec.Model.Feature
/-!
Lookups by id and by name. Among elements of one id the first is found, among mappings of one
name the last.
-/
namespace FeatureSpec

namespace DataTable

def column? (t : DataTable) (name : String) : Option Column := t.columns.find? (·.name == name)

end DataTable

namespace Form

def field? (f : Form) (name : String) : Option Field := f.fields.find? (·.name == name)

end Form

namespace Feature

def query? (f : Feature) (id : String) : Option Query := f.backend.queries.find? (·.id == id)

def action? (f : Feature) (id : String) : Option ActionQuery :=
  f.backend.actionQueries.find? (·.id == id)

def dataTable? (f : Feature) (id : String) : Option DataTable :=
  f.frontend.dataTables.find? (·.id == id)

def form? (f : Feature) (id : String) : Option Form := f.frontend.forms.find? (·.id == id)

def mapping? (f : Feature) (name : String) : Option Mapping :=
  f.mappings.reverse.find? (·.name == name)

end Feature
end FeatureSpec
