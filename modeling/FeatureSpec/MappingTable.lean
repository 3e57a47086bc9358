import FeatureSpec.Json.Display
import FeatureSpec.Log.Record
import FeatureSpec.Model.Feature
/-!
Mappings by name. Names stand in the order of first declaration; of several mappings with one
name the last counts.
-/
namespace FeatureSpec

structure MappingTable where
  entries : Entries Mapping := []
  deriving DecidableEq, Repr

namespace MappingTable

def ofList (mappings : List Mapping) : MappingTable :=
  ⟨Entries.ofList (mappings.map fun m => (m.name, m))⟩

def get? (t : MappingTable) (name : String) : Option Mapping := t.entries.get? name

def contains (t : MappingTable) (name : String) : Bool := t.entries.contains name

def names (t : MappingTable) : List String := t.entries.keys

def values (t : MappingTable) : List Mapping := t.entries.values

def size (t : MappingTable) : Nat := t.entries.length

def shown (t : MappingTable) : String :=
  "MappingTable(" ++ (Json.array (t.names.map .string)).shown ++ ")"

def repetitions : List String → List Mapping → List Log.Record
  | _, [] => []
  | seen, m :: rest =>
    (if seen.contains m.name then
      [Log.note Log.debug .mappings
        s!"Mapping '{m.name}' declared more than once; later entry wins"]
    else []) ++ repetitions (m.name :: seen) rest

end MappingTable
end FeatureSpec
