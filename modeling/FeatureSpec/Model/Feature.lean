import FeatureSpec.Model.Frontend
/-!
The definition of a feature: its backend and frontend sections and its mappings.
-/
namespace FeatureSpec

open Payload Payload.Fields

structure Feature where
  name : String
  version : String := ""
  backend : Backend := {}
  frontend : Frontend := {}
  mappings : List Mapping := []
  deriving DecidableEq, Repr

structure Stats where
  queries : Nat
  actionQueries : Nat
  dataTables : Nat
  forms : Nat
  fields : Nat
  mappings : Nat
  deriving DecidableEq, Repr

namespace Stats

def entries (s : Stats) : List (String × Nat) :=
  [("queries", s.queries), ("action_queries", s.actionQueries), ("data_tables", s.dataTables),
   ("forms", s.forms), ("fields", s.fields), ("mappings", s.mappings)]

def toJson (s : Stats) : Json := .object (s.entries.map fun (k, n) => (k, .int n))

end Stats

namespace Feature

def title : String := "FeatureDefinition"

def codec : Codec Feature := .record title <|
  Feature.mk
    <$> mandatory "name" "name" .text Feature.name
    <*> field "version" "version" .text "" Feature.version
    <*> field "backend" "backend" Backend.codec {} Feature.backend
    <*> field "frontend" "frontend" Frontend.codec {} Feature.frontend
    <*> field "mappings" "mappings" (.list Mapping.codec) [] Feature.mappings

def stats (f : Feature) : Stats where
  queries := f.backend.queries.length
  actionQueries := f.backend.actionQueries.length
  dataTables := f.frontend.dataTables.length
  forms := f.frontend.forms.length
  fields := f.frontend.forms.foldl (fun n form => n + form.fields.length) 0
  mappings := f.mappings.length

end Feature
end FeatureSpec
