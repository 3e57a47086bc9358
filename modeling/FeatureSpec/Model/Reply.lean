import FeatureSpec.Failure
import FeatureSpec.Model.Feature
/-!
What a backend answers with: the sections of a feature, rows, outcomes and checksums; and a
bundle of canned answers that stands in for a backend.
-/
namespace FeatureSpec

open Payload Payload.Fields

/-- The frontend section of a feature, tagged with the feature. -/
structure FrontendReply where
  dataTables : List DataTable := []
  forms : List Form := []
  feature : String := ""
  version : String := ""
  deriving DecidableEq, Repr

structure MappingsReply where
  feature : String := ""
  version : String := ""
  resolvedCount : Int := 0
  mappings : List Mapping := []
  deriving DecidableEq, Repr

structure QueryReply where
  data : List (Entries Json) := []
  total : Int := 0
  page : Option Int := none
  pageSize : Option Int := none
  deriving DecidableEq, Repr

structure ActionReply where
  success : Bool := false
  message : Option String := none
  data : Json := .null
  deriving DecidableEq, Repr

structure Checksum where
  feature : String
  checksum : String
  algorithm : String := "md5"
  deriving DecidableEq, Repr

structure Bundle where
  backend : Option Backend := none
  frontend : Option FrontendReply := none
  mappings : Option MappingsReply := none
  queries : Entries QueryReply := []
  actions : Entries ActionReply := []
  deriving DecidableEq, Repr

/-- How deep a value may nest that is written as it was given. -/
def depthLimit : Nat := 255

def writtenWith (given : List Json) (written : Json) : Except Failure Json :=
  if given.all fun v => v.depth ≤ depthLimit then .ok written else .error (.value .tooDeep)

namespace FrontendReply

def title : String := "FrontendElements"

def codec : Codec FrontendReply := .record title <|
  FrontendReply.mk
    <$> field "dataTables" "data_tables" (.list DataTable.codec) [] FrontendReply.dataTables
    <*> field "forms" "forms" (.list Form.codec) [] FrontendReply.forms
    <*> field "feature" "feature" .text "" FrontendReply.feature
    <*> field "version" "version" .text "" FrontendReply.version

end FrontendReply

namespace MappingsReply

def title : String := "MappingsResponse"

def codec : Codec MappingsReply := .record title <|
  MappingsReply.mk
    <$> field "feature" "feature" .text "" MappingsReply.feature
    <*> field "version" "version" .text "" MappingsReply.version
    <*> field "resolvedCount" "resolved_count" .integer 0 MappingsReply.resolvedCount
    <*> field "mappings" "mappings" (.list Mapping.codec) [] MappingsReply.mappings

/-- The codec that also reads a bare list, as the mappings of an otherwise plain reply. -/
def listOrReply : Codec (Option MappingsReply) where
  decode
    | .array items =>
      (codec.decode (.object [("mappings", .array items),
        ("resolvedCount", .int items.length)])).map some
    | v => (Codec.nullable codec).decode v
  encode := (Codec.nullable codec).encode

end MappingsReply

namespace QueryReply

def title : String := "QueryResponse"

def codec : Codec QueryReply := .record title <|
  QueryReply.mk
    <$> field "data" "data" (.list (.entries .anything)) [] QueryReply.data
    <*> field "total" "total" .integer 0 QueryReply.total
    <*> field "page" "page" (.nullable .integer) none QueryReply.page
    <*> field "pageSize" "page_size" (.nullable .integer) none QueryReply.pageSize

def given (r : QueryReply) : List Json := r.data.flatMap fun row => row.map Prod.snd

def write (r : QueryReply) : Except Failure Json := writtenWith r.given (codec.encode r)

end QueryReply

namespace ActionReply

def title : String := "ActionResponse"

def codec : Codec ActionReply := .record title <|
  ActionReply.mk
    <$> field "success" "success" .flag false ActionReply.success
    <*> field "message" "message" (.nullable .text) none ActionReply.message
    <*> field "data" "data" .anything .null ActionReply.data

def given (r : ActionReply) : List Json := [r.data]

def write (r : ActionReply) : Except Failure Json := writtenWith r.given (codec.encode r)

end ActionReply

namespace Checksum

def title : String := "FeatureChecksum"

def codec : Codec Checksum := .record title <|
  Checksum.mk
    <$> mandatory "feature" "feature" .text Checksum.feature
    <*> mandatory "checksum" "checksum" .text Checksum.checksum
    <*> field "algorithm" "algorithm" .text "md5" Checksum.algorithm

end Checksum

namespace Bundle

def title : String := "MockBundle"

def codec : Codec Bundle := .record title <|
  Bundle.mk
    <$> field "backEnd" "backend" (.nullable Backend.codec) none Bundle.backend
    <*> field "frontEnd" "frontend" (.nullable FrontendReply.codec) none Bundle.frontend
    <*> field "mappings" "mappings" MappingsReply.listOrReply none Bundle.mappings
    <*> field "queries" "queries" (.entries QueryReply.codec) [] Bundle.queries
    <*> field "actionQueries" "actions" (.entries ActionReply.codec) [] Bundle.actions

def given (b : Bundle) : List Json :=
  b.queries.flatMap (fun q => q.2.given) ++ b.actions.flatMap fun a => a.2.given

def ofFeature (f : Feature) (queries : Entries QueryReply) (actions : Entries ActionReply) :
    Bundle where
  backend := some f.backend
  frontend := some
    { dataTables := f.frontend.dataTables, forms := f.frontend.forms, feature := f.name,
      version := f.version }
  mappings := some
    { feature := f.name, version := f.version, resolvedCount := f.mappings.length,
      mappings := f.mappings }
  queries := queries
  actions := actions

end Bundle
end FeatureSpec
