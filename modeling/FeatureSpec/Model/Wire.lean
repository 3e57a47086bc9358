import FeatureSpec.Model.Reply
/-!
The kinds of value that have a wire form, and that form.
-/
namespace FeatureSpec

open Payload

inductive Model where
  | feature | backend | query | actionQuery | listQuery | parameter | frontend | frontendReply
  | dataTable | column | form | field | button | message | mapping | mappingOptions
  | mappingOption | mappingsReply | queryReply | actionReply | checksum | bundle
  deriving DecidableEq, Repr

namespace Model

abbrev Value : Model → Type
  | .feature => Feature
  | .backend => Backend
  | .query => Query
  | .actionQuery => ActionQuery
  | .listQuery => ListQuery
  | .parameter => Parameter
  | .frontend => Frontend
  | .frontendReply => FrontendReply
  | .dataTable => DataTable
  | .column => Column
  | .form => Form
  | .field => Field
  | .button => Button
  | .message => Message
  | .mapping => Mapping
  | .mappingOptions => MappingOptions
  | .mappingOption => MappingOption
  | .mappingsReply => MappingsReply
  | .queryReply => QueryReply
  | .actionReply => ActionReply
  | .checksum => Checksum
  | .bundle => Bundle

def codec : (m : Model) → Codec m.Value
  | .feature => Feature.codec
  | .backend => Backend.codec
  | .query => Query.codec
  | .actionQuery => ActionQuery.codec
  | .listQuery => ListQuery.codec
  | .parameter => Parameter.codec
  | .frontend => Frontend.codec
  | .frontendReply => FrontendReply.codec
  | .dataTable => DataTable.codec
  | .column => Column.codec
  | .form => Form.codec
  | .field => Field.codec
  | .button => Button.codec
  | .message => Message.codec
  | .mapping => Mapping.codec
  | .mappingOptions => MappingOptions.codec
  | .mappingOption => MappingOption.codec
  | .mappingsReply => MappingsReply.codec
  | .queryReply => QueryReply.codec
  | .actionReply => ActionReply.codec
  | .checksum => Checksum.codec
  | .bundle => Bundle.codec

def given : (m : Model) → m.Value → List Json
  | .queryReply, r => QueryReply.given r
  | .actionReply, r => ActionReply.given r
  | .bundle, b => Bundle.given b
  | _, _ => []

def wire (m : Model) (v : m.Value) : Except Failure Json :=
  writtenWith (m.given v) (m.codec.encode v)

end Model
end FeatureSpec
