import FeatureSpec.Model.Query
/-!
Mappings: presentation overrides for every field and column of one name, with options given
inline or by a query.
-/
namespace FeatureSpec

open Payload Payload.Fields

inductive OptionValue where
  | text (s : String)
  | int (n : Int)
  | float (x : Binary64)
  deriving DecidableEq, Repr

structure MappingOption where
  label : String := ""
  value : OptionValue := .text ""
  deriving DecidableEq, Repr

structure MappingOptions where
  items : List MappingOption := []
  deriving DecidableEq, Repr

structure ListQuery where
  id : String := ""
  kind : QueryKind := .select
  description : Option String := none
  sql : String := ""
  parameters : List Parameter := []
  deriving DecidableEq, Repr

structure Mapping where
  name : String
  dataType : String := ""
  label : String := ""
  listQuery : Option ListQuery := none
  options : Option MappingOptions := none
  required : Bool := false
  disabled : Bool := false
  readonly : Bool := false
  placeholder : Option String := none
  helperText : Option String := none
  rows : Option Int := none
  deriving DecidableEq, Repr

namespace OptionValue

/-- A text or a number stays what it is, a flag becomes 0 or 1. What is neither is at fault
as a text, as an integer and as a floating-point number. -/
def codec : Codec OptionValue where
  decode
    | .string s => .ok (.text s)
    | .int n => .ok (.int n)
    | .float x => .ok (.float x)
    | .bool b => .ok (.int (if b then 1 else 0))
    | v => .error [⟨[.key "str"], .notText, v⟩, ⟨[.key "int"], .notInteger, v⟩,
        ⟨[.key "float"], .notNumber, v⟩]
  encode
    | .text s => .string s
    | .int n => .int n
    | .float x => .float x

end OptionValue

namespace MappingOption

def codec : Codec MappingOption := .record "MappingOption" <|
  MappingOption.mk
    <$> field "label" "label" .text "" MappingOption.label
    <*> field "value" "value" OptionValue.codec (.text "") MappingOption.value

end MappingOption

namespace MappingOptions

def codec : Codec MappingOptions := .record "MappingOptions" <|
  MappingOptions.mk <$> field "items" "items" (.list MappingOption.codec) [] MappingOptions.items

end MappingOptions

namespace ListQuery

def codec : Codec ListQuery := .record "ListQuery" <|
  ListQuery.mk
    <$> field "id" "id" .text "" ListQuery.id
    <*> field "type" "kind" .choice .select ListQuery.kind
    <*> field "description" "description" (.nullable .text) none ListQuery.description
    <*> field "sql" "sql" .text "" ListQuery.sql
    <*> field "parameters" "parameters" (.list Parameter.codec) [] ListQuery.parameters

end ListQuery

namespace Mapping

def codec : Codec Mapping := .record "Mapping" <|
  Mapping.mk
    <$> mandatory "name" "name" .text Mapping.name
    <*> field "dataType" "data_type" .text "" Mapping.dataType
    <*> field "label" "label" .text "" Mapping.label
    <*> field "listQuery" "list_query" (.nullable ListQuery.codec) none Mapping.listQuery
    <*> field "options" "options" (.nullable MappingOptions.codec) none Mapping.options
    <*> field "required" "required" .flag false Mapping.required
    <*> field "disabled" "disabled" .flag false Mapping.disabled
    <*> field "readonly" "readonly" .flag false Mapping.readonly
    <*> field "placeholder" "placeholder" (.nullable .text) none Mapping.placeholder
    <*> field "helperText" "helper_text" (.nullable .text) none Mapping.helperText
    <*> field "rows" "rows" (.nullable .integer) none Mapping.rows

def optionItems (m : Mapping) : List MappingOption :=
  match m.options with
  | some options => options.items
  | none => []

def hasOptions (m : Mapping) : Bool := !m.optionItems.isEmpty

end Mapping
end FeatureSpec
