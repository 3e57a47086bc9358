import FeatureSpec.Compile.Attribute
import FeatureSpec.Json.Display
import FeatureSpec.Model.Feature
import FeatureSpec.Placeholder
/-!
From the tree of a document to the feature that it defines.
-/
namespace FeatureSpec.Compile

open Xml

def place (parent tag name : String) : String := s!"{parent}/{tag}[{name}]"

def query (parent : String) (e : Element) : Visit Query := do
  let id ← required e "Id" s!"{parent}/Query"
  let kind ← choice e "Type" (place parent "Query" id) QueryKind.select
  let sql := body e
  return { id, kind, description := text? e "Description", sql,
           parameters := Placeholder.parameters sql }

def actionQuery (parent : String) (e : Element) : Visit ActionQuery := do
  let id ← required e "Id" s!"{parent}/ActionQuery"
  let kind ← choice e "Type" (place parent "ActionQuery" id) ActionKind.insert
  let sql := body e
  return { id, kind, description := text? e "Description", sql,
           parameters := Placeholder.parameters sql }

def backend (e : Element) : Visit Backend := do
  let queries ← Visit.each (query "Feature/Backend") (e.named "Query")
  let actionQueries ← Visit.each (actionQuery "Feature/Backend") (e.named "ActionQuery")
  return { queries, actionQueries }

def column (parent : String) (e : Element) : Visit Column := do
  let name ← required e "Name" s!"{parent}/Column"
  let here := place parent "Column" name
  let type ← choice e "Type" here ColumnType.text
  let align ← choice e "Align" here Alignment.left
  return { name, label := attr e "Label", type, sortable := flag e "Sortable" false,
           filterable := flag e "Filterable" false, width := text? e "Width",
           format := text? e "Format", align }

def dataTable (parent : String) (e : Element) : Visit DataTable := do
  let id ← required e "Id" s!"{parent}/DataTable"
  let here := place parent "DataTable" id
  let pageSize ← integer? e "PageSize"
  let columns ← Visit.each (column here) (e.named "Column")
  return { id, queryRef := attr e "QueryRef", title := text? e "Title",
           description := text? e "Description", pagination := flag e "Pagination" true, pageSize,
           sortable := flag e "Sortable" false, filterable := flag e "Filterable" false,
           searchable := flag e "Searchable" false, columns,
           formActions := text? e "FormActions" }

def option (e : Element) : MappingOption :=
  { label := attr e "Label", value := .text (attr e "Value") }

/-- The options of a field, its own first, then those that are wrapped. -/
def fieldOptions (e : Element) : List MappingOption :=
  (e.named "Option" ++ (e.named "Options").flatMap (·.named "Option")).map option

def field (parent : String) (e : Element) : Visit Field := do
  let name ← required e "Name" s!"{parent}/Field"
  let dataType ← choice e "Type" (place parent "Field" name) FieldType.text
  let rows ← integer? e "Rows"
  return { name, label := attr e "Label", dataType, required := flag e "Required" false,
           readonly := flag e "Readonly" false, disabled := flag e "Disabled" false,
           placeholder := text? e "Placeholder", helperText := text? e "HelperText",
           options := fieldOptions e, validation := text? e "Validation",
           format := text? e "Format", defaultValue := attr? e "DefaultValue", rows }

def button (parent : String) (e : Element) : Visit Button := do
  let type ← choice e "Type" s!"{parent}/Button" ButtonType.submit
  let style ← choice e "Style" s!"{parent}/Button" ButtonStyle.primary
  return { id := text? e "Id", type, label := text? e "Label", style,
           disabled := flag e "Disabled" false, actionRef := text? e "ActionRef" }

def message (parent : String) (e : Element) : Visit Message := do
  let type ← choice e "Type" s!"{parent}/Message" MessageType.info
  return { type, content := body e, visible := flag e "Visible" true }

def form (parent : String) (e : Element) : Visit Form := do
  let id ← required e "Id" s!"{parent}/Form"
  let here := place parent "Form" id
  let mode ← choice e "Mode" here FormMode.create
  let fields ← Visit.each (field here) (e.named "Field")
  let buttons ← Visit.each (button here) (e.named "Button")
  let messages ← Visit.each (message here) (e.named "Message")
  return { id, mode, title := text? e "Title", description := text? e "Description",
           dialog := flag e "Dialog" false, actionRef := text? e "ActionRef",
           queryRef := text? e "QueryRef", fields, buttons, messages }

def frontend (e : Element) : Visit Frontend := do
  let dataTables ← Visit.each (dataTable "Feature/Frontend") (e.named "DataTable")
  let forms ← Visit.each (form "Feature/Frontend") (e.named "Form")
  return { dataTables, forms }

def listQuery (parent : String) (e : Element) : Visit ListQuery := do
  let kind ← choice e "Type" s!"{parent}/ListQuery" QueryKind.select
  let sql := body e
  return { id := attr e "Id", kind, description := text? e "Description", sql,
           parameters := Placeholder.parameters sql }

def section? {α : Type} (absent : α) (compile : Element → Visit α) : Option Element → Visit α
  | some e => compile e
  | none => pure absent

def isMapping (e : Element) : Bool := e.tag == "Mapping" || e.tag == "ParameterMapping"

def mapping (e : Element) : Visit Mapping := do
  let name ← required e "Name" s!"Feature/{e.tag}"
  let here := place "Feature" e.tag name
  let options : Option MappingOptions :=
    (e.first? "Options").map fun wrapper => { items := (wrapper.named "Option").map option }
  let listQuery ← section? none (fun child => some <$> listQuery here child) (e.first? "ListQuery")
  if options.isSome && listQuery.isSome then
    Visit.debug fun _ => s!"{here} declares both Options and ListQuery"
  let rows ← integer? e "Rows"
  return { name, dataType := attr e "DataType", label := attr e "Label", listQuery, options,
           required := flag e "Required" false, disabled := flag e "Disabled" false,
           readonly := flag e "Readonly" false, placeholder := text? e "Placeholder",
           helperText := text? e "HelperText", rows }

def feature (root : Element) : Visit Feature := do
  let name ← required root "Name" "Feature"
  let backend ← section? {} backend (root.first? "Backend")
  let frontend ← section? {} frontend (root.first? "Frontend")
  let mappings ← Visit.each mapping (root.children.filter isMapping)
  return { name, version := attr root "Version", backend, frontend, mappings }

end FeatureSpec.Compile
