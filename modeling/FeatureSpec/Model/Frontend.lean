import FeatureSpec.Model.Mapping
import FeatureSpec.Text.Blank
import FeatureSpec.Text.Piece
/-!
The frontend section: data tables with their columns, forms with their fields, buttons and
messages.
-/
namespace FeatureSpec

open Payload Payload.Fields

inductive ColumnType where
  | text | number | date | dateTime | boolean | currency | percentage | link | badge | image
  | email | phone | url
  deriving DecidableEq, Repr, Inhabited

instance : Choice ColumnType where
  title := "ColumnType"
  all := [.text, .number, .date, .dateTime, .boolean, .currency, .percentage, .link, .badge,
    .image, .email, .phone, .url]
  word
    | .text => "Text"
    | .number => "Number"
    | .date => "Date"
    | .dateTime => "DateTime"
    | .boolean => "Boolean"
    | .currency => "Currency"
    | .percentage => "Percentage"
    | .link => "Link"
    | .badge => "Badge"
    | .image => "Image"
    | .email => "Email"
    | .phone => "Phone"
    | .url => "URL"

inductive FieldType where
  | text | number | date | dateTime | boolean | currency | percentage | link | badge | image
  | email | phone | url | password | select | multiSelect | checkbox | radio | textarea
  | hidden | file | decimal | time
  deriving DecidableEq, Repr, Inhabited

instance : Choice FieldType where
  title := "FieldType"
  all := [.text, .number, .date, .dateTime, .boolean, .currency, .percentage, .link, .badge,
    .image, .email, .phone, .url, .password, .select, .multiSelect, .checkbox, .radio, .textarea,
    .hidden, .file, .decimal, .time]
  word
    | .text => "Text"
    | .number => "Number"
    | .date => "Date"
    | .dateTime => "DateTime"
    | .boolean => "Boolean"
    | .currency => "Currency"
    | .percentage => "Percentage"
    | .link => "Link"
    | .badge => "Badge"
    | .image => "Image"
    | .email => "Email"
    | .phone => "Phone"
    | .url => "URL"
    | .password => "Password"
    | .select => "Select"
    | .multiSelect => "MultiSelect"
    | .checkbox => "Checkbox"
    | .radio => "Radio"
    | .textarea => "Textarea"
    | .hidden => "Hidden"
    | .file => "File"
    | .decimal => "Decimal"
    | .time => "Time"

inductive Alignment where
  | left | center | right
  deriving DecidableEq, Repr, Inhabited

instance : Choice Alignment where
  title := "Alignment"
  all := [.left, .center, .right]
  word
    | .left => "left"
    | .center => "center"
    | .right => "right"

inductive FormMode where
  | create | edit | view | delete | search
  deriving DecidableEq, Repr, Inhabited

instance : Choice FormMode where
  title := "FormMode"
  all := [.create, .edit, .view, .delete, .search]
  word
    | .create => "Create"
    | .edit => "Edit"
    | .view => "View"
    | .delete => "Delete"
    | .search => "Search"

inductive ButtonType where
  | submit | cancel | reset | close | custom
  deriving DecidableEq, Repr, Inhabited

instance : Choice ButtonType where
  title := "ButtonType"
  all := [.submit, .cancel, .reset, .close, .custom]
  word
    | .submit => "Submit"
    | .cancel => "Cancel"
    | .reset => "Reset"
    | .close => "Close"
    | .custom => "Custom"

inductive ButtonStyle where
  | primary | secondary | danger | success | warning | info
  deriving DecidableEq, Repr, Inhabited

instance : Choice ButtonStyle where
  title := "ButtonStyle"
  all := [.primary, .secondary, .danger, .success, .warning, .info]
  word
    | .primary => "Primary"
    | .secondary => "Secondary"
    | .danger => "Danger"
    | .success => "Success"
    | .warning => "Warning"
    | .info => "Info"

inductive MessageType where
  | info | warning | error | success
  deriving DecidableEq, Repr, Inhabited

instance : Choice MessageType where
  title := "MessageType"
  all := [.info, .warning, .error, .success]
  word
    | .info => "Info"
    | .warning => "Warning"
    | .error => "Error"
    | .success => "Success"

structure Column where
  name : String
  label : String := ""
  type : ColumnType := .text
  sortable : Bool := false
  filterable : Bool := false
  width : Option String := none
  format : Option String := none
  align : Alignment := .left
  deriving DecidableEq, Repr

/-- A table fed by the query that `queryRef` names. -/
structure DataTable where
  id : String
  queryRef : String := ""
  title : Option String := none
  description : Option String := none
  pagination : Bool := true
  pageSize : Option Int := none
  sortable : Bool := false
  filterable : Bool := false
  searchable : Bool := false
  columns : List Column := []
  formActions : Option String := none
  deriving DecidableEq, Repr

structure Field where
  name : String
  label : String := ""
  dataType : FieldType := .text
  required : Bool := false
  readonly : Bool := false
  disabled : Bool := false
  placeholder : Option String := none
  helperText : Option String := none
  options : List MappingOption := []
  validation : Option String := none
  format : Option String := none
  defaultValue : Option String := none
  rows : Option Int := none
  deriving DecidableEq, Repr

structure Button where
  id : Option String := none
  type : ButtonType := .submit
  label : Option String := none
  style : ButtonStyle := .primary
  disabled : Bool := false
  actionRef : Option String := none
  deriving DecidableEq, Repr

structure Message where
  type : MessageType := .info
  content : String := ""
  visible : Bool := true
  deriving DecidableEq, Repr

structure Form where
  id : String
  mode : FormMode := .create
  title : Option String := none
  description : Option String := none
  dialog : Bool := false
  actionRef : Option String := none
  queryRef : Option String := none
  fields : List Field := []
  buttons : List Button := []
  messages : List Message := []
  deriving DecidableEq, Repr

structure Frontend where
  dataTables : List DataTable := []
  forms : List Form := []
  deriving DecidableEq, Repr

namespace Column

def codec : Codec Column := .record "Column" <|
  Column.mk
    <$> mandatory "name" "name" .text Column.name
    <*> field "label" "label" .text "" Column.label
    <*> field "type" "type" .choice .text Column.type
    <*> field "sortable" "sortable" .flag false Column.sortable
    <*> field "filterable" "filterable" .flag false Column.filterable
    <*> field "width" "width" (.nullable .text) none Column.width
    <*> field "format" "format" (.nullable .text) none Column.format
    <*> field "align" "align" .choice .left Column.align

end Column

namespace DataTable

def codec : Codec DataTable := .record "DataTable" <|
  DataTable.mk
    <$> mandatory "id" "id" .text DataTable.id
    <*> field "queryRef" "query_ref" .text "" DataTable.queryRef
    <*> field "title" "title" (.nullable .text) none DataTable.title
    <*> field "description" "description" (.nullable .text) none DataTable.description
    <*> field "pagination" "pagination" .flag true DataTable.pagination
    <*> field "pageSize" "page_size" (.nullable .integer) none DataTable.pageSize
    <*> field "sortable" "sortable" .flag false DataTable.sortable
    <*> field "filterable" "filterable" .flag false DataTable.filterable
    <*> field "searchable" "searchable" .flag false DataTable.searchable
    <*> field "columns" "columns" (.list Column.codec) [] DataTable.columns
    <*> field "formActions" "form_actions" (.nullable .text) none DataTable.formActions

def formActionIds (t : DataTable) : List String :=
  match t.formActions with
  | none => []
  | some s => ((Text.pieces ',' s).map Text.trim).filter (· ≠ "")

end DataTable

namespace Field

def codec : Codec Field := .record "Field" <|
  Field.mk
    <$> mandatory "name" "name" .text Field.name
    <*> field "label" "label" .text "" Field.label
    <*> field "dataType" "data_type" .choice .text Field.dataType
    <*> field "required" "required" .flag false Field.required
    <*> field "readonly" "readonly" .flag false Field.readonly
    <*> field "disabled" "disabled" .flag false Field.disabled
    <*> field "placeholder" "placeholder" (.nullable .text) none Field.placeholder
    <*> field "helperText" "helper_text" (.nullable .text) none Field.helperText
    <*> field "options" "options" (.list MappingOption.codec) [] Field.options
    <*> field "validation" "validation" (.nullable .text) none Field.validation
    <*> field "format" "format" (.nullable .text) none Field.format
    <*> field "defaultValue" "default_value" (.nullable .text) none Field.defaultValue
    <*> field "rows" "rows" (.nullable .integer) none Field.rows

end Field

namespace ButtonType

def defaultLabel : ButtonType → String
  | .submit => "Submit"
  | .cancel => "Cancel"
  | .reset => "Reset"
  | .close => "Close"
  | .custom => "Button"

end ButtonType

namespace Button

def codec : Codec Button := .record "Button" <|
  Button.mk
    <$> field "id" "id" (.nullable .text) none Button.id
    <*> field "type" "type" .choice .submit Button.type
    <*> field "label" "label" (.nullable .text) none Button.label
    <*> field "style" "style" .choice .primary Button.style
    <*> field "disabled" "disabled" .flag false Button.disabled
    <*> field "actionRef" "action_ref" (.nullable .text) none Button.actionRef

def displayLabel (b : Button) : String :=
  match b.label with
  | some label => if label = "" then b.type.defaultLabel else label
  | none => b.type.defaultLabel

end Button

namespace Message

def codec : Codec Message := .record "Message" <|
  Message.mk
    <$> field "type" "type" .choice .info Message.type
    <*> field "content" "content" .text "" Message.content
    <*> field "visible" "visible" .flag true Message.visible

end Message

namespace Form

def codec : Codec Form := .record "Form" <|
  Form.mk
    <$> mandatory "id" "id" .text Form.id
    <*> field "mode" "mode" .choice .create Form.mode
    <*> field "title" "title" (.nullable .text) none Form.title
    <*> field "description" "description" (.nullable .text) none Form.description
    <*> field "dialog" "dialog" .flag false Form.dialog
    <*> field "actionRef" "action_ref" (.nullable .text) none Form.actionRef
    <*> field "queryRef" "query_ref" (.nullable .text) none Form.queryRef
    <*> field "fields" "fields" (.list Field.codec) [] Form.fields
    <*> field "buttons" "buttons" (.list Button.codec) [] Form.buttons
    <*> field "messages" "messages" (.list Message.codec) [] Form.messages

def visibleMessages (f : Form) : List Message := f.messages.filter Message.visible

end Form

namespace Frontend

def title : String := "FrontendInfo"

def codec : Codec Frontend := .record title <|
  Frontend.mk
    <$> field "dataTables" "data_tables" (.list DataTable.codec) [] Frontend.dataTables
    <*> field "forms" "forms" (.list Form.codec) [] Frontend.forms

end Frontend
end FeatureSpec
