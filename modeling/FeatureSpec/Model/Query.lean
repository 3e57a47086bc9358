import FeatureSpec.Payload.Fields
/-!
Named queries and mutations, with the parameters of their text.
-/
namespace FeatureSpec

open Payload Payload.Fields

inductive QueryKind where
  | select
  deriving DecidableEq, Repr, Inhabited

instance : Choice QueryKind where
  title := "QueryKind"
  all := [.select]
  word
    | .select => "Select"

inductive ActionKind where
  | insert
  | update
  | delete
  deriving DecidableEq, Repr, Inhabited

instance : Choice ActionKind where
  title := "ActionKind"
  all := [.insert, .update, .delete]
  word
    | .insert => "Insert"
    | .update => "Update"
    | .delete => "Delete"

structure Parameter where
  name : String
  type : Option String := none
  required : Bool := false
  validation : Option String := none
  deriving DecidableEq, Repr

structure Query where
  id : String
  kind : QueryKind := .select
  description : Option String := none
  sql : String := ""
  parameters : List Parameter := []
  deriving DecidableEq, Repr

/-- A mutation. -/
structure ActionQuery where
  id : String
  kind : ActionKind := .insert
  description : Option String := none
  sql : String := ""
  parameters : List Parameter := []
  deriving DecidableEq, Repr

structure Backend where
  queries : List Query := []
  actionQueries : List ActionQuery := []
  deriving DecidableEq, Repr

namespace Parameter

def codec : Codec Parameter := .record "Parameter" <|
  Parameter.mk
    <$> mandatory "name" "name" .text Parameter.name
    <*> field "type" "type" (.nullable .text) none Parameter.type
    <*> field "required" "required" .flag false Parameter.required
    <*> field "validation" "validation" (.nullable .text) none Parameter.validation

end Parameter

namespace Query

def codec : Codec Query := .record "Query" <|
  Query.mk
    <$> mandatory "id" "id" .text Query.id
    <*> field "type" "kind" .choice .select Query.kind
    <*> field "description" "description" (.nullable .text) none Query.description
    <*> field "sql" "sql" .text "" Query.sql
    <*> field "parameters" "parameters" (.list Parameter.codec) [] Query.parameters

def parameterNames (q : Query) : List String := q.parameters.map Parameter.name

end Query

namespace ActionQuery

def codec : Codec ActionQuery := .record "ActionQuery" <|
  ActionQuery.mk
    <$> mandatory "id" "id" .text ActionQuery.id
    <*> field "type" "kind" .choice .insert ActionQuery.kind
    <*> field "description" "description" (.nullable .text) none ActionQuery.description
    <*> field "sql" "sql" .text "" ActionQuery.sql
    <*> field "parameters" "parameters" (.list Parameter.codec) [] ActionQuery.parameters

def parameterNames (q : ActionQuery) : List String := q.parameters.map Parameter.name

end ActionQuery

namespace Backend

def title : String := "BackendInfo"

def codec : Codec Backend := .record title <|
  Backend.mk
    <$> field "queries" "queries" (.list Query.codec) [] Backend.queries
    <*> field "actionQueries" "action_queries" (.list ActionQuery.codec) [] Backend.actionQueries

end Backend
end FeatureSpec
