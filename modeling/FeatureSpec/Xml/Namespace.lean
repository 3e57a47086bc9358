import FeatureSpec.Entries
import FeatureSpec.Xml.Character
/-!
Namespaces: what prefixes are bound to, and the expanded names of elements and attributes.
-/
namespace FeatureSpec.Xml

/-- Prefixes with their namespaces, the innermost binding first. The empty prefix is that of
elements without one. -/
abbrev Scope := List (String × String)

namespace Scope

def xmlNamespace : String := "http://www.w3.org/XML/1998/namespace"

def xmlnsNamespace : String := "http://www.w3.org/2000/xmlns/"

def outermost : Scope := [("xml", xmlNamespace)]

def find? (scope : Scope) (label : String) : Option String :=
  match Entries.get? scope label with
  | some "" => none
  | found => found

/-- Prefix and local name; without a colon the prefix is empty. -/
def split (name : String) : String × String :=
  let (front, back) := name.toList.span (· != ':')
  match back with
  | [] => ("", name)
  | _ :: rest => (String.ofList front, String.ofList rest)

def bound? (name : String) : Option String :=
  if name == "xmlns" then some ""
  else
    match split name with
    | ("xmlns", label) => some label
    | _ => none

/-- A new binding. The two reserved prefixes and their namespaces belong together, a prefix has
a namespace that is not empty, and no namespace holds a closing brace. -/
def bind? (scope : Scope) (label uri : String) : Option Scope :=
  if label == "xmlns" || uri == xmlnsNamespace || (label == "xml") != (uri == xmlNamespace) ||
      (label != "" && uri == "") || uri.toList.contains '}' then none
  else some ((label, uri) :: scope)

def extend? (scope : Scope) (attrs : List (String × String)) : Option Scope :=
  attrs.foldlM (fun scope (name, value) =>
    match bound? name with
    | some label => scope.bind? label value
    | none => some scope) scope

def expand (uri localName : String) : String := "\x7b" ++ uri ++ "\x7d" ++ localName

def elementName? (scope : Scope) (name : String) : Option String :=
  match split name with
  | ("", localName) =>
    match scope.find? "" with
    | some uri => some (expand uri localName)
    | none => some localName
  | (label, localName) => (scope.find? label).map fun uri => expand uri localName

/-- The expanded name of an attribute; without a prefix it is in no namespace. -/
def attributeName? (scope : Scope) (name : String) : Option String :=
  match split name with
  | ("", localName) => some localName
  | (label, localName) => (scope.find? label).map fun uri => expand uri localName

def attributes? (scope : Scope) (attrs : List (String × String)) :
    Option (Entries String) := do
  let plain := attrs.filter fun (name, _) => (bound? name).isNone
  let expanded ← plain.mapM fun (name, value) => do
    return ((← scope.attributeName? name), value)
  let names := expanded.map Prod.fst
  if names.eraseDups.length = names.length then some expanded else none

end Scope
end FeatureSpec.Xml
