import FeatureSpec.Entries
/-!
Element trees: text and elements in document order. A tag and an attribute name is a local
name, after its namespace in braces where it has one.
-/
namespace FeatureSpec.Xml

inductive Node where
  | text (s : String)
  | element (tag : String) (attrs : Entries String) (content : List Node)
  deriving Repr

structure Element where
  tag : String
  attrs : Entries String := []
  content : List Node := []
  deriving Repr

namespace Node

def element? : Node → Option Element
  | .element tag attrs content => some ⟨tag, attrs, content⟩
  | .text _ => none

mutual

def chars : Node → List Char
  | .text s => s.toList
  | .element _ _ content => charsOf content

def charsOf : List Node → List Char
  | [] => []
  | n :: rest => n.chars ++ charsOf rest

end

end Node

namespace Element

def get? (e : Element) (name : String) : Option String := e.attrs.get? name

def children (e : Element) : List Element := e.content.filterMap Node.element?

def named (e : Element) (tag : String) : List Element := e.children.filter (·.tag == tag)

def first? (e : Element) (tag : String) : Option Element := e.children.find? (·.tag == tag)

def chars (e : Element) : List Char := Node.charsOf e.content

end Element
end FeatureSpec.Xml
