import FeatureSpec.Xml.Declaration
import FeatureSpec.Xml.Tree
/-!
Documents: from octets or a text to the tree of elements.
-/
namespace FeatureSpec.Xml.Document

def root? (size : Nat) (body : Body) : Option Element := do
  let (marks, content) ← Mark.scan? body.alphabet body.chars
  let doctype ← Doctype.ofMarks? body.alphabet size body.standalone marks
  let tokens ← Token.scan? body.alphabet content
  if doctype.table.isAffordable size (Event.namesIn tokens) then
    let depth := doctype.table.entities.length + 1
    Tree.ofEvents? (← Event.ofTokens? doctype depth [] tokens)
  else none

def ofOctets (honourEncoding : Bool) (os : Octets) : Except Fault Element := do
  let body ← Body.ofOctets honourEncoding os
  match root? os.length body with
  | some e => return e
  | none => .error .malformed

def ofString (text : String) : Except Fault Element := ofOctets false (Octets.ofString text)

end FeatureSpec.Xml.Document
