import FeatureSpec.Text.Lines
import FeatureSpec.Xml.Doctype
/-!
Events: content with every reference replaced and every attribute value final.
-/
namespace FeatureSpec.Xml

inductive Event where
  /-- Text; `written` says that it stands in the document as it is. -/
  | text (written : Bool) (cs : List Char)
  | start (name : String) (attrs : List (String × String))
  | stop (name : String)
  deriving DecidableEq, Repr

namespace Event

def isBalanced : Nat → List Event → Bool
  | depth, [] => depth == 0
  | depth, .start .. :: rest => isBalanced (depth + 1) rest
  | 0, .stop _ :: _ => false
  | depth + 1, .stop _ :: rest => isBalanced depth rest
  | depth, .text .. :: rest => isBalanced depth rest

/-- The attributes of a start tag, those that fall back on a declared value at the end. No name
occurs twice. -/
def attributes? (d : Doctype) (opened : List String) (element : String)
    (attrs : List (String × List Piece)) : Option (List (String × String)) := do
  let names := attrs.map Prod.fst
  let rules := d.rulesFor element
  let given ← attrs.mapM fun (name, pieces) => do
    let isCdata := ((rules.find? (·.name == name)).map AttributeRule.isCdata).getD true
    return (name, ← d.table.attributeValue? opened isCdata pieces)
  let fallbacks := rules.filterMap fun rule =>
    if names.contains rule.name then none else rule.fallback.map fun value => (rule.name, value)
  if names.eraseDups.length = names.length then some (given ++ fallbacks) else none

/-- The events of tokens. An entity stands for the events of its text, which are balanced, after
a mark that something was replaced here. `depth` bounds the nesting of entities, those in
`opened` are being replaced. -/
def ofTokens? (d : Doctype) : Nat → List String → List Token → Option (List Event)
  | 0, _, _ => none
  | depth + 1, opened, tokens => do
    let parts ← tokens.mapM fun token =>
      match token with
      | .text cs => some [text opened.isEmpty cs]
      | .data cs => some [text false cs]
      | .start name attrs closed => do
        let attrs ← attributes? d opened name attrs
        return start name attrs :: (if closed then [stop name] else [])
      | .stop name => some [stop name]
      | .entity name =>
        match d.table.entities.get? name with
        | some (.internal cs) =>
          if opened.contains name then none
          else do
            let inner ← ofTokens? d depth (name :: opened) 
              (← Token.scan? .standard (Text.normalizeLines cs))
            if isBalanced 0 inner then some (text false [] :: inner) else none
        | _ => none
    return parts.flatten

def namesIn (tokens : List Token) : List String :=
  tokens.flatMap fun
    | .entity name => [name]
    | .start _ attrs _ => attrs.flatMap fun (_, pieces) => EntityTable.namesIn pieces
    | _ => []

end Event
end FeatureSpec.Xml
