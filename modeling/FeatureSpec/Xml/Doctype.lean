import FeatureSpec.Xml.Entity
import FeatureSpec.Xml.Mark
/-!
The document type declaration: what it declares about entities and attributes. Everything else
in it is checked for its form alone. A reference to a parameter entity is not followed; from
there on declarations are passed over, unless the document stands alone.
-/
namespace FeatureSpec.Xml

structure AttributeRule where
  name : String
  isCdata : Bool
  fallback : Option String := none
  deriving DecidableEq, Repr

structure Doctype where
  alphabet : Alphabet := .standard
  table : EntityTable := {}
  rules : Entries (List AttributeRule) := []
  /-- Declarations still count. -/
  reading : Bool := true
  deriving DecidableEq, Repr

namespace Doctype

def rulesFor (d : Doctype) (element : String) : List AttributeRule :=
  (d.rules.get? element).getD []

def isPublicChar (c : Char) : Bool :=
  c.isAlphanum || " \n-'()+,./:=?;!*#@$_%".toList.contains c

/-- The text that an entity is declared with: references to characters are replaced, those to
entities stay, and a percent sign has no place in it. -/
def entityText? (a : Alphabet) : Nat → List Char → Option (List Char)
  | _, [] => some []
  | 0, _ :: _ => none
  | fuel + 1, c :: rest =>
    if c = '%' then none
    else if c = '&' then do
      let (r, rest) ← Reference.scan? a rest
      let more ← entityText? a fuel rest
      match r with
      | .code c => return c :: more
      | .entity name => return '&' :: name.toList ++ ';' :: more
    else (entityText? a fuel rest).map (c :: ·)

/-- Adds an entity; the first declaration of a name counts, and none counts for the names that
need no declaration. -/
def addEntity (d : Doctype) (name : String) (entity : Entity) : Doctype :=
  if !d.reading || (Reference.predefined? name).isSome || d.table.entities.contains name then d
  else { d with table := { d.table with entities := d.table.entities ++ [(name, entity)] } }

/-- Adds a rule; the first one for an attribute counts. -/
def addRule (d : Doctype) (element : String) (rule : AttributeRule) : Doctype :=
  let known := d.rulesFor element
  if !d.reading || known.any (·.name == rule.name) then d
  else { d with rules := d.rules.put element (known ++ [rule]) }

open Mark

def externalId? : List Mark → Option (List Mark)
  | name "SYSTEM" :: literal _ :: rest => some rest
  | name "PUBLIC" :: literal id :: literal _ :: rest =>
    if id.all isPublicChar then some rest else none
  | _ => none

def entityValue? (d : Doctype) (cs : List Char) : Option (List Char) :=
  if d.reading then entityText? d.alphabet cs.length cs else some cs

def entity? (d : Doctype) : List Mark → Option (Doctype × List Mark)
  | percent :: name _ :: literal value :: closing :: rest => do
    let _ ← d.entityValue? value
    return (d, rest)
  | percent :: name _ :: rest => do
    match ← externalId? rest with
    | closing :: rest => some (d, rest)
    | _ => none
  | name n :: literal value :: closing :: rest => do
    return (d.addEntity n (.internal (← d.entityValue? value)), rest)
  | name n :: rest => do
    match ← externalId? rest with
    | closing :: rest => some (d.addEntity n .elsewhere, rest)
    | name "NDATA" :: name _ :: closing :: rest => some (d.addEntity n .elsewhere, rest)
    | _ => none
  | _ => none

def alternatives? (isItem : Mark → Bool) : List Mark → Option (List Mark)
  | item :: closeParen :: rest => if isItem item then some rest else none
  | item :: bar :: rest => if isItem item then alternatives? isItem rest else none
  | _ => none

def isPlainName : Mark → Bool
  | name _ => true
  | _ => false

def isToken : Mark → Bool
  | name _ | prefixedName _ | loose => true
  | _ => false

def attributeType? : List Mark → Option (Bool × List Mark)
  | name "NOTATION" :: openParen :: rest => (alternatives? isPlainName rest).map (false, ·)
  | name word :: rest =>
    if word = "CDATA" then some (true, rest)
    else if ["ID", "IDREF", "IDREFS", "ENTITY", "ENTITIES", "NMTOKEN", "NMTOKENS"].contains word
    then some (false, rest)
    else none
  | openParen :: rest => (alternatives? isToken rest).map (false, ·)
  | _ => none

def fallback? : List Mark → Option (Option (List Char) × List Mark)
  | keyword "IMPLIED" :: rest | keyword "REQUIRED" :: rest => some (none, rest)
  | keyword "FIXED" :: literal value :: rest | literal value :: rest => some (some value, rest)
  | _ => none

def attributeRules? (size : Nat) (element : String) :
    Nat → Doctype → List Mark → Option (Doctype × List Mark)
  | _, d, closing :: rest => some (d, rest)
  | fuel + 1, d, name n :: rest | fuel + 1, d, prefixedName n :: rest => do
    let (isCdata, rest) ← attributeType? rest
    let (written, rest) ← fallback? rest
    let fallback ←
      match written with
      | some cs =>
        if d.reading then do
          let pieces ← Piece.scan? d.alphabet cs
          if d.table.isAffordable size (EntityTable.namesIn pieces) then
            (d.table.attributeValue? [] isCdata pieces).map some
          else none
        else some none
      | none => some none
    attributeRules? size element fuel (d.addRule element ⟨n, isCdata, fallback⟩) rest
  | _, _, _ => none

inductive Connector where
  | comma
  | bar
  deriving DecidableEq, Repr

/-- The marks of a content model after its opening parenthesis. `groups` are the open groups,
the innermost first, each with its connector once it is known; `expecting` says that an item
has to come next. -/
def contentModel? : (expecting : Bool) → List (Option Connector) → List Mark → Option (List Mark)
  | true, groups, openParen :: rest => contentModel? true (none :: groups) rest
  | true, groups, name _ :: rest | true, groups, prefixedName _ :: rest
  | true, groups, repeated :: rest => contentModel? false groups rest
  | false, _ :: groups, closeParen :: rest | false, _ :: groups, closeParenStar :: rest
  | false, _ :: groups, closeParenRepeated :: rest =>
    if groups.isEmpty then some rest else contentModel? false groups rest
  | false, connector :: groups, Mark.comma :: rest =>
    if connector = some .bar then none else contentModel? true (some .comma :: groups) rest
  | false, connector :: groups, Mark.bar :: rest =>
    if connector = some .comma then none else contentModel? true (some .bar :: groups) rest
  | _, _, _ => none

def mixedNames? : List Mark → Option (List Mark)
  | closeParenStar :: rest => some rest
  | Mark.bar :: name _ :: rest | Mark.bar :: prefixedName _ :: rest => mixedNames? rest
  | _ => none

def element? : List Mark → Option (List Mark)
  | name "EMPTY" :: rest | name "ANY" :: rest => some rest
  | openParen :: keyword "PCDATA" :: closeParen :: rest => some rest
  | openParen :: keyword "PCDATA" :: rest => mixedNames? rest
  | openParen :: rest => contentModel? true [none] rest
  | _ => none

def notation? : List Mark → Option (List Mark)
  | name "PUBLIC" :: literal id :: closing :: rest =>
    if id.all isPublicChar then some (closing :: rest) else none
  | rest => externalId? rest

def ended? : List Mark → Option (List Mark)
  | closing :: rest => some rest
  | _ => none

def declaration? (size : Nat) (word : String) (d : Doctype) :
    List Mark → Option (Doctype × List Mark) := fun marks =>
  match word, marks with
  | "ENTITY", marks => entity? d marks
  | "ATTLIST", name n :: rest | "ATTLIST", prefixedName n :: rest =>
    attributeRules? size n rest.length d rest
  | "ELEMENT", name _ :: rest | "ELEMENT", prefixedName _ :: rest => do
    return (d, ← ended? (← element? rest))
  | "NOTATION", name _ :: rest => do
    return (d, ← ended? (← notation? rest))
  | _, _ => none

def subset? (size : Nat) (standalone : Bool) :
    Nat → Doctype → List Mark → Option (Doctype × List Mark)
  | _, d, closeBracket :: rest => some (d, rest)
  | fuel + 1, d, aside :: rest => subset? size standalone fuel d rest
  | fuel + 1, d, parameter :: rest =>
    subset? size standalone fuel
      { d with reading := standalone, table := { d.table with lenient := !standalone } } rest
  | fuel + 1, d, opening word :: rest => do
    let (d, rest) ← declaration? size word d rest
    subset? size standalone fuel d rest
  | _, _, _ => none

def body? (a : Alphabet) (size : Nat) (standalone : Bool) (marks : List Mark) :
    Option (Doctype × List Mark) := do
  let rest ←
    match marks with
    | name _ :: rest | prefixedName _ :: rest => some rest
    | _ => none
  let (d, rest) : Doctype × List Mark :=
    match externalId? rest with
    | some rest => ({ alphabet := a, table := { lenient := !standalone } }, rest)
    | none => ({ alphabet := a }, rest)
  match rest with
  | closing :: rest => return (d, rest)
  | openBracket :: rest => do
    let (d, rest) ← subset? size standalone rest.length d rest
    return (d, ← ended? rest)
  | _ => none

def dropAsides (marks : List Mark) : List Mark := marks.dropWhile (· == aside)

def ofMarks? (a : Alphabet) (size : Nat) (standalone : Bool) (marks : List Mark) :
    Option Doctype :=
  match dropAsides marks with
  | [] => some { alphabet := a }
  | opening "DOCTYPE" :: rest => do
    let (d, rest) ← body? a size standalone rest
    if (dropAsides rest).isEmpty then some d else none
  | _ => none

end Doctype
end FeatureSpec.Xml
