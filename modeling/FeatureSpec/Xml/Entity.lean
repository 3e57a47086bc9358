import FeatureSpec.Entries
import FeatureSpec.Xml.Token
/-!
Entities and the text that references to them stand for. An entity never refers to itself, be
it through others. Names in the text of an entity are made of the letters of the standard.
-/
namespace FeatureSpec.Xml

/-- What a declared entity is. Only an internal one can be referred to. -/
inductive Entity where
  | internal (text : List Char)
  | elsewhere
  deriving DecidableEq, Repr

/-- The declared entities, and whether a reference to one that is not declared may be left out
of an attribute value because declarations went unread. -/
structure EntityTable where
  entities : Entries Entity := []
  lenient : Bool := false
  deriving DecidableEq, Repr

namespace EntityTable

def octets (cs : List Char) : Nat := cs.foldl (fun n c => n + c.utf8Size) 0

def referred : List Char → List String
  | [] => []
  | c :: rest =>
    if c = '&' then
      match Reference.scan? .standard rest with
      | some (.entity name, _) => name :: referred rest
      | _ => referred rest
    else referred rest

/-- The octets that go into the expansion of each entity, with references followed `depth`
levels deep. -/
def costs (t : EntityTable) : Nat → Entries Nat
  | 0 => []
  | depth + 1 =>
    let below := costs t depth
    t.entities.filterMap fun (name, entity) =>
      match entity with
      | .internal text =>
        some (name, (referred text).foldl (fun n r => n + (below.get? r).getD 0) (octets text))
      | .elsewhere => none

/-- What an expansion may come to in any case, in octets. -/
def expansionLimit : Nat := 8 * 1024 * 1024

/-- How many times the size of a document its expansion may be, above the limit. -/
def expansionFactor : Nat := 100

def isAffordable (t : EntityTable) (size : Nat) (names : List String) : Bool :=
  let costs := t.costs t.entities.length
  let total := names.foldl (fun n name => n + (costs.get? name).getD 0) size
  total < expansionLimit || total ≤ expansionFactor * size

/-- An attribute value with its references replaced, a literal blank as a space. `depth` bounds
the nesting of entities, those in `opened` are being replaced. -/
def replacePieces (t : EntityTable) : Nat → List String → List Piece → Option (List Char)
  | 0, _, _ => none
  | depth + 1, opened, pieces => do
    let parts ← pieces.mapM fun piece =>
      match piece with
      | .char c => some [if isSpace c then ' ' else c]
      | .reference (.code c) => some [c]
      | .reference (.entity name) =>
        match Reference.predefined? name with
        | some c => some [c]
        | none =>
          match t.entities.get? name with
          | none => if t.lenient then some [] else none
          | some .elsewhere => none
          | some (.internal text) =>
            if opened.contains name then none
            else do t.replacePieces depth (name :: opened) (← Piece.scan? .standard text)
    return parts.flatten

def collapse (cs : List Char) : List Char :=
  let rec go (after : Bool) : List Char → List Char
    | [] => []
    | c :: rest =>
      if c == ' ' then (if after then [] else [' ']) ++ go true rest else c :: go false rest
  let out := go true cs
  if out.getLast? = some ' ' then out.dropLast else out

/-- The value of an attribute. Where it is no plain character data, its spaces collapse. -/
def attributeValue? (t : EntityTable) (opened : List String) (isCdata : Bool)
    (pieces : List Piece) : Option String := do
  let cs ← t.replacePieces (t.entities.length + 1) opened pieces
  return String.ofList (if isCdata then cs else collapse cs)

def namesIn (pieces : List Piece) : List String :=
  pieces.filterMap fun
    | .reference (.entity name) => some name
    | _ => none

end EntityTable
end FeatureSpec.Xml
