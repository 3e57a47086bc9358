import FeatureSpec.Text.Piece
/-!
Paths. A path is an anchor, which is empty for a relative path, and parts; single dots and
repeated slashes leave no trace, while two dots stay a part.
-/
namespace FeatureSpec

structure Path where
  anchor : String := ""
  parts : List String := []
  deriving DecidableEq, Repr

namespace Path

/-- What slashes at the front of a text anchor it to: exactly two of them stay two. -/
def anchorOf (slashes : List Char) : String :=
  match slashes with
  | [] => ""
  | [_, _] => "//"
  | _ => "/"

def isPart (piece : String) : Bool := piece != "" && piece != "."

def ofString (s : String) : Path :=
  let (slashes, rest) := s.toList.span (· == '/')
  { anchor := anchorOf slashes
    parts := (Text.pieces '/' (String.ofList rest)).filter isPart }

def joined (parts : List String) : String := "/".intercalate parts

def text (p : Path) : String :=
  if p.anchor = "" ∧ p.parts = [] then "." else p.anchor ++ joined p.parts

/-- One path continued by another. A path with an anchor continues none. -/
def join (p q : Path) : Path :=
  if q.anchor = "" then { p with parts := p.parts ++ q.parts } else q

/-- What follows the last dot of a name, if the dot is neither its first nor its last character;
first the name up to that dot. -/
def splitName (name : String) : String × String :=
  let (tail, front) := name.toList.reverse.span (· != '.')
  match tail, front with
  | _ :: _, _ :: c :: front =>
    (String.ofList (c :: front).reverse, String.ofList ('.' :: tail.reverse))
  | _, _ => (name, "")

def stem (name : String) : String := (splitName name).1

def suffix (name : String) : String := (splitName name).2

def partsLe (p q : List String) : Bool := decide (List.le p q)

def hasNul (p : Path) : Bool := p.parts.any fun part => part.toList.contains '\x00'

end Path
end FeatureSpec
