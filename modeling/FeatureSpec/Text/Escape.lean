/-!
Escape sequences that change the look of a terminal: the escape character, a bracket, parameters
and a letter.
-/
namespace FeatureSpec.Text

def isParameter (c : Char) : Bool := c.isDigit || c == ';' || c == '?'

/-- A text without escape sequences; `pending` is the part of one that has been read, the last
character first. -/
def dropEscapes : (pending : List Char) → List Char → List Char
  | pending, [] => pending.reverse
  | [], c :: rest => if c = '\x1b' then dropEscapes [c] rest else c :: dropEscapes [] rest
  | [e], c :: rest =>
    if c = '[' then dropEscapes [c, e] rest
    else if c = '\x1b' then e :: dropEscapes [c] rest
    else e :: c :: dropEscapes [] rest
  | pending, c :: rest =>
    if isParameter c then dropEscapes (c :: pending) rest
    else if c.isAlpha then dropEscapes [] rest
    else if c = '\x1b' then pending.reverse ++ dropEscapes [c] rest
    else pending.reverse ++ c :: dropEscapes [] rest

def withoutEscapes (s : String) : String := String.ofList (dropEscapes [] s.toList)

end FeatureSpec.Text
