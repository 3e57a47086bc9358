import FeatureSpec.Backend.Escape
import FeatureSpec.Host.Label
import FeatureSpec.Host.Lower
import FeatureSpec.Host.Numeric
/-!
Hosts in the form in which they are asked for: numbers as they are, names in lower case and in
ASCII.
-/
namespace FeatureSpec.Host

inductive Fault where
  | octets
  | groups
  | name
  deriving DecidableEq, Repr

def isDot (c : Char) : Bool := c == '.' || c == '。' || c == '．' || c == '｡'

def nameLimit : Nat := 253

def asciiName? (cs : List Char) : Option (List Char) := do
  let labels := cs.splitOnP isDot
  let (labels, ending) :=
    if labels.getLast? == some [] then (labels.dropLast, ['.']) else (labels, [])
  if cs.length ≤ nameLimit + 1 then
    let labels ← labels.mapM asciiLabel?
    let name := ['.'].intercalate labels
    if name.length ≤ nameLimit then some (name ++ ending) else none
  else none

def isPlain (c : Char) : Bool := Escape.isUnreserved c || "!$&'()*+,;=\"`%|\\\x7b\x7d".contains c

/-- A host as it is asked for, without the brackets around groups between colons. -/
def resolve (cs : List Char) : Except Fault (List Char) :=
  if cs.isEmpty then .ok []
  else if looksNumeric cs then (if isFourOctets cs then .ok cs else .error .octets)
  else if cs.head? == some '[' && cs.getLast? == some ']' then
    let inner := (cs.drop 1).dropLast
    if isColonAddress inner then .ok inner else .error .groups
  else if cs.all fun c => c.toNat < 0x80 then .ok (Escape.escaped isPlain (cs.map Char.toLower))
  else
    match asciiName? (lower cs) with
    | some name => .ok name
    | none => .error .name

end FeatureSpec.Host
