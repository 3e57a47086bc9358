import FeatureSpec.Text.Ranges
import FeatureSpec.Xml.NameTable
/-!
Characters and names of XML. A name here has no colon; a qualified name is a local name, or a
prefix, a colon and a local name.
-/
namespace FeatureSpec.Xml

open Text

/-- What may stand in a document: tabs, line breaks, and all from the space on but U+FFFE and
U+FFFF. -/
def isCharCode (n : Nat) : Bool :=
  n == 9 || n == 10 || n == 13 ||
    (0x20 ≤ n && n ≤ 0x10FFFF && !(0xD800 ≤ n && n ≤ 0xDFFF) && n != 0xFFFE && n != 0xFFFF)

def isChar (c : Char) : Bool := isCharCode c.toNat

def isSpace (c : Char) : Bool := c == ' ' || c == '\n' || c == '\r' || c == '\t'

/-- The letters of names: those of the standard, or also the ordinal indicators and the micro
sign. -/
inductive Alphabet where
  | standard
  | extended
  deriving DecidableEq, Repr

namespace Alphabet

def isExtra (c : Char) : Bool := c == 'ª' || c == 'µ' || c == 'º'

def isNameStart (a : Alphabet) (c : Char) : Bool :=
  inRanges nameStartRanges c.toNat || (a == extended && isExtra c)

def isNameChar (a : Alphabet) (c : Char) : Bool :=
  inRanges nameRanges c.toNat || (a == extended && isExtra c)

end Alphabet

def skipSpace (cs : List Char) : List Char := cs.dropWhile isSpace

def name? (a : Alphabet) : List Char → Option (List Char × List Char)
  | [] => none
  | c :: rest =>
    if a.isNameStart c then
      let (more, rest) := rest.span a.isNameChar
      some (c :: more, rest)
    else none

def qualifiedName? (a : Alphabet) (cs : List Char) : Option (List Char × List Char) := do
  let (first, rest) ← name? a cs
  match rest with
  | ':' :: rest =>
    let (second, rest) ← name? a rest
    return (first ++ ':' :: second, rest)
  | _ => return (first, rest)

def after? : List Char → List Char → Option (List Char)
  | [], cs => some cs
  | w :: word, c :: cs => if w = c then after? word cs else none
  | _ :: _, [] => none

def splitAt? (word : List Char) : List Char → Option (List Char × List Char)
  | [] => none
  | c :: rest =>
    match after? word (c :: rest) with
    | some rest' => some ([], rest')
    | none => (splitAt? word rest).map fun (before, rest') => (c :: before, rest')

end FeatureSpec.Xml
