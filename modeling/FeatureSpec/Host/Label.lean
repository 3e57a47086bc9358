import FeatureSpec.Host.Composition
import FeatureSpec.Host.Context
import FeatureSpec.Host.Direction
import FeatureSpec.Host.LabelTable
import FeatureSpec.Host.Punycode
/-!
The labels of host names, in any script, and their ASCII forms.
-/
namespace FeatureSpec.Host

def labelLimit : Nat := 63

def aceMark : List Char := ['x', 'n', '-', '-']

/-- Every character is one of a label, in any place or in its own. Those before are given in
reverse. -/
def holdsLetters (before : List Char) : List Char → Bool
  | [] => true
  | c :: rest =>
    (Text.inRuns labelRanges c.toNat || fitsContext before c rest) &&
      holdsLetters (c :: before) rest

/-- No hyphen at either end, nor two at the third place and the fourth. -/
def keepsHyphens (label : List Char) : Bool :=
  label.head? != some '-' && label.getLast? != some '-' &&
    !(label[2]? == some '-' && label[3]? == some '-')

def isLabel (label : List Char) : Bool :=
  !label.isEmpty && composed label == label && keepsHyphens label &&
    !label.head?.any isMark && holdsLetters [] label && keepsDirection label

def asciiLabel? (label : List Char) : Option (List Char) :=
  let ascii :=
    if label.all fun c => c.toNat < 0x80 then
      if aceMark.isPrefixOf label then
        let code := label.drop aceMark.length
        if code.isEmpty || code.getLast? == some '-' then none
        else
          match Punycode.decode? code with
          | some meant => if isLabel meant then some label else none
          | none => none
      else if isLabel label then some label
      else none
    else if isLabel label then some (aceMark ++ Punycode.encode label)
    else none
  ascii.filter fun cs => cs.length ≤ labelLimit

end FeatureSpec.Host
