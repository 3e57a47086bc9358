import FeatureSpec.Host.MarkTable
import FeatureSpec.Text.Ranges
/-!
Combining marks.
-/
namespace FeatureSpec.Host

def isMark (c : Char) : Bool := Text.inRanges markRanges c.toNat

def isNonspacing (c : Char) : Bool := isMark c && !Text.inRanges spacingRanges c.toNat

def combiningClass (c : Char) : Nat :=
  match classRanges.find? fun (lo, hi, _) => lo ≤ c.toNat && c.toNat ≤ hi with
  | some (_, _, k) => if isMark c then k else 0
  | none => 0

def virama : Nat := 9

end FeatureSpec.Host
