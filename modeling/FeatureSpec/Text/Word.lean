import FeatureSpec.Text.Ranges
import FeatureSpec.Text.WordTable
/-!
Word characters: letters, numerals and the underscore. Combining marks are none.
-/
namespace FeatureSpec.Text

def isWord (c : Char) : Bool := inRanges wordRanges c.toNat

end FeatureSpec.Text
