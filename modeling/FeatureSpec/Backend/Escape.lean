import FeatureSpec.Octets
import FeatureSpec.Text.Digit
/-!
Percent-encoding: a character that may not stand in a part of an address is written as its octets
in UTF-8, each as a percent sign and two hexadecimal digits.
-/
namespace FeatureSpec.Escape

def isUnreserved (c : Char) : Bool := c.isAlphanum || c == '_' || c == '.' || c == '-' || c == '~'

def octet (o : UInt8) : List Char := '%' :: (Text.hex 2 o.toNat).map Char.toUpper

def char (c : Char) : List Char := (Octets.ofString (String.singleton c)).flatMap octet

def escaped (isPlain : Char → Bool) (cs : List Char) : List Char :=
  cs.flatMap fun c => if isPlain c then [c] else char c

end FeatureSpec.Escape
