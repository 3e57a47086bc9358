/-!
Octets and the texts they encode.
-/
namespace FeatureSpec

abbrev Octets := List UInt8

namespace Octets

def ofString (s : String) : Octets := s.toUTF8.toList

def utf8? (os : Octets) : Option String := String.fromUTF8? ⟨os.toArray⟩

def units16? (bigEndian : Bool) : Octets → Option (List Nat)
  | [] => some []
  | [_] => none
  | a :: b :: rest => do
    let unit := if bigEndian then a.toNat * 256 + b.toNat else b.toNat * 256 + a.toNat
    return unit :: (← units16? bigEndian rest)

end Octets
end FeatureSpec
