import FeatureSpec.Number.Shortest
/-!
Decimal digits of a ratio, rounded at a place after the point or at a count of significant
digits; a half goes to the even neighbour.
-/
namespace FeatureSpec.Number

open Binary64

def fixedDigits (places num den : Nat) : List Char × List Char :=
  let digits := Nat.toDigits 10 (roundDiv (num * Nat.pow 10 places) den)
  let digits := List.replicate (places + 1 - digits.length) '0' ++ digits
  digits.splitAt (digits.length - places)

/-- `count` significant digits, and the decimal exponent of the first one. -/
def significantDigits (count num den : Nat) : List Char × Int :=
  if num = 0 then (List.replicate count '0', 0)
  else
    let lead := leadingExponent num den
    let (n, d) := scale 10 num den (lead + 1 - count)
    let rounded := roundDiv n d
    if rounded = Nat.pow 10 count then (Nat.toDigits 10 (Nat.pow 10 (count - 1)), lead + 1)
    else (Nat.toDigits 10 rounded, lead)

end FeatureSpec.Number
