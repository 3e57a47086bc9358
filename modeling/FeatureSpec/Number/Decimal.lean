import FeatureSpec.Number.Binary64
/-!
Decimal numerals `digits * 10 ^ exponent` and their double precision values.
-/
namespace FeatureSpec

structure Decimal where
  negative : Bool
  digits : Nat
  exponent : Int
  deriving DecidableEq, Repr

namespace Decimal

/-- The double nearest to a decimal. Numerals far outside the range of doubles are recognised
by their exponent, before any power is formed: `digits < 2 ^ (log2 digits + 1)`. -/
def toBinary64 (d : Decimal) : Binary64 :=
  if d.digits = 0 then .zero d.negative
  else if 400 < d.exponent then .infinite d.negative
  else if d.exponent + (Nat.log2 d.digits : Int) + 1 < -400 then .zero d.negative
  else
    let (num, den) := if 0 ≤ d.exponent then (d.digits * Nat.pow 10 d.exponent.toNat, 1)
      else (d.digits, Nat.pow 10 (-d.exponent).toNat)
    Binary64.ofRatio d.negative num den

def trimZeros : Nat → Nat → Int → Nat × Int
  | 0, n, e => (n, e)
  | fuel + 1, n, e => if n ≠ 0 ∧ n % 10 = 0 then trimZeros fuel (n / 10) (e + 1) else (n, e)

def normalize (d : Decimal) : Decimal :=
  let (n, e) := trimZeros (Nat.log2 d.digits + 1) d.digits d.exponent
  { d with digits := n, exponent := e }

end Decimal
end FeatureSpec
