/-!
Double precision numbers, as the rationals they stand for. A finite number is a sign and
`significand * 2 ^ exponent` in lowest form for its range, so that equal numbers are equal
values (the two zeros apart). Rounding works on exact ratios of naturals.
-/
namespace FeatureSpec

/-- A significand of 53 bits, or a smaller one at the least exponent. -/
abbrev Binary64.Normal (significand : Nat) (exponent : Int) : Prop :=
  significand < Nat.pow 2 53 ∧ -1074 ≤ exponent ∧ exponent ≤ 971 ∧
    (Nat.pow 2 52 ≤ significand ∨ exponent = -1074)

inductive Binary64 where
  | finite (negative : Bool) (significand : Nat) (exponent : Int)
      (normal : Binary64.Normal significand exponent)
  | infinite (negative : Bool)
  | nan
  deriving DecidableEq, Repr

namespace Binary64

def zero (negative : Bool) : Binary64 := .finite negative 0 (-1074) (by decide)

def isFinite : Binary64 → Bool
  | .finite .. => true
  | _ => false

/-- The quotient rounded to the nearest natural, a half to the even neighbour. -/
def roundDiv (num den : Nat) : Nat :=
  let q := num / den
  let r := num % den
  if 2 * r < den then q
  else if den < 2 * r then q + 1
  else if q % 2 = 0 then q else q + 1

def scale (base num den : Nat) (exponent : Int) : Nat × Nat :=
  if 0 ≤ exponent then (num, den * Nat.pow base exponent.toNat)
  else (num * Nat.pow base (-exponent).toNat, den)

def ofSignificand (negative : Bool) (significand : Nat) (exponent : Int) : Binary64 :=
  let (m, e) :=
    if significand = Nat.pow 2 53 then (Nat.pow 2 52, exponent + 1) else (significand, exponent)
  if h : Normal m e then .finite negative m e h else .infinite negative

def exponentOf (num den : Nat) : Int :=
  let e : Int := (Nat.log2 num : Int) - (Nat.log2 den : Int) - 52
  let (n, d) := scale 2 num den e
  max (if n / d < Nat.pow 2 52 then e - 1 else e) (-1074)

/-- The number nearest to `num / den`, a tie to the even significand. -/
def ofRatio (negative : Bool) (num den : Nat) : Binary64 :=
  if num = 0 then zero negative
  else
    let e := exponentOf num den
    let (n, d) := scale 2 num den e
    ofSignificand negative (roundDiv n d) e

def ofInt (n : Int) : Binary64 := ofRatio (n < 0) n.natAbs 1

def ratio (significand : Nat) (exponent : Int) : Nat × Nat :=
  if 0 ≤ exponent then (significand * Nat.pow 2 exponent.toNat, 1)
  else (significand, Nat.pow 2 (-exponent).toNat)

def toInt? : Binary64 → Option Int
  | .finite negative m e _ =>
    let (num, den) := ratio m e
    if num % den = 0 then
      some (if negative then -((num / den : Nat) : Int) else ((num / den : Nat) : Int))
    else none
  | _ => none

def isZero : Binary64 → Bool
  | .finite _ m _ _ => m == 0
  | _ => false

end Binary64
end FeatureSpec
