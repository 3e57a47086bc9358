import FeatureSpec.Number.Decimal
import Mathlib.Algebra.Order.Floor.Semifield
import Mathlib.Data.Int.Log
import Mathlib.Data.Rat.Floor
import Mathlib.Tactic.FieldSimp
import Mathlib.Tactic.Linarith
import Mathlib.Tactic.NormNum
import Mathlib.Tactic.Positivity
import Mathlib.Tactic.Ring
/-!
The double nearest to a number. A ratio of naturals and a decimal are rounded to the double nearest
to the number that they stand for, however that number is written, and a double is its own nearest
one.
-/
namespace FeatureSpec

namespace Binary64

/-- The nearest natural, a half to the even neighbour. -/
def halfEven (x : ℚ) : Nat :=
  let q := ⌊x⌋₊
  if 2 * (x - q) < 1 then q
  else if 1 < 2 * (x - q) then q + 1
  else if q % 2 = 0 then q else q + 1

/-- The double nearest to a magnitude: its significand has 53 bits, or the least exponent. -/
def nearest (negative : Bool) (x : ℚ) : Binary64 :=
  if x = 0 then zero negative
  else
    let e := max (Int.log 2 x - 52) (-1074)
    ofSignificand negative (halfEven (x / 2 ^ e)) e

/-! ### Ratios -/

section

variable {num den : Nat} (some : 0 < den)

include some

/-- The number that a scaled ratio stands for. -/
theorem scale_spec (num : Nat) {base : Nat} (positive : 0 < base) (exponent : Int) :
    0 < (scale base num den exponent).2 ∧
      ((scale base num den exponent).1 / (scale base num den exponent).2 : ℚ) =
        num / den / (base : ℚ) ^ exponent := by
  have power (k : Nat) : 0 < Nat.pow base k := Nat.pow_pos positive
  unfold scale
  split
  · rename_i upward
    obtain ⟨k, rfl⟩ := Int.eq_ofNat_of_zero_le upward
    refine ⟨Nat.mul_pos some (power _), ?_⟩
    simp only [Int.toNat_natCast, zpow_natCast, Nat.pow_eq]
    push_cast
    rw [div_div]
  · rename_i downward
    obtain ⟨k, rfl⟩ : ∃ k : Nat, exponent = -(k : Int) := ⟨(-exponent).toNat, by omega⟩
    refine ⟨some, ?_⟩
    simp only [Int.neg_neg, Int.toNat_natCast, zpow_neg, zpow_natCast, Nat.pow_eq]
    push_cast
    field_simp

/-- What is left over by a division, as a part of the divisor. -/
theorem roundDiv_eq : roundDiv num den = halfEven (num / den) := by
  have positive : (0 : ℚ) < den := by exact_mod_cast some
  have left : (num / den : ℚ) - ((num / den : Nat) : ℚ) = (num % den : Nat) / den := by
    have whole : (num : ℚ) = den * (num / den : Nat) + (num % den : Nat) := by
      exact_mod_cast (Nat.div_add_mod num den).symm
    field_simp
    linarith
  have less : 2 * ((num % den : Nat) / den : ℚ) < 1 ↔ 2 * (num % den) < den := by
    rw [← mul_div_assoc, div_lt_one positive]
    exact_mod_cast Iff.rfl
  have more : 1 < 2 * ((num % den : Nat) / den : ℚ) ↔ den < 2 * (num % den) := by
    rw [← mul_div_assoc, one_lt_div positive]
    exact_mod_cast Iff.rfl
  unfold roundDiv halfEven
  dsimp only
  rw [Nat.floor_div_eq_div, left]
  simp only [less, more]

end

theorem log_eq {x : ℚ} (positive : 0 < x) {k : Int} (least : (2 : ℚ) ^ k ≤ x)
    (less : x < (2 : ℚ) ^ (k + 1)) : Int.log 2 x = k := by
  have low := (Int.zpow_le_iff_le_log (b := 2) (by decide) positive).mp (by exact_mod_cast least)
  have high := (Int.lt_zpow_iff_log_lt (b := 2) (by decide) positive).mp (by exact_mod_cast less)
  omega

theorem log2_bounds {n : Nat} (nonzero : n ≠ 0) :
    (2 : ℚ) ^ (n.log2 : Int) ≤ n ∧ (n : ℚ) < (2 : ℚ) ^ ((n.log2 : Int) + 1) := by
  have low : 2 ^ n.log2 ≤ n := Nat.log2_self_le nonzero
  have high : n < 2 ^ (n.log2 + 1) := Nat.lt_log2_self
  constructor
  · rw [zpow_natCast]
    exact_mod_cast low
  · have succ : (n.log2 : Int) + 1 = ((n.log2 + 1 : Nat) : Int) := by push_cast; rfl
    rw [succ, zpow_natCast]
    exact_mod_cast high

/-- The greatest bits of numerator and denominator tell the logarithm of a ratio up to one. -/
theorem ratio_bounds {num den : Nat} (some : num ≠ 0) (some' : den ≠ 0) :
    (2 : ℚ) ^ ((num.log2 : Int) - den.log2 - 1) ≤ num / den ∧
      (num / den : ℚ) < (2 : ℚ) ^ ((num.log2 : Int) - den.log2 + 1) := by
  have two : (2 : ℚ) ≠ 0 := by norm_num
  have positive : (0 : ℚ) < den := by exact_mod_cast Nat.pos_of_ne_zero some'
  obtain ⟨low, high⟩ := log2_bounds some
  obtain ⟨low', high'⟩ := log2_bounds some'
  have power (k : Int) : (0 : ℚ) < 2 ^ k := zpow_pos (by norm_num) k
  constructor
  · rw [le_div_iff₀ positive]
    calc (2 : ℚ) ^ ((num.log2 : Int) - den.log2 - 1) * den
        ≤ 2 ^ ((num.log2 : Int) - den.log2 - 1) * 2 ^ ((den.log2 : Int) + 1) :=
          mul_le_mul_of_nonneg_left high'.le (power _).le
      _ = 2 ^ (num.log2 : Int) := by rw [← zpow_add₀ two]; congr 1; ring
      _ ≤ num := low
  · rw [div_lt_iff₀ positive]
    calc (num : ℚ) < 2 ^ ((num.log2 : Int) + 1) := high
      _ = 2 ^ ((num.log2 : Int) - den.log2 + 1) * 2 ^ (den.log2 : Int) := by
          rw [← zpow_add₀ two]; congr 1; ring
      _ ≤ 2 ^ ((num.log2 : Int) - den.log2 + 1) * den :=
          mul_le_mul_of_nonneg_left low' (power _).le

theorem exponentOf_eq {num den : Nat} (some : num ≠ 0) (some' : den ≠ 0) :
    exponentOf num den = max (Int.log 2 (num / den : ℚ) - 52) (-1074) := by
  have two : (2 : ℚ) ≠ 0 := by norm_num
  have positive : (0 : ℚ) < num / den :=
    div_pos (by exact_mod_cast Nat.pos_of_ne_zero some) (by exact_mod_cast Nat.pos_of_ne_zero some')
  obtain ⟨low, high⟩ := ratio_bounds some some'
  let e : Int := (num.log2 : Int) - den.log2 - 52
  obtain ⟨scaled, value⟩ := scale_spec (Nat.pos_of_ne_zero some') num Nat.two_pos e
  have small : (scale 2 num den e).1 / (scale 2 num den e).2 < Nat.pow 2 52 ↔
      (num / den : ℚ) < 2 ^ (e + 52) := by
    have positive' : (0 : ℚ) < (scale 2 num den e).2 := by exact_mod_cast scaled
    rw [Nat.div_lt_iff_lt_mul scaled, Int.add_comm, zpow_add₀ two,
      ← div_lt_iff₀ (zpow_pos (by norm_num) e)]
    have value' : (num / den / 2 ^ e : ℚ) = _ := value.symm
    rw [value', div_lt_iff₀ positive']
    exact_mod_cast Iff.rfl
  have exponent : exponentOf num den =
      max (if (scale 2 num den e).1 / (scale 2 num den e).2 < Nat.pow 2 52 then e - 1 else e)
        (-1074) := rfl
  rw [exponent]
  congr 1
  -- The greatest bits leave two exponents open; the scaled quotient tells which one it is.
  split
  · rename_i less
    have log := log_eq positive low (by
      have below := small.mp less
      have same : e + 52 = (num.log2 : Int) - den.log2 - 1 + 1 := by omega
      rwa [same] at below)
    omega
  · rename_i more
    have log := log_eq positive (k := (num.log2 : Int) - den.log2) (by
      have above := not_lt.mp (mt small.mpr more)
      have same : e + 52 = (num.log2 : Int) - den.log2 := by omega
      rwa [same] at above) high
    omega

/-- A ratio is rounded to the double nearest to the number that it stands for. -/
theorem ofRatio_eq (negative : Bool) (num : Nat) {den : Nat} (some : den ≠ 0) :
    ofRatio negative num den = nearest negative (num / den) := by
  unfold ofRatio nearest
  by_cases zero : num = 0
  · rw [if_pos zero, if_pos (by rw [zero]; simp)]
  · have nonzero : (num / den : ℚ) ≠ 0 :=
      div_ne_zero (Nat.cast_ne_zero.mpr zero) (Nat.cast_ne_zero.mpr some)
    rw [if_neg zero, if_neg nonzero]
    dsimp only
    rw [exponentOf_eq zero some]
    obtain ⟨scaled, value⟩ := scale_spec (Nat.pos_of_ne_zero some) num Nat.two_pos
      (max (Int.log 2 (num / den : ℚ) - 52) (-1074))
    rw [roundDiv_eq scaled, value]
    rfl

/-! ### Doubles -/

theorem halfEven_natCast (n : Nat) : halfEven n = n := by
  simp [halfEven]

theorem halfEven_of_small {x : ℚ} (small : 2 * x < 1) : halfEven x = 0 := by
  have floor : ⌊x⌋₊ = 0 := Nat.floor_eq_zero.mpr (by linarith)
  simp [halfEven, floor, small]

/-- The number that a sign and a normal significand stand for, its sign left out. -/
theorem nearest_normal (negative : Bool) {m : Nat} {e : Int} (normal : Normal m e) (some : m ≠ 0) :
    nearest negative (m * 2 ^ e) = .finite negative m e normal := by
  have two : (2 : ℚ) ≠ 0 := by norm_num
  have power : (0 : ℚ) < 2 ^ e := zpow_pos (by norm_num) e
  have positive : (0 : ℚ) < m * 2 ^ e :=
    mul_pos (by exact_mod_cast Nat.pos_of_ne_zero some) power
  obtain ⟨few, least, most, full⟩ := normal
  have below : (m * 2 ^ e : ℚ) < 2 ^ (e + 53) := by
    rw [Int.add_comm, zpow_add₀ two]
    exact mul_lt_mul_of_pos_right (by exact_mod_cast few) power
  have high := (Int.lt_zpow_iff_log_lt (b := 2) (by decide) positive).mp (by exact_mod_cast below)
  -- A significand of 53 bits has this exponent; a smaller one stands only at the least exponent.
  have exponent : max (Int.log 2 (m * 2 ^ e : ℚ) - 52) (-1074) = e := by
    rcases full with enough | lowest
    · have above : (2 : ℚ) ^ (e + 52) ≤ m * 2 ^ e := by
        rw [Int.add_comm, zpow_add₀ two]
        exact mul_le_mul_of_nonneg_right (by exact_mod_cast enough) power.le
      have low := (Int.zpow_le_iff_le_log (b := 2) (by decide) positive).mp
        (by exact_mod_cast above)
      omega
    · omega
  have short : m ≠ Nat.pow 2 53 := Nat.ne_of_lt few
  unfold nearest
  rw [if_neg positive.ne']
  dsimp only
  rw [exponent, mul_div_cancel_right₀ _ power.ne', halfEven_natCast]
  unfold ofSignificand
  rw [if_neg short]
  exact dif_pos ⟨few, least, most, full⟩

theorem nearest_of_large (negative : Bool) {x : ℚ} {k : Int} (beyond : 1024 < k)
    (large : 2 ^ k ≤ x) : nearest negative x = .infinite negative := by
  have positive : 0 < x := lt_of_lt_of_le (zpow_pos (by norm_num) k) large
  have log := (Int.zpow_le_iff_le_log (b := 2) (by decide) positive).mp (by exact_mod_cast large)
  have wide {m : Nat} {e : Int} (beyond : 971 < e) : ¬Normal m e := fun normal => by
    have := normal.2.2.1
    omega
  unfold nearest
  rw [if_neg positive.ne']
  dsimp only
  unfold ofSignificand
  split
  rename_i m e shifted
  refine dif_neg (wide ?_)
  split at shifted <;> obtain ⟨-, rfl⟩ := Prod.mk.inj shifted <;> omega

theorem nearest_of_small (negative : Bool) {x : ℚ} {k : Int} (beyond : k < -1074) (some : 0 < x)
    (small : x < 2 ^ k) : nearest negative x = zero negative := by
  have log := (Int.lt_zpow_iff_log_lt (b := 2) (by decide) some).mp (by exact_mod_cast small)
  have exponent : max (Int.log 2 x - 52) (-1074) = -1074 := by omega
  have power : (0 : ℚ) < 2 ^ (-1074 : Int) := zpow_pos (by norm_num) _
  have half : 2 * (x / 2 ^ (-1074 : Int)) < 1 := by
    rw [← mul_div_assoc, div_lt_one power]
    calc 2 * x < 2 * 2 ^ k := by linarith
      _ = 2 ^ (1 + k) := by rw [zpow_add₀ (by norm_num), zpow_one]
      _ ≤ 2 ^ (-1074 : Int) := zpow_le_zpow_right₀ (by norm_num) (by omega)
  unfold nearest
  rw [if_neg some.ne']
  dsimp only
  rw [exponent, halfEven_of_small half]
  rfl

end Binary64

namespace Decimal

open Binary64

/-- The number that a decimal stands for, its sign left out. -/
def magnitude (d : Decimal) : ℚ := d.digits * 10 ^ d.exponent

theorem two_le_ten {k : Int} (least : 0 ≤ k) : (2 : ℚ) ^ (3 * k) ≤ 10 ^ k := by
  rw [zpow_mul]
  exact zpow_le_zpow_left₀ least (by norm_num) (by norm_num)

theorem ten_le_two {k : Int} (most : k ≤ 0) : (10 : ℚ) ^ k ≤ 2 ^ (3 * k) := by
  have flipped := two_le_ten (k := -k) (by omega)
  rw [Int.mul_neg, zpow_neg, zpow_neg] at flipped
  exact (inv_le_inv₀ (zpow_pos (by norm_num) _) (zpow_pos (by norm_num) _)).mp flipped

/-- A decimal is rounded to the double nearest to the number that it stands for. How far it is out
of the range of doubles is told from its exponent only where the nearest one says the same. -/
theorem toBinary64_eq (d : Decimal) : d.toBinary64 = nearest d.negative d.magnitude := by
  obtain ⟨negative, digits, exponent⟩ := d
  unfold toBinary64 magnitude
  dsimp only
  by_cases zero : digits = 0
  · rw [if_pos zero, zero, nearest, if_pos (by simp)]
  have some : (1 : ℚ) ≤ digits := by exact_mod_cast Nat.one_le_iff_ne_zero.mpr zero
  have power : (0 : ℚ) < 10 ^ exponent := zpow_pos (by norm_num) _
  rw [if_neg zero]
  -- Out of range on either side the exponent alone decides; within, the ratio is rounded.
  split_ifs with large small whole
  · refine (nearest_of_large negative (k := 3 * exponent) (by omega) ?_).symm
    calc (2 : ℚ) ^ (3 * exponent) ≤ 10 ^ exponent := two_le_ten (by omega)
      _ ≤ digits * 10 ^ exponent := le_mul_of_one_le_left power.le some
  · refine (nearest_of_small negative (k := (digits.log2 : Int) + 1 + 3 * exponent) (by omega)
      (mul_pos (by linarith) power) ?_).symm
    calc (digits * 10 ^ exponent : ℚ) < 2 ^ ((digits.log2 : Int) + 1) * 10 ^ exponent :=
          mul_lt_mul_of_pos_right (log2_bounds zero).2 power
      _ ≤ 2 ^ ((digits.log2 : Int) + 1) * 2 ^ (3 * exponent) :=
          mul_le_mul_of_nonneg_left (ten_le_two (by omega)) (zpow_pos (by norm_num) _).le
      _ = 2 ^ ((digits.log2 : Int) + 1 + 3 * exponent) := (zpow_add₀ (by norm_num) _ _).symm
  · obtain ⟨k, rfl⟩ := Int.eq_ofNat_of_zero_le whole
    rw [ofRatio_eq negative _ Nat.one_ne_zero]
    simp only [Int.toNat_natCast, Nat.pow_eq, zpow_natCast]
    push_cast
    rw [div_one]
  · obtain ⟨k, rfl⟩ : ∃ k : Nat, exponent = -(k : Int) := ⟨(-exponent).toNat, by omega⟩
    have some' : Nat.pow 10 (- -(k : Int)).toNat ≠ 0 := (Nat.pow_pos (by decide)).ne'
    rw [ofRatio_eq negative _ some']
    simp only [Int.neg_neg, Int.toNat_natCast, Nat.pow_eq, zpow_neg, zpow_natCast]
    push_cast
    rw [div_eq_mul_inv]

/-- What stands for one number, with one sign, is one double. -/
theorem toBinary64_congr {d d' : Decimal} (sign : d.negative = d'.negative)
    (same : d.magnitude = d'.magnitude) : d.toBinary64 = d'.toBinary64 := by
  rw [toBinary64_eq, toBinary64_eq, sign, same]

end Decimal
end FeatureSpec
