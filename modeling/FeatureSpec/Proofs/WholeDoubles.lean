import FeatureSpec.Number.Binary64
import Mathlib.Algebra.Order.Ring.Nat
import Mathlib.Tactic.Ring
/-!
The integers in the range of double precision numbers: those that are nearer to a finite number
than to the power of two after the greatest one.
-/
namespace FeatureSpec.Binary64

/-- Halfway from the greatest finite number, which is `(2 ^ 53 - 1) * 2 ^ 971`, to the power of two
after it. -/
def wholeLimit : Nat := (2 ^ 54 - 1) * 2 ^ 970

/-- A quotient below an even number is rounded to it from half a step on. -/
theorem roundDiv_eq_iff (num top : Nat) {half : Nat} (positive : 0 < half) (even : top % 2 = 0)
    (below : num < top * (2 * half)) :
    roundDiv num (2 * half) = top ↔ top * (2 * half) - half ≤ num := by
  have whole : 2 * half * (num / (2 * half)) + num % (2 * half) = num := Nat.div_add_mod _ _
  have rest : num % (2 * half) < 2 * half := Nat.mod_lt _ (by omega)
  have short : num / (2 * half) < top := Nat.div_lt_of_lt_mul (by rwa [Nat.mul_comm])
  unfold roundDiv
  dsimp only
  generalize num / (2 * half) = q at whole short ⊢
  generalize num % (2 * half) = r at whole rest ⊢
  -- Only from the quotient just below is the even number within half a step.
  by_cases next : q + 1 = top
  · have step : top * (2 * half) = 2 * half * q + 2 * half := by
      rw [← next]
      ring
    split
    · omega
    split
    · omega
    · rw [if_neg (by omega)]
      omega
  · have far : 2 * half * (q + 2) ≤ 2 * half * top := Nat.mul_le_mul_left _ (by omega)
    have spread : 2 * half * (q + 2) = 2 * half * q + 2 * (2 * half) := by ring
    rw [Nat.mul_comm top]
    split
    · omega
    split
    · omega
    split <;> omega

theorem le_roundDiv {num den least : Nat} (large : least ≤ num / den) :
    least ≤ roundDiv num den := by
  unfold roundDiv
  dsimp only
  split
  · omega
  split
  · omega
  split <;> omega

theorem roundDiv_le (num den : Nat) : roundDiv num den ≤ num / den + 1 := by
  unfold roundDiv
  dsimp only
  split
  · omega
  split
  · omega
  split <;> omega

/-- A natural number is scaled to 53 bits in front of the point. -/
theorem scaled_bits {n bits : Nat} (low : 2 ^ bits ≤ n) (high : n < 2 ^ (bits + 1)) :
    ∃ num den : Nat, scale 2 n 1 ((bits : Int) - 52) = (num, den) ∧
      2 ^ 52 ≤ num / den ∧ num / den < 2 ^ 53 ∧
      (52 ≤ bits → num = n ∧ den = 2 ^ (bits - 52)) := by
  unfold scale
  by_cases wide : 52 ≤ bits
  · obtain ⟨more, rfl⟩ := Nat.exists_eq_add_of_le wide
    have exponent : ((52 + more : Nat) : Int) - 52 = (more : Int) := by omega
    have positive : 0 < 2 ^ more := Nat.two_pow_pos more
    rw [exponent, if_pos (Int.natCast_nonneg more), Int.toNat_natCast, Nat.one_mul, Nat.pow_eq]
    refine ⟨n, 2 ^ more, rfl, ?_, ?_, fun _ => ⟨rfl, by rw [Nat.add_sub_cancel_left]⟩⟩
    · rwa [Nat.le_div_iff_mul_le positive, ← Nat.pow_add]
    · rwa [Nat.div_lt_iff_lt_mul positive, ← Nat.pow_add, Nat.add_comm 53 more,
        ← Nat.add_assoc more 52 1, Nat.add_comm more 52]
  · have negative : ¬(0 : Int) ≤ (bits : Int) - 52 := by omega
    have exponent : (-((bits : Int) - 52)).toNat = 52 - bits := by omega
    rw [if_neg negative, exponent, Nat.pow_eq]
    refine ⟨n * 2 ^ (52 - bits), 1, rfl, ?_, ?_, fun narrow => absurd narrow wide⟩
    · rw [Nat.div_one]
      calc 2 ^ 52 = 2 ^ bits * 2 ^ (52 - bits) := by rw [← Nat.pow_add]; congr 1; omega
        _ ≤ n * 2 ^ (52 - bits) := Nat.mul_le_mul_right _ low
    · rw [Nat.div_one]
      calc n * 2 ^ (52 - bits) < 2 ^ (bits + 1) * 2 ^ (52 - bits) :=
            Nat.mul_lt_mul_of_pos_right high (Nat.two_pow_pos _)
        _ = 2 ^ 53 := by rw [← Nat.pow_add]; congr 1; omega

/-- An integer is rounded to 53 bits, which its greatest bit gives the exponent. -/
theorem ofInt_eq {n : Int} (nonzero : n ≠ 0) :
    ∃ num den : Nat,
      ofInt n = ofSignificand (n < 0) (roundDiv num den) ((n.natAbs.log2 : Int) - 52) ∧
        2 ^ 52 ≤ num / den ∧ num / den < 2 ^ 53 ∧
        (52 ≤ n.natAbs.log2 → num = n.natAbs ∧ den = 2 ^ (n.natAbs.log2 - 52)) := by
  have some : n.natAbs ≠ 0 := Int.natAbs_ne_zero.mpr nonzero
  obtain ⟨num, den, scaled, enough, few, same⟩ :=
    scaled_bits (Nat.log2_self_le some) Nat.lt_log2_self
  have exponent : exponentOf n.natAbs 1 = (n.natAbs.log2 : Int) - 52 := by
    have one : (Nat.log2 1 : Int) = 0 := rfl
    have normal : ¬num / den < Nat.pow 2 52 := Nat.not_lt.mpr enough
    unfold exponentOf
    dsimp only
    rw [one, Int.sub_zero, scaled]
    dsimp only
    rw [if_neg normal]
    omega
  refine ⟨num, den, ?_, enough, few, same⟩
  rw [ofInt, ofRatio, if_neg some, exponent]
  dsimp only
  rw [scaled]

theorem isFinite_ofSignificand {negative : Bool} {significand : Nat} {exponent : Int}
    (enough : 2 ^ 52 ≤ significand) (few : significand ≤ 2 ^ 53) (large : -1074 ≤ exponent) :
    (ofSignificand negative significand exponent).isFinite = true ↔
      exponent ≤ 970 ∨ exponent = 971 ∧ significand ≠ 2 ^ 53 := by
  have spelled : Nat.pow 2 53 = 2 ^ 53 := rfl
  unfold ofSignificand
  dsimp only
  -- A significand that rounding has filled up moves into the next exponent.
  by_cases full : significand = Nat.pow 2 53
  · rw [if_pos full]
    rw [spelled] at full
    by_cases normal : Normal (Nat.pow 2 52) (exponent + 1)
    · have bounds := normal.2.2.1
      rw [dif_pos normal]
      simp only [isFinite, true_iff]
      omega
    · rw [dif_neg normal]
      simp only [isFinite, Bool.false_eq_true, false_iff]
      intro inside
      exact normal ⟨by decide, by omega, by omega, .inl (Nat.le_refl _)⟩
  · rw [if_neg full]
    by_cases normal : Normal significand exponent
    · have bounds := normal.2.2.1
      rw [dif_pos normal]
      rw [spelled] at full
      simp only [isFinite, true_iff]
      omega
    · rw [dif_neg normal]
      simp only [isFinite, Bool.false_eq_true, false_iff]
      intro inside
      exact normal ⟨Nat.lt_of_le_of_ne few full, large, by omega, .inl enough⟩

theorem pow_le_parts {bits a k : Nat} (less : bits ≤ a + k) : 2 ^ bits ≤ 2 ^ a * 2 ^ k := by
  rw [← Nat.pow_add]
  exact Nat.pow_le_pow_right (by decide) less

theorem parts_le_pow {bits a k : Nat} (more : a + k ≤ bits) : 2 ^ a * 2 ^ k ≤ 2 ^ bits := by
  rw [← Nat.pow_add]
  exact Nat.pow_le_pow_right (by decide) more

/-- Exactly the integers below the limit become finite numbers. -/
theorem isFinite_ofInt_iff (n : Int) : (ofInt n).isFinite = true ↔ n.natAbs < wholeLimit := by
  have half : 0 < 2 ^ 970 := pow_pos (by decide) 970
  by_cases nonzero : n = 0
  · subst nonzero
    exact iff_of_true rfl (Nat.mul_pos (by decide) half)
  obtain ⟨num, den, rounded, enough, few, same⟩ := ofInt_eq nonzero
  have some : n.natAbs ≠ 0 := Int.natAbs_ne_zero.mpr nonzero
  have low : 2 ^ n.natAbs.log2 ≤ n.natAbs := Nat.log2_self_le some
  have high : n.natAbs < 2 ^ (n.natAbs.log2 + 1) := Nat.lt_log2_self
  have least := le_roundDiv enough
  have most := roundDiv_le num den
  rw [rounded, isFinite_ofSignificand least (by omega) (by omega), wholeLimit]
  -- Only with 1024 bits does rounding decide.
  rcases Nat.lt_trichotomy n.natAbs.log2 1023 with less | exact | more
  · have small : 2 ^ (n.natAbs.log2 + 1) ≤ 2 ^ 53 * 2 ^ 970 := pow_le_parts less
    generalize 2 ^ 970 = half at small
    exact iff_of_true (.inl (by omega)) (by omega)
  · obtain ⟨rfl, rfl⟩ := same (by omega)
    have below : 2 ^ (n.natAbs.log2 + 1) ≤ 2 ^ 54 * 2 ^ 970 := pow_le_parts (by omega)
    have exponent : n.natAbs.log2 - 52 = 970 + 1 := by omega
    rw [exponent, pow_succ' 2 970]
    generalize 2 ^ 970 = half at below half
    have round := roundDiv_eq_iff n.natAbs (2 ^ 53) half (by decide) (by omega)
    omega
  · have large : 2 ^ 54 * 2 ^ 970 ≤ 2 ^ n.natAbs.log2 := parts_le_pow more
    generalize 2 ^ 970 = half at large
    exact iff_of_false (by omega) (by omega)

end FeatureSpec.Binary64
