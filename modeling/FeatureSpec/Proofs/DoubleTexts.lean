import FeatureSpec.Number.Shortest
import FeatureSpec.Proofs.JsonRoundTrip
import FeatureSpec.Proofs.NearestDoubles
/-!
Every double is read again from what JSON writes of it: the decimal that is chosen for it is nearest
to it alone, and its digits, point and exponent are read as a decimal of the same magnitude.
-/
namespace FeatureSpec

namespace Decimal

open Binary64

theorem trimZeros_magnitude (fuel n : Nat) (e : Int) :
    ((trimZeros fuel n e).1 * 10 ^ (trimZeros fuel n e).2 : ℚ) = n * 10 ^ e := by
  induction fuel generalizing n e with
  | zero => rfl
  | succ fuel ih =>
    unfold trimZeros
    split
    · rename_i trailing
      have tenfold : (n : ℚ) = (n / 10 : Nat) * 10 := by
        exact_mod_cast (Nat.div_mul_cancel (Nat.dvd_of_mod_eq_zero trailing.2)).symm
      rw [ih, tenfold, zpow_add_one₀ (by norm_num)]
      ring
    · rfl

theorem normalize_magnitude (d : Decimal) : d.normalize.magnitude = d.magnitude :=
  trimZeros_magnitude (Nat.log2 d.digits + 1) d.digits d.exponent

theorem normalize_negative (d : Decimal) : d.normalize.negative = d.negative := rfl

end Decimal

namespace Binary64

variable {m : Nat} {e : Int}

theorem exactDecimal_magnitude (m : Nat) (e : Int) : (exactDecimal m e).magnitude = m * 2 ^ e := by
  unfold exactDecimal Decimal.magnitude
  split
  · rename_i whole
    obtain ⟨k, rfl⟩ := Int.eq_ofNat_of_zero_le whole
    simp
  · obtain ⟨k, rfl⟩ : ∃ k : Nat, e = -(k : Int) := ⟨(-e).toNat, by omega⟩
    have ten : (10 : ℚ) = 5 * 2 := by norm_num
    simp only [Int.neg_neg, Int.toNat_natCast, Nat.pow_eq, zpow_neg, zpow_natCast]
    push_cast
    rw [ten, mul_pow]
    field_simp

theorem exactDecimal_negative (m : Nat) (e : Int) : (exactDecimal m e).negative = false := by
  unfold exactDecimal
  split <;> rfl

theorem ofSignificand_of_sign {k : Nat} {i : Int} {normal : Normal m e}
    (made : ofSignificand false k i = .finite false m e normal) (negative : Bool) :
    ofSignificand negative k i = .finite negative m e normal := by
  unfold ofSignificand at made ⊢
  generalize (if k = Nat.pow 2 53 then (Nat.pow 2 52, i + 1) else (k, i)) = shifted at made ⊢
  obtain ⟨m', e'⟩ := shifted
  dsimp only at made ⊢
  by_cases fits : Normal m' e'
  · rw [dif_pos fits] at made ⊢
    cases made
    rfl
  · rw [dif_neg fits] at made
    cases made

theorem nearest_of_sign {x : ℚ} {normal : Normal m e}
    (rounded : nearest false x = .finite false m e normal) (negative : Bool) :
    nearest negative x = .finite negative m e normal := by
  unfold nearest at rounded ⊢
  split at rounded
  · rename_i none
    rw [if_pos none]
    cases rounded
    rfl
  · rename_i some
    rw [if_neg some]
    exact ofSignificand_of_sign rounded negative

/-- What is chosen for a magnitude is nearest to it alone. -/
theorem shortest_spec (normal : Normal m e) (some : m ≠ 0) :
    (shortest m e).negative = false ∧ (shortest m e).toBinary64 = .finite false m e normal := by
  have target : ofSignificand false m e = .finite false m e normal := by
    unfold ofSignificand
    rw [if_neg (Nat.ne_of_lt normal.1)]
    exact dif_pos normal
  have exact : (exactDecimal m e).toBinary64 = .finite false m e normal := by
    rw [Decimal.toBinary64_eq, exactDecimal_negative, exactDecimal_magnitude,
      nearest_normal false normal some]
  -- Each candidate is tried by reading it back, so the one that is found reads back as the double.
  suffices chosen : ∀ d? : Option Decimal,
      (∀ d ∈ d?, d.negative = false ∧ d.toBinary64 = .finite false m e normal) →
      (d?.getD (exactDecimal m e)).normalize.negative = false ∧
        (d?.getD (exactDecimal m e)).normalize.toBinary64 = .finite false m e normal by
    refine chosen _ fun d found => ⟨?_, ?_⟩
    · obtain ⟨i, -, member⟩ := List.mem_flatMap.mp (List.mem_of_find?_eq_some found)
      obtain ⟨q, -, rfl⟩ := List.mem_map.mp member
      rfl
    · have back := List.find?_some found
      rw [target] at back
      exact beq_iff_eq.mp back
  intro d? good
  have kept (d : Decimal) : d.normalize.toBinary64 = d.toBinary64 :=
    Decimal.toBinary64_congr rfl d.normalize_magnitude
  rw [kept, Decimal.normalize_negative]
  cases d? with
  | none => exact ⟨exactDecimal_negative m e, exact⟩
  | some d => exact good d rfl

end Binary64

namespace Json

open Text Number Binary64

/-! ### Digits -/

theorem natOfDigits_append (cs ds : List Char) :
    natOfDigits (cs ++ ds) = natOfDigits cs * 10 ^ ds.length + natOfDigits ds := by
  induction ds using List.reverseRecOn with
  | nil => simp [natOfDigits, ofDigits]
  | append_singleton ds d ih =>
    have last (ds : List Char) :
        natOfDigits (ds ++ [d]) = natOfDigits ds * 10 + (d.toNat - 48) := by
      simp [natOfDigits, ofDigits]
    rw [← List.append_assoc, last, last, ih, List.length_append, List.length_singleton, pow_succ]
    ring

theorem natOfDigits_zero_cons (ds : List Char) : natOfDigits ('0' :: ds) = natOfDigits ds := rfl

theorem natOfDigits_zeros (k : Nat) (ds : List Char) :
    natOfDigits (List.replicate k '0' ++ ds) = natOfDigits ds := by
  induction k with
  | zero => rfl
  | succ k ih => rw [List.replicate_succ, List.cons_append, natOfDigits_zero_cons, ih]

theorem isDigit_zeros (k : Nat) : ∀ c ∈ List.replicate k '0', c.isDigit = true := by
  intro c member
  rw [List.eq_of_mem_replicate member]
  rfl

section

variable {digits rest : List Char}

def stopsDigits (cs : List Char) : Bool := !(cs.head?.any Char.isDigit)

theorem spanDigits_of_stop (all : ∀ c ∈ digits, c.isDigit = true)
    (stops : stopsDigits rest = true) :
    spanDigits (digits ++ rest) = (digits, rest) := by
  refine span_append_of_all all fun c first => ?_
  obtain ⟨later, rfl⟩ := List.head?_eq_some_iff.mp first
  simpa [stopsDigits] using stops

theorem stopsDigits_of_ends (ends : endsNumber rest = true) : stopsDigits rest = true := by
  cases rest with
  | nil => rfl
  | cons c rest =>
    simp only [endsNumber, Bool.and_eq_true] at ends
    exact ends.1.1.1

theorem wholeDigits_of_head {c : Char} (nonzero : c ≠ '0')
    (all : ∀ d ∈ c :: digits, d.isDigit = true) (stops : stopsDigits rest = true) :
    wholeDigits? (c :: digits ++ rest) = some (c :: digits, rest) := by
  have spanned := spanDigits_of_stop all stops
  rw [List.cons_append] at spanned ⊢
  rw [wholeDigits?.eq_2 _ _ nonzero, if_pos (all c List.mem_cons_self), spanned]

theorem fractionDigits_of_point (written : digits ≠ [])
    (all : ∀ d ∈ digits, d.isDigit = true) (stops : stopsDigits rest = true) :
    fractionDigits ('.' :: (digits ++ rest)) = (digits, rest) := by
  have some : digits.isEmpty = false := by simp [written]
  simp [fractionDigits, spanDigits_of_stop all stops, some]

theorem isDigit_toDigits (n : Nat) : ∀ c ∈ Nat.toDigits 10 n, c.isDigit = true :=
  fun _ member => Nat.isDigit_of_mem_toDigits (by decide) (by decide) member

theorem exponent_exponentChars (n : Int) (ends : endsNumber rest = true) :
    exponent? (exponentChars n ++ rest) = (some n, rest) := by
  obtain ⟨padded, written, all, some, value⟩ : ∃ padded : List Char,
      exponentChars n = 'e' :: (if n < 0 then '-' else '+') :: padded ∧
        (∀ c ∈ padded, c.isDigit = true) ∧ padded ≠ [] ∧ natOfDigits padded = n.natAbs := by
    refine ⟨_, rfl, ?_⟩
    split
    · refine ⟨List.forall_mem_cons.mpr ⟨rfl, isDigit_toDigits _⟩, List.cons_ne_nil _ _, ?_⟩
      rw [natOfDigits_zero_cons, natOfDigits_toDigits]
    · exact ⟨isDigit_toDigits _, Nat.toDigits_ne_nil, natOfDigits_toDigits _⟩
  have signs : spanSign ((if n < 0 then '-' else '+') :: (padded ++ rest)) =
      (decide (n < 0), padded ++ rest) := by
    by_cases sign : n < 0 <;> simp [sign, spanSign]
  have nonempty : padded.isEmpty = false := by simp [some]
  rw [written]
  simp [exponent?, signs, spanDigits_append all ends, nonempty, value, signed_natAbs]

end

/-! ### Numerals -/

/-- The text of a floating-point number: whole digits, and a fraction or an exponent or both. -/
structure Numeral where
  whole : List Char
  fraction : List Char
  exponent : Option Int := none
  digits : ∀ c ∈ whole ++ fraction, c.isDigit = true
  leading : whole = ['0'] ∨ ∃ c ∈ whole.head?, c ≠ '0'
  float : (fraction.isEmpty && exponent.isNone) = false

namespace Numeral

def chars (n : Numeral) : List Char :=
  n.whole ++ (if n.fraction.isEmpty then [] else '.' :: n.fraction) ++
    (n.exponent.map exponentChars).getD []

def decimal (n : Numeral) (negative : Bool) : Decimal :=
  decimalOf negative n.whole n.fraction (n.exponent.getD 0)

variable {rest : List Char}

theorem exponent_eq (n : Numeral) (ends : endsNumber rest = true) :
    exponent? ((n.exponent.map exponentChars).getD [] ++ rest) = (n.exponent, rest) := by
  cases n.exponent with
  | none => exact (no_more_of_ends ends).2
  | some exponent => exact exponent_exponentChars exponent ends

theorem stopsDigits_exponent (n : Numeral) (ends : endsNumber rest = true) :
    stopsDigits ((n.exponent.map exponentChars).getD [] ++ rest) = true := by
  cases n.exponent with
  | none => exact stopsDigits_of_ends ends
  | some exponent => rfl

theorem fraction_eq (n : Numeral) (ends : endsNumber rest = true) :
    let tail := (n.exponent.map exponentChars).getD [] ++ rest
    fractionDigits ((if n.fraction.isEmpty then [] else '.' :: n.fraction) ++ tail) =
      (n.fraction, tail) := by
  intro tail
  rcases fraction : n.fraction with _ | ⟨d, more⟩
  · cases exponent : n.exponent with
    | none =>
      have none : tail = rest := by simp [tail, exponent]
      rw [none]
      exact (no_more_of_ends ends).1
    | some k =>
      have some : tail = exponentChars k ++ rest := by simp [tail, exponent]
      rw [some]
      rfl
  · have all : ∀ c ∈ d :: more, c.isDigit = true := fun c member =>
      n.digits c (List.mem_append_right _ (fraction ▸ member))
    exact fractionDigits_of_point (List.cons_ne_nil _ _) all (n.stopsDigits_exponent ends)

theorem whole_eq (n : Numeral) {tail : List Char} (stops : stopsDigits tail = true) :
    wholeDigits? (n.whole ++ tail) = some (n.whole, tail) := by
  rcases n.leading with zero | ⟨c, first, nonzero⟩
  · rw [zero]
    rfl
  · obtain ⟨more, whole⟩ := List.head?_eq_some_iff.mp first
    rw [whole]
    refine wholeDigits_of_head nonzero (fun d member => ?_) stops
    exact n.digits d (List.mem_append_left _ (whole ▸ member))

theorem numberBody_eq (n : Numeral) (negative : Bool) (ends : endsNumber rest = true) :
    numberBody negative (n.chars ++ rest) = .ok (.float (n.decimal negative).toBinary64, rest) := by
  have stops : stopsDigits ((if n.fraction.isEmpty then [] else '.' :: n.fraction) ++
      ((n.exponent.map exponentChars).getD [] ++ rest)) = true := by
    split
    · exact n.stopsDigits_exponent ends
    · rfl
  rw [chars, List.append_assoc, List.append_assoc]
  simp only [numberBody, n.whole_eq stops, n.fraction_eq ends, n.exponent_eq ends, n.float,
    Bool.false_eq_true, if_false, decimal]

theorem chars_head (n : Numeral) : ∃ c more, n.chars = c :: more ∧ c.isDigit = true := by
  have some : ∃ c, c ∈ n.whole.head? := by
    rcases n.leading with zero | ⟨c, first, -⟩
    · exact ⟨'0', by rw [zero]; rfl⟩
    · exact ⟨c, first⟩
  obtain ⟨c, first⟩ := some
  obtain ⟨more, whole⟩ := List.head?_eq_some_iff.mp first
  have digit : c.isDigit = true := n.digits c (by simp [whole])
  exact ⟨c, _, by rw [chars, whole, List.append_assoc, List.cons_append], digit⟩

/-- With its sign, a numeral is read as the double that its decimal is rounded to. -/
theorem scalar_eq (n : Numeral) (negative : Bool) (ends : endsNumber rest = true) :
    scalar ((if negative then '-' :: n.chars else n.chars) ++ rest) =
      .ok (.float (n.decimal negative).toBinary64, rest) := by
  have read := n.numberBody_eq negative ends
  obtain ⟨c, more, written, digit⟩ := n.chars_head
  rw [written, List.cons_append] at read
  cases negative
  · rw [if_neg (by decide), written, List.cons_append, scalar_of_digit digit]
    exact read
  · rw [if_pos rfl, written, List.cons_append, List.cons_append, scalar_of_minus digit]
    exact read

theorem magnitude_eq (n : Numeral) (negative : Bool) :
    (n.decimal negative).magnitude =
      natOfDigits (n.whole ++ n.fraction) * 10 ^ (n.exponent.getD 0 - (n.fraction.length : Int)) :=
  rfl

end Numeral

/-- A text of a magnitude is a numeral of that magnitude. -/
def Spells (text : List Char) (x : ℚ) : Prop :=
  ∃ n : Numeral, n.chars = text ∧ ∀ negative, (n.decimal negative).magnitude = x

section

variable {ds : List Char} (all : ∀ c ∈ ds, c.isDigit = true)

include all

theorem spells_zeros_before (some : ds ≠ []) (k : Nat) :
    Spells ('0' :: '.' :: List.replicate k '0' ++ ds)
      (natOfDigits ds * 10 ^ (-(k : Int) - ds.length)) := by
  refine ⟨{ whole := ['0'], fraction := List.replicate k '0' ++ ds, digits := ?_,
            leading := .inl rfl, float := by simp [some] }, by simp [Numeral.chars, some],
    fun negative => ?_⟩
  · exact List.forall_mem_append.mpr ⟨List.forall_mem_singleton.mpr rfl,
      List.forall_mem_append.mpr ⟨isDigit_zeros k, all⟩⟩
  · rw [Numeral.magnitude_eq]
    have digits : natOfDigits (['0'] ++ (List.replicate k '0' ++ ds)) = natOfDigits ds := by
      rw [List.singleton_append, natOfDigits_zero_cons, natOfDigits_zeros]
    simp only [digits, List.length_append, List.length_replicate, Option.getD_none]
    congr 2
    omega

variable (leading : ∃ c ∈ ds.head?, c ≠ '0')

include leading

theorem spells_zeros_behind (j : Nat) :
    Spells (ds ++ List.replicate j '0' ++ ['.', '0']) (natOfDigits ds * 10 ^ j) := by
  obtain ⟨c, first, nonzero⟩ := leading
  obtain ⟨more, written⟩ := List.head?_eq_some_iff.mp first
  refine ⟨{ whole := ds ++ List.replicate j '0', fraction := ['0'], digits := ?_,
            leading := .inr ⟨c, by simp [written], nonzero⟩, float := rfl },
    by simp [Numeral.chars], fun negative => ?_⟩
  · exact List.forall_mem_append.mpr ⟨List.forall_mem_append.mpr ⟨all, isDigit_zeros j⟩,
      List.forall_mem_singleton.mpr rfl⟩
  · rw [Numeral.magnitude_eq]
    -- The zero behind the point counts as a digit, and is taken back by its place.
    have digits : natOfDigits (ds ++ List.replicate j '0' ++ ['0']) =
        natOfDigits ds * 10 ^ (j + 1) := by
      rw [List.append_assoc, natOfDigits_append, natOfDigits_zeros, List.length_append,
        List.length_replicate]
      rfl
    have last : (Option.none.getD 0 : Int) - (['0'].length : Int) = -1 := rfl
    simp only [digits, last]
    push_cast
    rw [pow_succ, zpow_neg_one]
    field_simp

theorem spells_point_within {k : Nat} (some : k ≠ 0) (longer : k < ds.length) :
    Spells (ds.take k ++ '.' :: ds.drop k) (natOfDigits ds * 10 ^ ((k : Int) - ds.length)) := by
  obtain ⟨c, first, nonzero⟩ := leading
  have whole : ds.take k ++ ds.drop k = ds := List.take_append_drop k ds
  refine ⟨{ whole := ds.take k, fraction := ds.drop k, digits := by rwa [whole],
            leading := .inr ⟨c, ?_, nonzero⟩, float := by simp [longer] },
    by simp [Numeral.chars, longer], fun negative => ?_⟩
  · rwa [List.head?_take, if_neg some]
  · rw [Numeral.magnitude_eq]
    simp only [whole, Option.getD_none, List.length_drop]
    congr 2
    omega

end

section

variable {n : Nat} (positive : 0 < n)

include positive

/-- The point stands before the digits, behind them, or within. -/
theorem spells_positional (point : Int) :
    Spells (positional (Nat.toDigits 10 n) point)
      (n * 10 ^ (point - (Nat.toDigits 10 n).length)) := by
  have value := natOfDigits_toDigits n
  have all := isDigit_toDigits n
  obtain ⟨c, more, written, nonzero⟩ := toDigits_head positive
  generalize Nat.toDigits 10 n = ds at value all written ⊢
  have leading : ∃ c ∈ ds.head?, c ≠ '0' := ⟨c, by simp [written], nonzero⟩
  rw [← value]
  unfold positional
  split_ifs with before
  · obtain ⟨k, rfl⟩ : ∃ k : Nat, point = -(k : Int) := ⟨(-point).toNat, by omega⟩
    rw [Int.neg_neg, Int.toNat_natCast]
    exact spells_zeros_before all (written ▸ List.cons_ne_nil c more) k
  · obtain ⟨k, rfl⟩ := Int.eq_ofNat_of_zero_le (by omega : 0 ≤ point)
    simp only [Int.toNat_natCast]
    split_ifs with short
    · obtain ⟨j, rfl⟩ := Nat.exists_eq_add_of_le short
      have behind : ((ds.length + j : Nat) : Int) - ds.length = j := by omega
      rw [Nat.add_sub_cancel_left, behind, zpow_natCast]
      exact spells_zeros_behind all leading j
    · exact spells_point_within all leading (by omega) (Nat.lt_of_not_le short)

theorem spells_scientific (lead : Int) :
    Spells (scientific (Nat.toDigits 10 n) lead)
      (n * 10 ^ (lead + 1 - (Nat.toDigits 10 n).length)) := by
  have value := natOfDigits_toDigits n
  have all := isDigit_toDigits n
  obtain ⟨c, more, written, nonzero⟩ := toDigits_head positive
  rw [written] at value all ⊢
  refine ⟨{ whole := [c], fraction := more, exponent := Option.some lead, digits := all,
            leading := .inr ⟨c, rfl, nonzero⟩, float := by simp }, ?_, fun negative => ?_⟩
  · cases more <;> simp [Numeral.chars, scientific]
  · rw [Numeral.magnitude_eq]
    simp only [List.singleton_append, value, Option.getD_some, List.length_cons]
    congr 2
    omega

end

/-- The text of a magnitude is a numeral that the same double is nearest to. -/
theorem spells_magnitudeText {m : Nat} {e : Int} (normal : Normal m e) (some : m ≠ 0) :
    ∃ n : Numeral, n.chars = magnitudeText m e ∧
      ∀ negative, (n.decimal negative).toBinary64 = .finite negative m e normal := by
  obtain ⟨unsigned, rounded⟩ := shortest_spec normal some
  unfold magnitudeText
  generalize shortest m e = d at unsigned rounded ⊢
  -- Only zero has no digits.
  have positive : 0 < d.digits := by
    refine Nat.pos_of_ne_zero fun none => some ?_
    rw [Decimal.toBinary64, if_pos none, unsigned] at rounded
    cases rounded
    rfl
  have lead : d.exponent + ((Nat.toDigits 10 d.digits).length : Int) - 1 + 1 -
      (Nat.toDigits 10 d.digits).length = d.exponent := by omega
  have positioned := spells_positional positive
    (d.exponent + ((Nat.toDigits 10 d.digits).length : Int) - 1 + 1)
  have scaled := spells_scientific positive
    (d.exponent + ((Nat.toDigits 10 d.digits).length : Int) - 1)
  rw [lead] at positioned scaled
  have spelled : Spells (let ds := Nat.toDigits 10 d.digits
      let lead := d.exponent + (ds.length : Int) - 1
      if -4 ≤ lead ∧ lead < 16 then positional ds (lead + 1) else scientific ds lead)
      d.magnitude := by
    dsimp only
    split
    · exact positioned
    · exact scaled
  obtain ⟨n, written, magnitude⟩ := spelled
  rw [Decimal.toBinary64_eq, unsigned] at rounded
  refine ⟨n, written, fun negative => ?_⟩
  have signed : (n.decimal negative).negative = negative := rfl
  rw [Decimal.toBinary64_eq, signed, magnitude]
  exact nearest_of_sign rounded negative

def zeroNumeral : Numeral where
  whole := ['0']
  fraction := ['0']
  digits := isDigit_zeros 2
  leading := .inl rfl
  float := rfl

/-- Every double is read again from what is written of it. -/
theorem readsBack (x : Binary64) : ReadsBack x := by
  intro rest ends
  cases x with
  | nan => rfl
  | infinite negative => cases negative <;> rfl
  | finite negative m e normal =>
    -- Zero is written apart from the numbers that have a shortest decimal.
    have numeral : ∃ n : Numeral, n.chars = (if m = 0 then ['0', '.', '0'] else magnitudeText m e) ∧
        ∀ negative, (n.decimal negative).toBinary64 = .finite negative m e normal := by
      by_cases none : m = 0
      · subst none
        obtain rfl : e = -1074 := normal.2.2.2.resolve_left (by decide)
        exact ⟨zeroNumeral, rfl, fun negative => if_pos rfl⟩
      · rw [if_neg none]
        exact spells_magnitudeText normal none
    obtain ⟨n, written, rounded⟩ := numeral
    have text : floatChars (.finite negative m e normal) =
        if negative then '-' :: n.chars else n.chars := by
      rw [written]
      exact String.toList_ofList
    rw [text, n.scalar_eq negative ends, rounded]

end Json
end FeatureSpec
