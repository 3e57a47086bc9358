import FeatureSpec.Number.IntegerText
import FeatureSpec.Proofs.JsonScalars
/-!
The plain form of an integer is read as that integer where a lenient form may stand, unless it is
longer than what is read.
-/
namespace FeatureSpec.Number.IntegerText

open Text

theorem not_whiteSpace_of_digit {c : Char} (digit : c.isDigit = true) :
    isWhiteSpace c = false := by
  simp only [Char.isDigit, Bool.and_eq_true, decide_eq_true_eq, ge_iff_le, UInt32.le_iff_toNat_le]
    at digit
  have range : 48 ≤ c.toNat ∧ c.toNat ≤ 57 := digit
  simp only [isWhiteSpace, Bool.or_eq_false_iff, Bool.and_eq_false_iff, decide_eq_false_iff_not,
    beq_eq_false_iff_ne, ne_eq]
  omega

theorem trimBy_of_none {α : Type} {p : α → Bool} {xs : List α} (clean : ∀ x ∈ xs, p x = false) :
    trimBy p xs = xs := by
  have kept {ys : List α} (sub : ∀ y ∈ ys, p y = false) : ys.dropWhile p = ys := by
    cases ys with
    | nil => rfl
    | cons y rest => exact List.dropWhile_cons_of_neg (by simp [sub y (.head _)])
  have reversed : ∀ x ∈ xs.reverse, p x = false := fun x member =>
    clean x (List.mem_reverse.mp member)
  rw [trimBy, kept clean, kept reversed, List.reverse_reverse]

section

variable {digits : List Char} (all : ∀ c ∈ digits, c.isDigit = true)

include all

theorem withoutFraction_digits : withoutFraction? digits = some digits := by
  have plain : ∀ c ∈ digits, (c != '.') = true := by
    intro c member
    have digit := all c member
    refine bne_iff_ne.mpr ?_
    rintro rfl
    cases digit
  have cut : (digits ++ []).span (· != '.') = (digits, []) := span_append_of_all plain nofun
  rw [List.append_nil] at cut
  rw [withoutFraction?, cut]

theorem withoutUnderscores_digits : withoutUnderscores? digits = some digits := by
  induction digits with
  | nil => rfl
  | cons c rest ih =>
    have digit : c.isDigit = true := all c (.head _)
    have others : ∀ d ∈ rest, d.isDigit = true := fun d later => all d (.tail _ later)
    have first : c ≠ '_' := by
      rintro rfl
      cases digit
    have second : ∀ more, rest = '_' :: more → False := by
      rintro more rfl
      cases others '_' (.head _)
    rw [withoutUnderscores?.eq_4 c rest first second, ih others]
    rfl

end

section

variable (n : Nat)

theorem isDigit_of_mem : ∀ c ∈ Nat.toDigits 10 n, c.isDigit = true := fun _ member =>
  Nat.isDigit_of_mem_toDigits (by decide) (by decide) member

theorem toDigits_cases : Nat.toDigits 10 n = ['0'] ∨
    ∃ c digits, Nat.toDigits 10 n = c :: digits ∧ isLeadingDigit c = true ∧ c ≠ '0' := by
  rcases Nat.eq_zero_or_pos n with rfl | positive
  · exact .inl rfl
  · obtain ⟨c, digits, written, nonzero⟩ := Json.toDigits_head positive
    have digit : c.isDigit = true := isDigit_of_mem n c (written ▸ List.mem_cons_self)
    exact .inr ⟨c, digits, written, by simp [isLeadingDigit, digit, nonzero], nonzero⟩

theorem withoutZeros_toDigits : withoutZeros? (Nat.toDigits 10 n) = some (Nat.toDigits 10 n) := by
  rcases toDigits_cases n with zero | ⟨c, digits, written, leading, nonzero⟩
  · rw [zero]
    rfl
  · rw [written, withoutZeros?, if_neg nonzero, if_pos (.inl leading)]

theorem unsigned_toDigits :
    (withoutZeros? (Nat.toDigits 10 n)).bind (fun cs => (withoutFraction? cs).bind
      withoutUnderscores?) = some (Nat.toDigits 10 n) := by
  rw [withoutZeros_toDigits, Option.bind_some, withoutFraction_digits (isDigit_of_mem n),
    Option.bind_some, withoutUnderscores_digits (isDigit_of_mem n)]

end

theorem trimmed_intChars (n : Int) : trimBy isWhiteSpace (Json.intChars n) = Json.intChars n := by
  have digits : ∀ c ∈ Nat.toDigits 10 n.natAbs, isWhiteSpace c = false := fun c member =>
    not_whiteSpace_of_digit (isDigit_of_mem n.natAbs c member)
  refine trimBy_of_none ?_
  unfold Json.intChars
  split
  · exact List.forall_mem_cons.mpr ⟨by decide, digits⟩
  · exact digits

theorem plainForm_intChars (n : Int) : plainForm? (Json.intChars n) = some (Json.intChars n) := by
  have unsigned := unsigned_toDigits n.natAbs
  unfold plainForm?
  rw [trimmed_intChars]
  unfold Json.intChars
  by_cases sign : n < 0
  · rw [if_pos sign]
    exact congrArg (Option.map ('-' :: ·)) unsigned
  · rw [if_neg sign]
    obtain ⟨c, digits, written⟩ :=
      List.exists_cons_of_ne_nil (Nat.toDigits_ne_nil (n := n.natAbs) (b := 10))
    have digit : c.isDigit = true := isDigit_of_mem _ c (written ▸ List.mem_cons_self)
    rw [written] at unsigned ⊢
    split
    · rename_i same
      cases same
      cases digit
    · rename_i same
      cases same
      cases digit
    · rename_i same
      cases same
      cases digit
    · exact unsigned

theorem plainDigits_toDigits (n : Nat) {length : Nat} (short : length ≤ limit) :
    (decide (limit < length) || (Nat.toDigits 10 n).isEmpty ||
      !(Nat.toDigits 10 n).all Char.isDigit ||
      ((Nat.toDigits 10 n).head? == some '0' && (Nat.toDigits 10 n).length != 1)) = false := by
  have all : (Nat.toDigits 10 n).all Char.isDigit = true :=
    List.all_eq_true.mpr (isDigit_of_mem n)
  have within : decide (limit < length) = false := decide_eq_false (Nat.not_lt.mpr short)
  rw [within, all]
  rcases toDigits_cases n with zero | ⟨c, digits, written, leading, nonzero⟩
  · rw [zero]
    rfl
  · simp [written, nonzero]

theorem ne_minus_of_digit {c : Char} (digit : c.isDigit = true) : c ≠ '-' := by
  rintro rfl
  cases digit

theorem plain_intChars {n : Int} (short : (Json.intChars n).length ≤ limit) :
    plain? (Json.intChars n) = some n := by
  have plain := plainDigits_toDigits n.natAbs short
  have value : signed (decide (n < 0)) (natOfDigits (Nat.toDigits 10 n.natAbs)) = n := by
    rw [Json.natOfDigits_toDigits, Json.signed_natAbs]
  unfold plain?
  split
  rename_i negative digits parts
  obtain ⟨rfl, rfl⟩ : negative = decide (n < 0) ∧ digits = Nat.toDigits 10 n.natAbs := by
    unfold Json.intChars at parts
    by_cases sign : n < 0
    · rw [if_pos sign] at parts
      cases parts
      exact ⟨(decide_eq_true sign).symm, rfl⟩
    · rw [if_neg sign] at parts
      split at parts
      · rename_i rest same
        have digit := isDigit_of_mem n.natAbs '-' (same ▸ List.mem_cons_self)
        exact absurd rfl (ne_minus_of_digit digit)
      · cases parts
        exact ⟨(decide_eq_false sign).symm, rfl⟩
  rw [if_neg (Bool.eq_false_iff.mp plain), value]

theorem isOversized_intChars {n : Int} (short : (Json.intChars n).length ≤ limit) :
    isOversized (Json.intChars n) = false := by
  have cut : ∃ sign, (Json.intChars n).span (· == '-') = (sign, Nat.toDigits 10 n.natAbs) ∧
      Json.intChars n = sign ++ Nat.toDigits 10 n.natAbs := by
    have stop : ∀ c ∈ (Nat.toDigits 10 n.natAbs).head?, (c == '-') = false := by
      intro c first
      have digit : c.isDigit = true := isDigit_of_mem _ c (List.mem_of_mem_head? first)
      exact beq_eq_false_iff_ne.mpr (ne_minus_of_digit digit)
    unfold Json.intChars
    split
    · exact ⟨['-'], span_append_of_all (List.forall_mem_singleton.mpr rfl) stop, rfl⟩
    · exact ⟨[], span_append_of_all (List.forall_mem_nil _) stop, rfl⟩
  obtain ⟨sign, cut, whole⟩ := cut
  have few : ((Nat.toDigits 10 n.natAbs).takeWhile Char.isDigit).length ≤
      (Nat.toDigits 10 n.natAbs).length := (List.takeWhile_sublist _).length_le
  have within : ¬limit < sign.length +
      ((Nat.toDigits 10 n.natAbs).takeWhile Char.isDigit).length := by
    rw [whole, List.length_append] at short
    omega
  rw [isOversized, cut]
  simp [within]

/-- What is written of an integer is read as that integer. -/
theorem read_intChars {n : Int} (short : (Json.intChars n).length ≤ limit) :
    read (String.ofList (Json.intChars n)) = .ok n := by
  rw [read, String.toList_ofList, isOversized_intChars short, plainForm_intChars,
    Option.bind_some, plain_intChars short]
  rfl

end FeatureSpec.Number.IntegerText
