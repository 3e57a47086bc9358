import FeatureSpec.Json.Reader
import FeatureSpec.Json.Writer
import FeatureSpec.Proofs.Spans
import Mathlib
/-!
Strings and integers that are written are read back, whatever stands behind them. An integer needs
something behind it that could not belong to a number, and no more digits than are read.
-/
namespace FeatureSpec.Json

open Text Number

/-! ### Strings -/

theorem hexDigit_hexChar {d : Nat} (small : d < 16) : hexDigit? (hexChar d) = some d := by
  have all : ∀ d : Fin 16, hexDigit? (hexChar d) = some d.val := by decide
  exact all ⟨d, small⟩

theorem hex_four (n : Nat) :
    hex 4 n = [hexChar (n / 16 / 16 / 16 % 16), hexChar (n / 16 / 16 % 16), hexChar (n / 16 % 16),
      hexChar (n % 16)] := rfl

theorem unit_hex {n : Nat} (small : n < 0x10000) :
    unit? (hexChar (n / 16 / 16 / 16 % 16)) (hexChar (n / 16 / 16 % 16)) (hexChar (n / 16 % 16))
      (hexChar (n % 16)) = some n := by
  have digits : ofDigits 16 [n / 16 / 16 / 16 % 16, n / 16 / 16 % 16, n / 16 % 16, n % 16] = n := by
    simp only [ofDigits, List.foldl_cons, List.foldl_nil]
    omega
  have digit (m : Nat) : hexDigit? (hexChar (m % 16)) = some (m % 16) :=
    hexDigit_hexChar (Nat.mod_lt m (by decide))
  simp only [unit?, digit, Option.bind_eq_bind, Option.bind_some, Option.pure_def, digits]

/-- A string that starts with this character, its rest read by `more`. -/
def startWith (c : Char) (more : Option (List Char × List Char)) :
    Option (List Char × List Char) :=
  more.map fun read => (c :: read.1, read.2)

theorem stringBody_unit {n : Nat} (small : n < 0x10000) (high : isHighSurrogate n = false)
    (low : isLowSurrogate n = false) (rest : List Char) :
    stringBody none (unitEscape n ++ rest) = startWith (Char.ofNat n) (stringBody none rest) := by
  rw [unitEscape, hex_four]
  simp only [List.cons_append, List.nil_append]
  rw [stringBody.eq_1, unit_hex small]
  simp only [Option.bind_eq_bind, Option.bind_some, high, low, Bool.false_eq_true, if_false,
    startWith, Option.map_eq_bind]
  rfl

/-- A high surrogate and a low one stand for one character. -/
theorem stringBody_pair {h l : Nat} (high : isHighSurrogate h = true)
    (low : isLowSurrogate l = true) (rest : List Char) :
    stringBody none (unitEscape h ++ unitEscape l ++ rest) =
      startWith (pairChar h l) (stringBody none rest) := by
  have smallHigh : h < 0x10000 := by
    simp only [isHighSurrogate, Bool.and_eq_true, decide_eq_true_eq] at high
    omega
  have smallLow : l < 0x10000 := by
    simp only [isLowSurrogate, Bool.and_eq_true, decide_eq_true_eq] at low
    omega
  rw [unitEscape, unitEscape, hex_four, hex_four]
  simp only [List.cons_append, List.nil_append]
  rw [stringBody.eq_1, unit_hex smallHigh]
  simp only [Option.bind_eq_bind, Option.bind_some, high, if_true]
  rw [stringBody.eq_1, unit_hex smallLow]
  simp only [Option.bind_eq_bind, Option.bind_some, low, if_true, startWith, Option.map_eq_bind]
  rfl

theorem stringBody_codeEscape (c : Char) (rest : List Char) :
    stringBody none (codeEscape c.toNat ++ rest) = startWith c (stringBody none rest) := by
  have valid : c.toNat < 0xD800 ∨ 0xDFFF < c.toNat ∧ c.toNat < 0x110000 := c.valid
  unfold codeEscape
  -- A character beyond the first plane is written as a pair of surrogates; none is one itself.
  by_cases small : c.toNat < 0x10000
  · rw [if_pos small]
    have high : isHighSurrogate c.toNat = false := by
      simp only [isHighSurrogate, Bool.and_eq_false_iff, decide_eq_false_iff_not]
      omega
    have low : isLowSurrogate c.toNat = false := by
      simp only [isLowSurrogate, Bool.and_eq_false_iff, decide_eq_false_iff_not]
      omega
    rw [stringBody_unit small high low, Char.ofNat_toNat]
  · rw [if_neg small]
    have high : isHighSurrogate (0xD800 + (c.toNat - 0x10000) / 0x400) = true := by
      simp only [isHighSurrogate, Bool.and_eq_true, decide_eq_true_eq]
      omega
    have low : isLowSurrogate (0xDC00 + (c.toNat - 0x10000) % 0x400) = true := by
      simp only [isLowSurrogate, Bool.and_eq_true, decide_eq_true_eq]
      omega
    have pair : pairChar (0xD800 + (c.toNat - 0x10000) / 0x400)
        (0xDC00 + (c.toNat - 0x10000) % 0x400) = c := by
      have code : 0x10000 + (0xD800 + (c.toNat - 0x10000) / 0x400 - 0xD800) * 0x400 +
          (0xDC00 + (c.toNat - 0x10000) % 0x400 - 0xDC00) = c.toNat := by
        omega
      rw [pairChar, code, Char.ofNat_toNat]
    rw [stringBody_pair high low, pair]

theorem stringBody_short {letter c : Char} (short : shortEscape? letter = some c)
    (rest : List Char) :
    stringBody none ('\\' :: letter :: rest) = startWith c (stringBody none rest) := by
  have other : letter ≠ 'u' := by
    rintro rfl
    cases short
  rw [stringBody.eq_5 _ _ fun _ _ _ _ _ same _ => other same, short]
  simp only [Option.bind_eq_bind, Option.bind_some, startWith, Option.map_eq_bind]
  rfl

theorem stringBody_plain {c : Char} (quote : c ≠ '"') (backslash : c ≠ '\\')
    (printable : ¬c.toNat < 0x20) (rest : List Char) :
    stringBody none (c :: rest) = startWith c (stringBody none rest) := by
  rw [stringBody.eq_6 c rest (fun _ _ _ _ _ same _ => backslash same) quote
    fun _ _ same _ => backslash same, if_neg printable]
  rfl

/-- The step: one character, in whatever form it was written. -/
theorem stringBody_escapeChar (ascii : Bool) (c : Char) (rest : List Char) :
    stringBody none (escapeChar ascii c ++ rest) = startWith c (stringBody none rest) := by
  unfold escapeChar
  split_ifs with quote backslash newline return' tab backspace feed control wide
  case pos => rw [beq_iff_eq.mp quote]; exact stringBody_short rfl rest
  case pos => rw [beq_iff_eq.mp backslash]; exact stringBody_short rfl rest
  case pos => rw [beq_iff_eq.mp newline]; exact stringBody_short rfl rest
  case pos => rw [beq_iff_eq.mp return']; exact stringBody_short rfl rest
  case pos => rw [beq_iff_eq.mp tab]; exact stringBody_short rfl rest
  case pos => rw [beq_iff_eq.mp backspace]; exact stringBody_short rfl rest
  case pos => rw [beq_iff_eq.mp feed]; exact stringBody_short rfl rest
  case pos => exact stringBody_codeEscape c rest
  case pos => exact stringBody_codeEscape c rest
  case neg => exact stringBody_plain (by simpa using quote) (by simpa using backslash) control rest

theorem stringBody_escaped (ascii : Bool) (cs rest : List Char) :
    stringBody none (cs.flatMap (escapeChar ascii) ++ '"' :: rest) = some (cs, rest) := by
  induction cs with
  | nil => exact stringBody.eq_4 rest
  | cons c cs ih =>
    rw [List.flatMap_cons, List.append_assoc, stringBody_escapeChar, ih]
    rfl

theorem stringToken_quoted (ascii : Bool) (s : String) (rest : List Char) :
    stringToken (s.toList.flatMap (escapeChar ascii) ++ '"' :: rest) = .ok (s, rest) := by
  rw [stringToken, stringBody_escaped]
  exact congrArg (fun s => Except.ok (s, rest)) String.ofList_toList

/-! ### Integers -/

def endsNumber : List Char → Bool
  | [] => true
  | c :: _ => !c.isDigit && c != '.' && c != 'e' && c != 'E'

theorem natOfDigits_toDigits (n : Nat) : natOfDigits (Nat.toDigits 10 n) = n := by
  have digits : Nat.ofDigitChars 10 (Nat.toDigits 10 n) 0 = n :=
    Nat.ofDigitChars_toDigits (by decide) (by decide)
  have same : natOfDigits (Nat.toDigits 10 n) = Nat.ofDigitChars 10 (Nat.toDigits 10 n) 0 := by
    simp only [natOfDigits, ofDigits, List.foldl_map, Nat.ofDigitChars, Nat.mul_comm]
    rfl
  rw [same, digits]

theorem toDigits_head {n : Nat} (positive : 0 < n) :
    ∃ c digits, Nat.toDigits 10 n = c :: digits ∧ c ≠ '0' := by
  induction n using Nat.strongRecOn with
  | ind n ih =>
    by_cases small : n < 10
    · have digit : ∀ d : Fin 10, 0 < d.val → d.val.digitChar ≠ '0' := by decide
      exact ⟨n.digitChar, [], Nat.toDigits_of_lt_base small, digit ⟨n, small⟩ positive⟩
    · obtain ⟨c, digits, written, nonzero⟩ := ih (n / 10) (by omega) (by omega)
      refine ⟨c, digits ++ [(n % 10).digitChar], ?_, nonzero⟩
      rw [Nat.toDigits_of_base_le (by decide) (by omega), written, List.cons_append]

theorem spanDigits_append {digits rest : List Char} (all : ∀ c ∈ digits, c.isDigit = true)
    (ends : endsNumber rest = true) : spanDigits (digits ++ rest) = (digits, rest) := by
  refine span_append_of_all all fun c first => ?_
  obtain ⟨later, rfl⟩ := List.head?_eq_some_iff.mp first
  simp only [endsNumber, Bool.and_eq_true, Bool.not_eq_true'] at ends
  exact ends.1.1.1

theorem wholeDigits_append (n : Nat) {rest : List Char} (ends : endsNumber rest = true) :
    wholeDigits? (Nat.toDigits 10 n ++ rest) = some (Nat.toDigits 10 n, rest) := by
  have all : ∀ c ∈ Nat.toDigits 10 n, c.isDigit = true := fun c member =>
    Nat.isDigit_of_mem_toDigits (by decide) (by decide) member
  rcases Nat.eq_zero_or_pos n with rfl | positive
  · rfl
  · obtain ⟨c, digits, written, nonzero⟩ := toDigits_head positive
    have spanned := spanDigits_append all ends
    have first : c.isDigit = true := all c (written ▸ List.mem_cons_self)
    rw [written, List.cons_append] at spanned ⊢
    rw [wholeDigits?.eq_2 _ _ nonzero, if_pos first, spanned]

theorem no_more_of_ends {rest : List Char} (ends : endsNumber rest = true) :
    fractionDigits rest = ([], rest) ∧ exponent? rest = (none, rest) := by
  cases rest with
  | nil => exact ⟨rfl, rfl⟩
  | cons c rest =>
    simp only [endsNumber, Bool.and_eq_true, bne_iff_ne, ne_eq] at ends
    obtain ⟨⟨⟨-, point⟩, small⟩, large⟩ := ends
    refine ⟨?_, by simp [exponent?, small, large]⟩
    unfold fractionDigits
    split
    · rename_i same
      exact absurd (List.cons.inj same).1 point
    · rfl

theorem numberBody_toDigits (negative : Bool) {n : Nat} {rest : List Char}
    (short : n < 10 ^ integerDigitLimit) (ends : endsNumber rest = true) :
    numberBody negative (Nat.toDigits 10 n ++ rest) = .ok (.int (signed negative n), rest) := by
  obtain ⟨noFraction, noExponent⟩ := no_more_of_ends ends
  have few : (Nat.toDigits 10 n).length ≤ integerDigitLimit :=
    (Nat.length_toDigits_le_iff (by decide) (by decide)).mpr short
  simp only [numberBody, wholeDigits_append n ends, noFraction, noExponent, List.isEmpty_nil,
    Option.isNone_none, Bool.and_self, if_true, Nat.not_lt.mpr few, if_false,
    natOfDigits_toDigits]

theorem signed_natAbs (n : Int) : signed (decide (n < 0)) n.natAbs = n := by
  unfold signed
  split <;> rename_i sign <;> simp only [decide_eq_true_eq] at sign <;> omega

theorem scalar_of_digit {c : Char} (digit : c.isDigit = true) (cs : List Char) :
    scalar (c :: cs) = numberBody false (c :: cs) := by
  unfold scalar
  split
  case h_8 => rfl
  all_goals
    rename_i same
    cases same
    cases digit

theorem scalar_of_minus {c : Char} (digit : c.isDigit = true) (cs : List Char) :
    scalar ('-' :: c :: cs) = numberBody true (c :: cs) := by
  unfold scalar
  split
  case h_6 same =>
    cases same
    cases digit
  case h_7 same =>
    cases same
    rfl
  case h_8 other => exact absurd rfl (other (c :: cs))
  all_goals
    rename_i same
    cases same

theorem scalar_intChars {n : Int} {rest : List Char} (short : n.natAbs < 10 ^ integerDigitLimit)
    (ends : endsNumber rest = true) : scalar (intChars n ++ rest) = .ok (.int n, rest) := by
  have whole := numberBody_toDigits (decide (n < 0)) short ends
  rw [signed_natAbs] at whole
  have all : ∀ c ∈ Nat.toDigits 10 n.natAbs, c.isDigit = true := fun c member =>
    Nat.isDigit_of_mem_toDigits (by decide) (by decide) member
  unfold intChars
  rcases written : Nat.toDigits 10 n.natAbs with _ | ⟨c, digits⟩
  · exact absurd written Nat.toDigits_ne_nil
  have digit : c.isDigit = true := all c (written ▸ List.mem_cons_self)
  rw [written] at whole
  by_cases sign : n < 0
  · rw [if_pos sign]
    exact (scalar_of_minus digit _).trans (by simpa [sign] using whole)
  · rw [if_neg sign]
    exact (scalar_of_digit digit _).trans (by simpa [sign] using whole)

end FeatureSpec.Json
