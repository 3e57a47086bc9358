import FeatureSpec.Json.Writer
import FeatureSpec.Text.Escape
import Mathlib.Tactic.SplitIfs
/-!
The characters of written JSON: printable ones, in ASCII where that is asked for, and line breaks
where it is indented. So nothing in it is an escape sequence of a terminal.
-/
namespace FeatureSpec

namespace Text

theorem dropEscapes_eq {cs : List Char} (clean : '\x1b' ∉ cs) : dropEscapes [] cs = cs := by
  induction cs with
  | nil => rfl
  | cons c rest ih =>
    obtain ⟨other, later⟩ : '\x1b' ≠ c ∧ '\x1b' ∉ rest := by simpa using clean
    rw [dropEscapes, if_neg (Ne.symm other), ih later]

theorem withoutEscapes_eq {s : String} (clean : '\x1b' ∉ s.toList) : withoutEscapes s = s := by
  rw [withoutEscapes, dropEscapes_eq clean, String.ofList_toList]

end Text

namespace Json

open Text

def Printable (style : Style) (c : Char) : Prop :=
  (c = '\n' ∧ style.indent.isSome = true) ∨
    (0x20 ≤ c.toNat ∧ (style.ascii = true → c.toNat ≤ 0x7E))

variable {style : Style}

theorem printable_of_range {c : Char} (range : 0x20 ≤ c.toNat ∧ c.toNat ≤ 0x7E) :
    Printable style c := .inr ⟨range.1, fun _ => range.2⟩

theorem printable_word (cs : List Char)
    (range : (cs.all fun c => 0x20 ≤ c.toNat && c.toNat ≤ 0x7E) = true) :
    ∀ c ∈ cs, Printable style c := by
  intro c member
  have bounds := List.all_eq_true.mp range c member
  simp only [Bool.and_eq_true, decide_eq_true_eq] at bounds
  exact printable_of_range bounds

/-! ### Strings -/

theorem printable_hexChar (n : Nat) : Printable style (hexChar (n % 16)) := by
  have all : ∀ d : Fin 16, 0x20 ≤ (hexChar d).toNat ∧ (hexChar d).toNat ≤ 0x7E := by decide
  exact printable_of_range (all ⟨n % 16, Nat.mod_lt n (by decide)⟩)

theorem printable_hex (width n : Nat) : ∀ c ∈ hex width n, Printable style c := by
  induction width generalizing n with
  | zero => exact nofun
  | succ width ih =>
    rw [hex]
    refine List.forall_mem_append.mpr ⟨ih (n / 16), ?_⟩
    exact List.forall_mem_singleton.mpr (printable_hexChar n)

theorem printable_unitEscape (n : Nat) : ∀ c ∈ unitEscape n, Printable style c :=
  List.forall_mem_cons.mpr ⟨printable_of_range (by decide),
    List.forall_mem_cons.mpr ⟨printable_of_range (by decide), printable_hex 4 n⟩⟩

theorem printable_codeEscape (n : Nat) : ∀ c ∈ codeEscape n, Printable style c := by
  unfold codeEscape
  split
  · exact printable_unitEscape n
  · exact List.forall_mem_append.mpr ⟨printable_unitEscape _, printable_unitEscape _⟩

theorem printable_short {letter : Char} (range : 0x20 ≤ letter.toNat ∧ letter.toNat ≤ 0x7E) :
    ∀ c ∈ ['\\', letter], Printable style c :=
  List.forall_mem_cons.mpr ⟨printable_of_range (by decide),
    List.forall_mem_singleton.mpr (printable_of_range range)⟩

theorem printable_escapeChar (c : Char) : ∀ d ∈ escapeChar style.ascii c, Printable style d := by
  unfold escapeChar
  split_ifs with quote backslash newline return' tab backspace feed control wide
  case neg =>
    have range : 0x20 ≤ c.toNat ∧ (style.ascii = true → c.toNat ≤ 0x7E) := by
      refine ⟨Nat.not_lt.mp control, fun ascii => ?_⟩
      simpa [ascii] using wide
    exact List.forall_mem_singleton.mpr (.inr range)
  case pos => exact printable_short (by decide)
  case pos => exact printable_short (by decide)
  case pos => exact printable_short (by decide)
  case pos => exact printable_short (by decide)
  case pos => exact printable_short (by decide)
  case pos => exact printable_short (by decide)
  case pos => exact printable_short (by decide)
  case pos => exact printable_codeEscape _
  case pos => exact printable_codeEscape _

theorem printable_quotedChars (s : String) :
    ∀ c ∈ quotedChars style.ascii s, Printable style c := by
  have quote : ∀ c ∈ ['"'], Printable style c :=
    List.forall_mem_singleton.mpr (printable_of_range (by decide))
  have body : ∀ c ∈ s.toList.flatMap (escapeChar style.ascii), Printable style c := by
    intro c member
    obtain ⟨d, -, written⟩ := List.mem_flatMap.mp member
    exact printable_escapeChar d c written
  exact List.forall_mem_append.mpr ⟨List.forall_mem_append.mpr ⟨quote, body⟩, quote⟩

/-! ### Numbers -/

theorem printable_digits (n : Nat) : ∀ c ∈ Nat.toDigits 10 n, Printable style c := by
  intro c member
  have digit : c.isDigit = true := Nat.isDigit_of_mem_toDigits (by decide) (by decide) member
  simp only [Char.isDigit, Bool.and_eq_true, decide_eq_true_eq, ge_iff_le, UInt32.le_iff_toNat_le]
    at digit
  exact printable_of_range ⟨Nat.le_trans (by decide) digit.1, Nat.le_trans digit.2 (by decide)⟩

theorem printable_positional {ds : List Char} (digits : ∀ c ∈ ds, Printable style c)
    (point : Int) : ∀ c ∈ Binary64.positional ds point, Printable style c := by
  have zero : Printable style '0' := printable_of_range (by decide)
  have dot : Printable style '.' := printable_of_range (by decide)
  have zeros (n : Nat) : ∀ c ∈ List.replicate n '0', Printable style c := by
    intro c member
    rw [List.eq_of_mem_replicate member]
    exact zero
  unfold Binary64.positional
  split
  · simp only [List.cons_append, List.forall_mem_cons, List.forall_mem_append]
    exact ⟨zero, dot, zeros _, digits⟩
  dsimp only
  split
  · simp only [List.forall_mem_cons, List.forall_mem_append]
    exact ⟨⟨digits, zeros _⟩, dot, zero, nofun⟩
  · simp only [List.forall_mem_cons, List.forall_mem_append]
    exact ⟨fun c early => digits c (List.mem_of_mem_take early), dot,
      fun c late => digits c (List.mem_of_mem_drop late)⟩

theorem printable_exponentChars (exponent : Int) :
    ∀ c ∈ Binary64.exponentChars exponent, Printable style c := by
  have sign : Printable style (if exponent < 0 then '-' else '+') := by
    split <;> exact printable_of_range (by decide)
  unfold Binary64.exponentChars
  simp only [List.forall_mem_cons]
  refine ⟨printable_of_range (by decide), sign, ?_⟩
  split
  · exact List.forall_mem_cons.mpr ⟨printable_of_range (by decide), printable_digits _⟩
  · exact printable_digits _

theorem printable_scientific {ds : List Char} (digits : ∀ c ∈ ds, Printable style c)
    (exponent : Int) : ∀ c ∈ Binary64.scientific ds exponent, Printable style c := by
  have fraction : ∀ c ∈ (if 1 < ds.length then '.' :: ds.drop 1 else []), Printable style c := by
    split
    · exact List.forall_mem_cons.mpr ⟨printable_of_range (by decide),
        fun c late => digits c (List.mem_of_mem_drop late)⟩
    · exact nofun
  unfold Binary64.scientific
  simp only [List.forall_mem_append]
  exact ⟨⟨fun c early => digits c (List.mem_of_mem_take early), fraction⟩,
    printable_exponentChars exponent⟩

theorem printable_magnitudeText (m : Nat) (e : Int) :
    ∀ c ∈ Binary64.magnitudeText m e, Printable style c := by
  unfold Binary64.magnitudeText
  dsimp only
  split
  · exact printable_positional (printable_digits _) _
  · exact printable_scientific (printable_digits _) _

theorem printable_floatChars (x : Binary64) : ∀ c ∈ floatChars x, Printable style c := by
  rcases x with ⟨negative, m, e, normal⟩ | ⟨_ | _⟩ | _
  case infinite.false => exact printable_word _ (by decide)
  case infinite.true => exact printable_word _ (by decide)
  case nan => exact printable_word _ (by decide)
  case finite =>
    have magnitude : ∀ c ∈ (if m = 0 then ['0', '.', '0'] else Binary64.magnitudeText m e),
        Printable style c := by
      split
      · exact printable_word _ (by decide)
      · exact printable_magnitudeText m e
    show ∀ c ∈ (Binary64.finite negative m e normal).text.toList, Printable style c
    rw [Binary64.text, String.toList_ofList]
    split
    · exact List.forall_mem_cons.mpr ⟨printable_of_range (by decide), magnitude⟩
    · exact magnitude

theorem printable_intChars (n : Int) : ∀ c ∈ intChars n, Printable style c := by
  unfold intChars
  split
  · exact List.forall_mem_cons.mpr ⟨printable_of_range (by decide), printable_digits _⟩
  · exact printable_digits _

/-! ### Values -/

theorem printable_lineBreak (level : Nat) : ∀ c ∈ lineBreak style level, Printable style c := by
  unfold lineBreak
  split
  · exact nofun
  · rename_i width indented
    refine List.forall_mem_cons.mpr ⟨.inl ⟨rfl, by rw [indented]; rfl⟩, fun c blank => ?_⟩
    rw [List.eq_of_mem_replicate blank]
    exact printable_of_range (by decide)

theorem printable_separator (level : Nat) : ∀ c ∈ separator style level, Printable style c := by
  have comma : Printable style ',' := printable_of_range (by decide)
  unfold separator
  split
  · exact List.forall_mem_cons.mpr
      ⟨comma, List.forall_mem_singleton.mpr (printable_of_range (by decide))⟩
  · exact List.forall_mem_cons.mpr ⟨comma, printable_lineBreak level⟩

mutual

/-- Whatever is written of a value may stand in JSON of the style. -/
theorem printable_chars : ∀ (v : Json) (level : Nat), ∀ c ∈ chars style level v, Printable style c
  | .null, _ => printable_word ['n', 'u', 'l', 'l'] (by decide)
  | .bool true, _ => printable_word ['t', 'r', 'u', 'e'] (by decide)
  | .bool false, _ => printable_word ['f', 'a', 'l', 's', 'e'] (by decide)
  | .int n, _ => printable_intChars n
  | .float x, _ => printable_floatChars x
  | .string s, _ => printable_quotedChars s
  | .array [], _ => printable_word ['[', ']'] (by decide)
  | .array (v :: rest), level => by
    simp only [chars, List.forall_mem_append, List.forall_mem_cons, List.cons_append,
      and_assoc]
    exact ⟨printable_of_range (by decide), printable_lineBreak _, printable_chars v _,
      printable_itemChars rest _, printable_lineBreak _, printable_of_range (by decide),
      nofun⟩
  | .object [], _ => printable_word ['{', '}'] (by decide)
  | .object ((k, v) :: rest), level => by
    simp only [chars, List.forall_mem_append, List.forall_mem_cons, List.cons_append,
      and_assoc]
    exact ⟨printable_of_range (by decide), printable_lineBreak _, printable_quotedChars k,
      printable_of_range (by decide), printable_of_range (by decide), nofun, printable_chars v _,
      printable_memberChars rest _, printable_lineBreak _, printable_of_range (by decide),
      nofun⟩

theorem printable_itemChars : ∀ (items : List Json) (level : Nat),
    ∀ c ∈ itemChars style level items, Printable style c
  | [], _ => nofun
  | v :: rest, level => by
    simp only [itemChars, List.forall_mem_append, and_assoc]
    exact ⟨printable_separator level, printable_chars v level, printable_itemChars rest level⟩

theorem printable_memberChars : ∀ (members : List (String × Json)) (level : Nat),
    ∀ c ∈ memberChars style level members, Printable style c
  | [], _ => nofun
  | (k, v) :: rest, level => by
    simp only [memberChars, List.forall_mem_append, List.forall_mem_cons, and_assoc]
    exact ⟨printable_separator level, printable_quotedChars k, printable_of_range (by decide),
      printable_of_range (by decide), nofun, printable_chars v level,
      printable_memberChars rest level⟩

end

/-- Written JSON is shown as it is. -/
theorem withoutEscapes_write (style : Style) (v : Json) :
    withoutEscapes (write style v) = write style v := by
  refine withoutEscapes_eq fun escape => ?_
  rw [write, String.toList_ofList] at escape
  rcases printable_chars v 0 _ escape with ⟨lineBreak, -⟩ | ⟨visible, -⟩
  · exact absurd lineBreak (by decide)
  · exact absurd visible (by decide)

end Json
end FeatureSpec
