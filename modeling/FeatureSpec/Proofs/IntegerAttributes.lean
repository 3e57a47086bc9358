import FeatureSpec.Proofs.IntegerWords
import FeatureSpec.Proofs.Leniency
import FeatureSpec.Proofs.QueryTexts
import Mathlib.Data.Nat.Digits.Defs
/-!
What the integer attributes of a document come to: the integer that the trimmed value writes, in the
decimal digits of any script, and nothing where the value writes none. Only an integer with more
digits than are read ends a compilation.
-/
namespace FeatureSpec.Compile

open Xml

/-- A text that writes an integer in digits of a class: a minus sign or none, and then one digit or
more, with the most significant one first. -/
inductive Numeral (digit? : Char → Option Nat) : List Char → List Nat → Int → Prop where
  | plain {digits : List Char} {values : List Nat} (nonempty : values ≠ [])
      (read : List.Forall₂ (fun c d => digit? c = some d) digits values) :
      Numeral digit? digits values (Nat.ofDigits 10 values.reverse : Nat)
  | minus {digits : List Char} {values : List Nat} (nonempty : values ≠ [])
      (read : List.Forall₂ (fun c d => digit? c = some d) digits values) :
      Numeral digit? ('-' :: digits) values (-(Nat.ofDigits 10 values.reverse : Nat))

/-- What an integer attribute comes to, absent or with a value. -/
inductive ComesTo : Option String → Except Failure (Option Int) → Prop where
  | absent : ComesTo none (.ok none)
  | number {value : String} {digits : List Nat} {n : Int}
      (written : Numeral Text.digitValue? (Text.trimChars value.toList) digits n)
      (short : digits.length ≤ Number.integerDigitLimit) : ComesTo (some value) (.ok (some n))
  | overlong {value : String} {digits : List Nat} {n : Int}
      (written : Numeral Text.digitValue? (Text.trimChars value.toList) digits n)
      (long : Number.integerDigitLimit < digits.length) :
      ComesTo (some value) (.error (.value (.tooManyDigits digits.length)))
  | other {value : String}
      (unwritten : ∀ digits n, ¬Numeral Text.digitValue? (Text.trimChars value.toList) digits n) :
      ComesTo (some value) (.ok none)

/-- The integer of a compiled element is what its attribute comes to. -/
def Holds (e : Element) (name : String) (n : Option Int) : Prop := ComesTo (attr? e name) (.ok n)

/-- Every integer of a feature belongs to an element of the document, in order. -/
structure IntegersRead (root : Element) (f : Feature) : Prop where
  tables : List.Forall₂ (fun e (t : DataTable) => Holds e "PageSize" t.pageSize)
    (inSection root "Frontend" "DataTable") f.frontend.dataTables
  fields : List.Forall₂
    (fun e (form : Form) => List.Forall₂ (fun e (d : Field) => Holds e "Rows" d.rows)
      (e.named "Field") form.fields)
    (inSection root "Frontend" "Form") f.frontend.forms
  mappings : List.Forall₂ (fun e (m : Mapping) => Holds e "Rows" m.rows)
    (root.children.filter isMapping) f.mappings

/-! ### Numerals -/

theorem mapM_eq_some_iff {α β : Type} {f : α → Option β} {xs : List α} {ys : List β} :
    xs.mapM f = some ys ↔ List.Forall₂ (fun x y => f x = some y) xs ys := by
  induction xs generalizing ys with
  | nil => cases ys <;> simp
  | cons x xs ih =>
    rw [List.mapM_cons]
    cases ys with
    | nil => cases f x <;> cases xs.mapM f <;> simp
    | cons y ys =>
      rw [List.forall₂_cons, ← ih]
      cases f x <;> cases xs.mapM f <;> simp

theorem ofDigits_eq (values : List Nat) :
    Text.ofDigits 10 values = Nat.ofDigits 10 values.reverse := by
  induction values using List.reverseRecOn with
  | nil => rfl
  | append_singleton values last ih =>
    rw [List.reverse_append, List.reverse_singleton, List.singleton_append, Nat.ofDigits_cons, ← ih,
      Text.ofDigits, Text.ofDigits, List.foldl_append, List.foldl_cons, List.foldl_nil]
    simp [Nat.add_comm, Nat.mul_comm]

theorem not_digit_minus : Text.digitValue? '-' = none := by decide

theorem integerDigits?_of_minus (digits : List Char) :
    integerDigits? ('-' :: digits) = (digits.mapM Text.digitValue?).bind fun values =>
      if values.isEmpty then none else some (true, values) := rfl

theorem integerDigits?_of_plain {cs : List Char} (plain : cs.head? ≠ some '-') :
    integerDigits? cs = (cs.mapM Text.digitValue?).bind fun values =>
      if values.isEmpty then none else some (false, values) := by
  unfold integerDigits?
  split
  rename_i negative digits signed
  split at signed
  · exact absurd rfl plain
  · cases signed
    rfl

theorem some_digits_iff {read : Option (List Nat)} {sign negative : Bool} {values : List Nat} :
    (read.bind fun values => if values.isEmpty then none else some (sign, values)) =
        some (negative, values) ↔ sign = negative ∧ values ≠ [] ∧ read = some values := by
  cases read with
  | none => simp
  | some read =>
    cases read with
    | nil =>
      refine iff_of_false nofun ?_
      rintro ⟨-, nonempty, ⟨⟩⟩
      exact nonempty rfl
    | cons d ds =>
      rw [Option.bind_some, List.isEmpty_cons, if_neg Bool.false_ne_true]
      grind

theorem numeral_iff {cs : List Char} {values : List Nat} {n : Int} :
    Numeral Text.digitValue? cs values n ↔
      ∃ negative, integerDigits? cs = some (negative, values) ∧
        Number.signed negative (Text.ofDigits 10 values) = n := by
  simp only [ofDigits_eq]
  constructor
  · rintro (⟨nonempty, read⟩ | ⟨nonempty, read⟩)
    · refine ⟨false, ?_, rfl⟩
      -- A minus sign is no digit, so a plain numeral is not taken for a negative one.
      have plain : cs.head? ≠ some '-' := by
        rcases read with _ | ⟨first, -⟩
        · exact absurd rfl nonempty
        · rintro ⟨⟩
          rw [not_digit_minus] at first
          cases first
      rw [integerDigits?_of_plain plain, some_digits_iff]
      exact ⟨rfl, nonempty, mapM_eq_some_iff.mpr read⟩
    · refine ⟨true, ?_, rfl⟩
      rw [integerDigits?_of_minus, some_digits_iff]
      exact ⟨rfl, nonempty, mapM_eq_some_iff.mpr read⟩
  · rintro ⟨negative, read, rfl⟩
    by_cases minus : cs.head? = some '-'
    · obtain ⟨digits, rfl⟩ := List.head?_eq_some_iff.mp minus
      rw [integerDigits?_of_minus, some_digits_iff] at read
      obtain ⟨rfl, nonempty, digits⟩ := read
      exact .minus nonempty (mapM_eq_some_iff.mp digits)
    · rw [integerDigits?_of_plain minus, some_digits_iff] at read
      obtain ⟨rfl, nonempty, digits⟩ := read
      exact .plain nonempty (mapM_eq_some_iff.mp digits)

theorem numeral_unique {cs : List Char} {values values' : List Nat} {n n' : Int}
    (one : Numeral Text.digitValue? cs values n) (two : Numeral Text.digitValue? cs values' n') :
    values = values' ∧ n = n' := by
  obtain ⟨negative, read, rfl⟩ := numeral_iff.mp one
  obtain ⟨negative', read', rfl⟩ := numeral_iff.mp two
  cases read.symm.trans read'
  exact ⟨rfl, rfl⟩

theorem Numeral.imp {digit? digit'? : Char → Option Nat} {cs : List Char} {values : List Nat}
    {n : Int} (h : Numeral digit? cs values n)
    (same : ∀ c ∈ cs, ∀ d, digit? c = some d → digit'? c = some d) :
    Numeral digit'? cs values n := by
  have each {digits : List Char} (among : ∀ c ∈ digits, c ∈ cs)
      (read : List.Forall₂ (fun c d => digit? c = some d) digits values) :
      List.Forall₂ (fun c d => digit'? c = some d) digits values :=
    ((List.forall₂_and_left digits values).mpr ⟨among, read⟩).imp fun c d h => same c h.1 d h.2
  cases h with
  | plain nonempty read => exact .plain nonempty (each (fun _ member => member) read)
  | minus nonempty read => exact .minus nonempty (each (fun _ member => .tail _ member) read)

theorem digitValue?_ascii {c : Char} (ascii : c.toNat < 128) :
    Text.digitValue? c = Text.asciiDigit? c := by
  have all : ∀ n : Fin 128,
      Text.digitValue? (Char.ofNat n) = Text.asciiDigit? (Char.ofNat n) := by
    decide +kernel
  simpa using all ⟨c.toNat, ascii⟩

theorem ascii_of_asciiDigit {c : Char} {d : Nat} (digit : Text.asciiDigit? c = some d) :
    c.toNat < 128 := by
  obtain ⟨isDigit, -⟩ := Option.ite_none_right_eq_some.mp digit
  simp only [Char.isDigit, Bool.and_eq_true, decide_eq_true_eq, ge_iff_le,
    UInt32.le_iff_toNat_le] at isDigit
  have most : c.toNat ≤ 57 := isDigit.2
  omega

theorem ascii_of_numeral {cs : List Char} {values : List Nat} {n : Int}
    (written : Numeral Text.asciiDigit? cs values n) : ∀ c ∈ cs, c.toNat < 128 := by
  have each {digits : List Char}
      (read : List.Forall₂ (fun c d => Text.asciiDigit? c = some d) digits values) :
      ∀ c ∈ digits, c.toNat < 128 :=
    ((List.forall₂_and_left digits values).mp
      (read.imp fun _ _ digit => ⟨ascii_of_asciiDigit digit, digit⟩)).1
  cases written with
  | plain _ read => exact each read
  | minus _ read => exact List.forall_mem_cons.mpr ⟨by decide, each read⟩

/-- The numerals in ASCII digits are those that have no other character. -/
theorem numeral_ascii_iff {cs : List Char} {values : List Nat} {n : Int} :
    Numeral Text.asciiDigit? cs values n ↔
      Numeral Text.digitValue? cs values n ∧ ∀ c ∈ cs, c.toNat < 128 := by
  constructor
  · intro written
    have ascii := ascii_of_numeral written
    refine ⟨written.imp fun c member d digit => ?_, ascii⟩
    rw [digitValue?_ascii (ascii c member), digit]
  · rintro ⟨written, ascii⟩
    refine written.imp fun c member d digit => ?_
    rw [← digitValue?_ascii (ascii c member), digit]

/-! ### Compiled integers -/

theorem comesTo_integer (options : Document.Options) (e : Element) (name : String) :
    ComesTo (attr? e name) (integer? e name options).outcome := by
  unfold integer?
  cases attr? e name with
  | none => exact .absent
  | some value =>
    dsimp only
    rcases read : integerDigits? (Text.trimChars value.toList) with _ | ⟨negative, digits⟩
    · refine .other fun digits n written => ?_
      obtain ⟨negative, read', -⟩ := numeral_iff.mp written
      cases read.symm.trans read'
    · have written := numeral_iff.mpr ⟨negative, read, rfl⟩
      dsimp only
      split
      case isTrue long => exact .overlong written long
      case isFalse short => exact .number written (Nat.not_lt.mp short)

theorem returns_held (e : Element) (name : String) : Returns (integer? e name) (Holds e name) := by
  intro options n returned
  have came := comesTo_integer options e name
  rwa [returned] at came

theorem returns_dataTable_held (parent : String) (e : Element) :
    Returns (dataTable parent e) fun t => Holds e "PageSize" t.pageSize := by
  refine returns_after fun id => returns_bind (returns_held e "PageSize") fun size held => ?_
  exact returns_after fun columns => returns_pure held

theorem returns_field_held (parent : String) (e : Element) :
    Returns (field parent e) fun d => Holds e "Rows" d.rows := by
  refine returns_after fun name => returns_after fun type => ?_
  exact returns_bind (returns_held e "Rows") fun rows held => returns_pure held

theorem returns_form_held (parent : String) (e : Element) :
    Returns (form parent e) fun f =>
      List.Forall₂ (fun e (d : Field) => Holds e "Rows" d.rows) (e.named "Field") f.fields := by
  refine returns_after fun id => returns_after fun mode => ?_
  refine returns_bind (returns_each_related fun f _ => returns_field_held _ f) fun fields held => ?_
  exact returns_after fun buttons => returns_after fun messages => returns_pure held

theorem returns_mapping_held (e : Element) :
    Returns (mapping e) fun m => Holds e "Rows" m.rows := by
  have rows : Returns (integer? e "Rows") (Holds e "Rows") := returns_held e "Rows"
  refine returns_after fun name => returns_after fun listQuery => ?_
  dsimp only
  split
  · exact returns_after fun _ => returns_bind rows fun _ held => returns_pure held
  · exact returns_bind rows fun _ held => returns_pure held

theorem returns_frontend_held (root : Element) :
    Returns (section? {} frontend (root.first? "Frontend")) fun f =>
      List.Forall₂ (fun e (t : DataTable) => Holds e "PageSize" t.pageSize)
        (inSection root "Frontend" "DataTable") f.dataTables ∧
      List.Forall₂
        (fun e (form : Form) => List.Forall₂ (fun e (d : Field) => Holds e "Rows" d.rows)
          (e.named "Field") form.fields)
        (inSection root "Frontend" "Form") f.forms := by
  unfold inSection
  cases root.first? "Frontend" with
  | none => exact returns_pure ⟨.nil, .nil⟩
  | some e =>
    simp only [Option.toList_some, List.flatMap_singleton]
    refine returns_bind (returns_each_related fun t _ => returns_dataTable_held _ t)
      fun tables held => ?_
    refine returns_bind (returns_each_related fun f _ => returns_form_held _ f)
      fun forms held' => ?_
    exact returns_pure ⟨held, held'⟩

theorem returns_feature_held (root : Element) : Returns (feature root) (IntegersRead root) := by
  refine returns_after fun name => returns_after fun backend => ?_
  refine returns_bind (returns_frontend_held root) fun frontend held => ?_
  refine returns_bind (returns_each_related fun m _ => returns_mapping_held m)
    fun mappings held' => ?_
  exact returns_pure ⟨held.1, held.2, held'⟩

theorem limit_lt_of_overlong {root : Element} :
    ∀ n ∈ Overlong.inFeature root, Number.integerDigitLimit < n := by
  have each (e : Element) (name : String) :
      ∀ n ∈ Overlong.ofInteger e name, Number.integerDigitLimit < n := by
    intro n member
    unfold Overlong.ofInteger at member
    grind
  intro n member
  simp only [Overlong.inFeature, Overlong.inFrontend, Overlong.inForm, List.mem_append,
    List.mem_flatMap] at member
  rcases member with ⟨frontend, -, ⟨t, -, among⟩ | ⟨form, -, f, -, among⟩⟩ | ⟨m, -, among⟩
  · exact each t "PageSize" n among
  · exact each f "Rows" n among
  · exact each m "Rows" n among

/-- A lenient compilation of a feature returns, or ends at an integer that is too long. -/
theorem returns_or_overlong (source : Option String) {root : Element}
    (named : root.tag = "Feature") :
    (∃ f, (Document.compileTree (leniently source) root).outcome = .ok f) ∨
      ∃ n, Number.integerDigitLimit < n ∧
        (Document.compileTree (leniently source) root).outcome =
          .error (.value (.tooManyDigits n)) := by
  have ends := readOutcome_of_tree source named
  have long : ∀ n ∈ Overlong.inFeature root, Number.integerDigitLimit < n := limit_lt_of_overlong
  cases overlong : Overlong.inFeature root with
  | nil =>
    rw [overlong] at ends
    exact .inl ends
  | cons n rest =>
    rw [overlong] at ends long
    exact .inr ⟨n, long n (.head _), ends⟩

/-- Every integer attribute of a compiled feature holds what its trimmed value writes: the integer
of a numeral, and nothing of any other text. Its digits may be of any script; those of ASCII make
the numerals that have no character beyond ASCII. To read an attribute fails where its digits are
too many, and nothing else in a feature ends a lenient compilation. -/
theorem integer_attributes_read (root : Element) :
    (∀ options e name, ComesTo (attr? e name) (integer? e name options).outcome) ∧
      (∀ options f, (Document.compileTree options root).outcome = .ok f → IntegersRead root f) ∧
      (∀ source, root.tag = "Feature" →
        (∃ f, (Document.compileTree (leniently source) root).outcome = .ok f) ∨
          ∃ n, Number.integerDigitLimit < n ∧
            (Document.compileTree (leniently source) root).outcome =
              .error (.value (.tooManyDigits n))) ∧
      (∀ cs values n, Numeral Text.asciiDigit? cs values n ↔
        Numeral Text.digitValue? cs values n ∧ ∀ c ∈ cs, c.toNat < 128) ∧
      ∀ cs values values' n n', Numeral Text.digitValue? cs values n →
        Numeral Text.digitValue? cs values' n' → values = values' ∧ n = n' := by
  refine ⟨comesTo_integer, ?_, fun source named => returns_or_overlong source named, ?_, ?_⟩
  · intro options f returned
    exact holds_of_compileTree (returns_feature_held root) returned
  · exact fun _ _ _ => numeral_ascii_iff
  · exact fun _ _ _ _ _ => numeral_unique

theorem numeral_sevens {count : Nat} (some : count ≠ 0) :
    ∃ n, Numeral Text.asciiDigit? (Text.trimChars (sevens count).toList)
      (List.replicate count 7) n := by
  have written := numeral_iff.mpr ⟨false, integerDigits?_sevens some, rfl⟩
  refine ⟨_, numeral_ascii_iff.mpr ⟨written, fun c member => ?_⟩⟩
  rw [trim_sevens] at member
  rw [List.eq_of_mem_replicate member]
  decide

/-- A digit of another script counts, though it is no digit of ASCII; and of the digits of ASCII,
4301 are refused. -/
theorem foreign_and_long_integers :
    (¬∃ values n, Numeral Text.asciiDigit? (Text.trimChars "٣".toList) values n) ∧
      (Document.compileTree (leniently none) (sized "٣")).outcome =
        .ok { name := "F", frontend := { dataTables := [{ id := "t", pageSize := some 3 }] } } ∧
      (∃ values n,
        Numeral Text.asciiDigit? (Text.trimChars (sevens 4301).toList) values n) ∧
      (Document.compileTree (leniently none) (sized (sevens 4301))).outcome =
        .error (.value (.tooManyDigits 4301)) := by
  refine ⟨?_, ?_, ⟨_, numeral_sevens (by decide)⟩, sevens_refused (by decide)⟩
  · rintro ⟨values, n, foreign⟩
    have member : '٣' ∈ Text.trimChars "٣".toList := List.mem_singleton.mpr rfl
    exact absurd (ascii_of_numeral foreign _ member) (by decide)
  · with_unfolding_all rfl

end FeatureSpec.Compile
