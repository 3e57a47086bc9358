import FeatureSpec.Proofs.IntegerWords
import FeatureSpec.Proofs.Strictness
import FeatureSpec.SpecDirectory
/-!
How a lenient compilation ends. It comes to a feature unless the document is empty, malformed or
no feature at all; a number of too many digits and a character set that takes several octets for a
character, or decodes nothing, end it with failures of their own.
-/
namespace FeatureSpec.Compile

open Xml

/-! ### Numbers that are too long -/

namespace Overlong

/-- How many digits an integer attribute has, if it has more than are read. -/
def ofInteger (e : Element) (name : String) : List Nat :=
  match attr? e name with
  | none => []
  | some value =>
    match integerDigits? (Text.trimChars value.toList) with
    | some (_, digits) => if Number.integerDigitLimit < digits.length then [digits.length] else []
    | none => []

def inForm (e : Element) : List Nat := (e.named "Field").flatMap fun f => ofInteger f "Rows"

def inFrontend (e : Element) : List Nat :=
  (e.named "DataTable").flatMap (fun t => ofInteger t "PageSize") ++
    (e.named "Form").flatMap inForm

/-- The integers of a document that are too long, in the order in which they are read. -/
def inFeature (root : Element) : List Nat :=
  (root.first? "Frontend").toList.flatMap inFrontend ++
    (root.children.filter isMapping).flatMap fun m => ofInteger m "Rows"

end Overlong

/-- A lenient visit ends at the first integer that is too long, and nowhere else. -/
def EndsAt {α : Type} (source : Option String) (x : Visit α) (overlong : List Nat) : Prop :=
  match overlong with
  | [] => ∃ a, (x (leniently source)).outcome = .ok a
  | n :: _ => (x (leniently source)).outcome = .error (.value (.tooManyDigits n))

section

variable {α β : Type} {source : Option String}

theorem endsAt_of_follows {x : Visit α} {vs : List Violation} (h : Follows source x vs) :
    EndsAt source x [] := by
  obtain ⟨a, agrees⟩ := h
  exact ⟨a, agrees.lenient⟩

theorem endsAt_pure (a : α) : EndsAt source (pure a) [] := ⟨a, rfl⟩

theorem endsAt_bind {x : Visit α} {f : α → Visit β} {first later : List Nat}
    (one : EndsAt source x first) (two : ∀ a, EndsAt source (f a) later) :
    EndsAt source (x >>= f) (first ++ later) := by
  cases first with
  | nil =>
    obtain ⟨a, came⟩ := one
    have rest := two a
    have both : ((x >>= f) (leniently source)).outcome = (f a (leniently source)).outcome := by
      rw [Visit.bind_apply, Logged.bind_of_ok came]
    unfold EndsAt at rest ⊢
    rw [List.nil_append, both]
    exact rest
  | cons n more =>
    have failed : (x (leniently source)).outcome = .error (.value (.tooManyDigits n)) := one
    show ((x >>= f) (leniently source)).outcome = .error (.value (.tooManyDigits n))
    rw [Visit.bind_apply, Logged.bind_of_error failed]

theorem endsAt_map {x : Visit α} {f : α → β} {overlong : List Nat} (h : EndsAt source x overlong) :
    EndsAt source (x >>= fun a => pure (f a)) overlong := by
  have both := endsAt_bind h fun a => endsAt_pure (f a)
  rwa [List.append_nil] at both

theorem endsAt_after {x : Visit α} {f : α → Visit β} {vs : List Violation} {overlong : List Nat}
    (first : Follows source x vs) (rest : ∀ a, EndsAt source (f a) overlong) :
    EndsAt source (x >>= f) overlong :=
  endsAt_bind (endsAt_of_follows first) rest

theorem endsAt_each {f : α → Visit β} {overlong : α → List Nat} {items : List α}
    (h : ∀ a ∈ items, EndsAt source (f a) (overlong a)) :
    EndsAt source (Visit.each f items) (items.flatMap overlong) := by
  induction items with
  | nil => exact endsAt_pure []
  | cons a rest ih =>
    have first := h a (.head _)
    have others := ih fun b later => h b (.tail _ later)
    exact endsAt_bind first fun _ => endsAt_map others

theorem endsAt_section {absent : α} {compile : Element → Visit α} {overlong : Element → List Nat}
    {e : Option Element} (h : ∀ child, EndsAt source (compile child) (overlong child)) :
    EndsAt source (section? absent compile e) (e.toList.flatMap overlong) := by
  cases e with
  | none => exact endsAt_pure absent
  | some child =>
    rw [Option.toList_some, List.flatMap_singleton]
    exact h child

theorem endsAt_integer (e : Element) (name : String) :
    EndsAt source (integer? e name) (Overlong.ofInteger e name) := by
  unfold integer? Overlong.ofInteger
  cases attr? e name with
  | none => exact endsAt_pure none
  | some value =>
    dsimp only
    rcases integerDigits? (Text.trimChars value.toList) with _ | ⟨negative, digits⟩
    · exact endsAt_of_follows (follows_map (follows_debug _))
    · dsimp only
      split
      case isTrue long => rfl
      case isFalse short => exact endsAt_pure _

/-- A required attribute never ends a lenient visit. -/
theorem endsAt_required {e : Element} {name element : String} {f : String → Visit β}
    {overlong : List Nat} (named : name ≠ "") (rest : ∀ id, EndsAt source (f id) overlong) :
    EndsAt source (required e name element >>= f) overlong :=
  endsAt_after ⟨_, agrees_required element named⟩ rest

theorem endsAt_dataTable (parent : String) (e : Element) :
    EndsAt source (dataTable parent e) (Overlong.ofInteger e "PageSize") := by
  refine endsAt_required (by decide) fun id => ?_
  rw [← List.append_nil (Overlong.ofInteger _ _)]
  refine endsAt_bind (endsAt_integer e "PageSize") fun _ => ?_
  exact endsAt_of_follows (follows_map (follows_each fun c _ => follows_column _ c))

theorem endsAt_field (parent : String) (e : Element) :
    EndsAt source (field parent e) (Overlong.ofInteger e "Rows") := by
  refine endsAt_required (by decide) fun name => ?_
  refine endsAt_after (follows_choice _ _ (by decide)) fun type => ?_
  exact endsAt_map (endsAt_integer e "Rows")

theorem endsAt_form (parent : String) (e : Element) :
    EndsAt source (form parent e) (Overlong.inForm e) := by
  refine endsAt_required (by decide) fun id => ?_
  refine endsAt_after (follows_choice _ _ (by decide)) fun mode => ?_
  rw [← List.append_nil (Overlong.inForm e)]
  refine endsAt_bind (endsAt_each fun f _ => endsAt_field _ f) fun fields => ?_
  refine endsAt_after (follows_each fun b _ => follows_button _ b) fun buttons => ?_
  exact endsAt_of_follows (follows_map (follows_each fun m _ => follows_message _ m))

theorem endsAt_frontend (e : Element) : EndsAt source (frontend e) (Overlong.inFrontend e) :=
  endsAt_bind (endsAt_each fun t _ => endsAt_dataTable _ t) fun _ =>
    endsAt_map (endsAt_each fun f _ => endsAt_form _ f)

theorem endsAt_mapping (e : Element) :
    EndsAt source (mapping e) (Overlong.ofInteger e "Rows") := by
  have rows : EndsAt source (integer? e "Rows") (Overlong.ofInteger e "Rows") :=
    endsAt_integer e "Rows"
  refine endsAt_required (by decide) fun name => ?_
  refine endsAt_after (follows_section fun child _ => follows_map (follows_listQuery _ child))
    fun listQuery => ?_
  dsimp only
  split
  · exact endsAt_after (follows_debug _) fun _ => endsAt_map rows
  · exact endsAt_map rows

theorem endsAt_feature (root : Element) :
    EndsAt source (feature root) (Overlong.inFeature root) := by
  refine endsAt_required (by decide) fun name => ?_
  refine endsAt_after (follows_section fun b _ => follows_backend b) fun backend => ?_
  refine endsAt_bind (endsAt_section endsAt_frontend) fun frontend => ?_
  exact endsAt_map (endsAt_each fun m _ => endsAt_mapping m)

theorem endsAt_compiled (root : Element) :
    EndsAt source (Document.compiled root) (Overlong.inFeature root) := by
  unfold Document.compiled
  rw [← List.append_nil (Overlong.inFeature root)]
  refine endsAt_bind (endsAt_feature root) fun f => ?_
  exact endsAt_of_follows (follows_map (follows_debug _))

end

/-! ### Documents -/

/-- How a lenient compilation ends of what is read from a document. -/
structure EndsLeniently (source : Option String) (empty : Bool) (read : Except Fault Element)
    (outcome : Except Failure Feature) : Prop where
  returns : (∃ f, outcome = .ok f) ↔ empty = false ∧ ∃ root, read = .ok root ∧
    root.tag = "Feature" ∧ Overlong.inFeature root = []
  refuses : (∃ fault place, outcome = .error (.document fault place)) ↔ empty = true ∨
    read = .error .malformed ∨ ∃ root, read = .ok root ∧ root.tag ≠ "Feature"
  escapes : ∀ f, outcome = .error f → (∀ fault place, f ≠ .document fault place) →
    (∃ root n rest, read = .ok root ∧ root.tag = "Feature" ∧
      Overlong.inFeature root = n :: rest ∧ f = .value (.tooManyDigits n)) ∨
    (read = .error .wideCharset ∧ f = .value .wideCharset) ∨
    (read = .error .undefinedCharset ∧ f = .undefinedCharset)

/-- How a compilation ends of a document that is not empty. -/
def readOutcome (source : Option String) (read : Except Fault Element) : Except Failure Feature :=
  (Document.compileRead (leniently source) read).outcome

theorem readOutcome_of_tree (source : Option String) {root : Element}
    (named : root.tag = "Feature") :
    match Overlong.inFeature root with
    | [] => ∃ f, readOutcome source (.ok root) = .ok f
    | n :: _ => readOutcome source (.ok root) = .error (.value (.tooManyDigits n)) := by
  have compiled : EndsAt source (Document.compiled root) (Overlong.inFeature root) :=
    endsAt_compiled root
  have same : readOutcome source (.ok root) =
      (Document.compiled root (leniently source)).outcome := by
    rw [readOutcome, Document.compileRead, Document.compileTree, if_pos (by simp [named])]
  unfold EndsAt at compiled
  rw [same]
  split <;> rename_i overlong <;> rw [overlong] at compiled <;> exact compiled

section

variable {source : Option String} {empty : Bool} {read : Except Fault Element}
  {outcome : Except Failure Feature}

theorem endsLeniently_of_refusal {fault : DocumentFault} {place : Option Location}
    (refused : outcome = .error (.document fault place))
    (cause : empty = true ∨ read = .error .malformed ∨ ∃ root, read = .ok root ∧
      root.tag ≠ "Feature") : EndsLeniently source empty read outcome where
  returns := by
    have unread : ¬ (empty = false ∧ ∃ root, read = .ok root ∧ root.tag = "Feature" ∧
        Overlong.inFeature root = []) := by
      rcases cause with rfl | rfl | ⟨root, rfl, unnamed⟩ <;> simp [*]
    exact iff_of_false (by simp [refused]) unread
  refuses := ⟨fun _ => cause, fun _ => ⟨fault, place, refused⟩⟩
  escapes := by
    intro f failed other
    rw [refused] at failed
    cases failed
    exact absurd rfl (other fault place)

theorem endsLeniently_of_return {root : Element} {f : Feature} (returned : outcome = .ok f)
    (named : root.tag = "Feature") (short : Overlong.inFeature root = []) :
    EndsLeniently source false (.ok root) outcome where
  returns := ⟨fun _ => ⟨rfl, root, rfl, named, short⟩, fun _ => ⟨f, returned⟩⟩
  refuses := iff_of_false (by simp [returned]) (by simp [named])
  escapes := by
    intro g failed
    rw [returned] at failed
    cases failed

/-- A failure that is no refusal of the document leaves no room for another end. -/
theorem endsLeniently_of_escape {f : Failure} (failed : outcome = .error f)
    (foreign : ∀ fault place, f ≠ .document fault place)
    (cause : (∃ root n rest, read = .ok root ∧ root.tag = "Feature" ∧
        Overlong.inFeature root = n :: rest ∧ f = .value (.tooManyDigits n)) ∨
      (read = .error .wideCharset ∧ f = .value .wideCharset) ∨
      (read = .error .undefinedCharset ∧ f = .undefinedCharset)) :
    EndsLeniently source false read outcome where
  returns := by
    have unread : ¬ ∃ root, read = .ok root ∧ root.tag = "Feature" ∧
        Overlong.inFeature root = [] := by
      rcases cause with ⟨root, n, rest, rfl, -, long, -⟩ | ⟨rfl, -⟩ | ⟨rfl, -⟩ <;> simp [*]
    exact iff_of_false (by simp [failed]) fun returned => unread returned.2
  refuses := by
    have sound : ¬ (read = .error .malformed ∨ ∃ root, read = .ok root ∧
        root.tag ≠ "Feature") := by
      rcases cause with ⟨root, n, rest, rfl, named, -⟩ | ⟨rfl, -⟩ | ⟨rfl, -⟩ <;> simp [*]
    exact iff_of_false (by simp [failed, foreign]) (by simpa using sound)
  escapes := by
    intro g failed' _
    rw [failed] at failed'
    cases failed'
    exact cause

end

theorem endsLeniently_of_read (source : Option String) (read : Except Fault Element) :
    EndsLeniently source false read (readOutcome source read) := by
  rcases read with (_ | _ | _) | root
  case error.malformed => exact endsLeniently_of_refusal rfl (.inr (.inl rfl))
  case error.wideCharset =>
    exact endsLeniently_of_escape rfl (by simp [Document.failureOf]) (.inr (.inl ⟨rfl, rfl⟩))
  case error.undefinedCharset =>
    exact endsLeniently_of_escape rfl (by simp [Document.failureOf]) (.inr (.inr ⟨rfl, rfl⟩))
  case ok =>
    by_cases named : root.tag = "Feature"
    · have ends := readOutcome_of_tree source named
      cases long : Overlong.inFeature root with
      | nil =>
        rw [long] at ends
        obtain ⟨f, returned⟩ := ends
        exact endsLeniently_of_return returned named long
      | cons n rest =>
        rw [long] at ends
        exact endsLeniently_of_escape ends (by simp) (.inl ⟨root, n, rest, rfl, named, long, rfl⟩)
    · have refused : readOutcome source (.ok root) =
          .error (.inDocument (.wrongRoot root.tag) { source }) := by
        rw [readOutcome, Document.compileRead, Document.compileTree, if_neg (by simp [named])]
        rfl
      exact endsLeniently_of_refusal refused (.inr (.inr ⟨root, rfl, named⟩))

theorem malformed_of_declaration {cs : List Char} {fault : Fault}
    (h : Declaration.scan cs = .error fault) : fault = .malformed := by
  unfold Declaration.scan at h
  repeat' split at h
  all_goals cases h
  all_goals rfl

/-- An encoding that is not honoured cannot be at fault. -/
theorem malformed_of_body {os : Octets} {fault : Fault}
    (h : Body.ofOctets false os = .error fault) : fault = .malformed := by
  unfold Body.ofOctets at h
  dsimp only at h
  cases declared : Declaration.scan (asciiView (sniff os).1 (sniff os).2) with
  | error f =>
    rw [declared] at h
    cases h
    exact malformed_of_declaration declared
  | ok declaration =>
    rw [declared] at h
    cases declaration <;>
    · dsimp only [bind, Except.bind, pure, Except.pure] at h
      repeat' split at h
      all_goals cases h
      all_goals rfl

theorem malformed_of_text {text : String} {fault : Fault}
    (h : Xml.Document.ofString text = .error fault) : fault = .malformed := by
  unfold Xml.Document.ofString Xml.Document.ofOctets at h
  cases body : Body.ofOctets false (Octets.ofString text) with
  | error f =>
    rw [body] at h
    cases h
    exact malformed_of_body body
  | ok b =>
    rw [body] at h
    dsimp only [bind, Except.bind] at h
    split at h
    · cases h
    · cases h
      rfl

/-- A lenient compilation of a text returns a feature, or refuses the text because it is blank,
malformed or no feature, or fails by an integer that is too long. Of the octets of a file it ends
the same way, or fails by the character set that the document declares. -/
theorem lenient_compilation_ends (source : Option String) (text : String) :
    EndsLeniently source (Text.isBlankText text) (Xml.Document.ofString text)
        (Document.compileText { strict := false, source } text).outcome ∧
      (∀ fault, Xml.Document.ofString text = .error fault → fault = .malformed) ∧
      ∀ (t : FileTree) (path : Path) (os : Octets), t.read path = .ok os →
        EndsLeniently (some path.text) (os.all Text.isAsciiBlank) (Xml.Document.ofOctets true os)
          (SpecDirectory.compileFile t false path).outcome := by
  refine ⟨?text, fun fault => malformed_of_text, ?file⟩
  case text =>
    rw [Document.compileText]
    cases blank : Text.isBlankText text with
    | true => exact endsLeniently_of_refusal rfl (.inl rfl)
    | false => exact endsLeniently_of_read source _
  case file =>
    intro t path os held
    have same : (SpecDirectory.compileFile t false path).outcome =
        (Document.compileOctets { strict := false, source := some path.text } os).outcome := by
      rw [SpecDirectory.compileFile, held]
      rfl
    rw [same, Document.compileOctets]
    cases blank : os.all Text.isAsciiBlank with
    | true => exact endsLeniently_of_refusal rfl (.inl rfl)
    | false => exact endsLeniently_of_read _ _

/-- A document with one number. -/
def sized (size : String) : Element :=
  ⟨"Feature", [("Name", "F")],
    [.element "Frontend" [] [.element "DataTable" [("Id", "t"), ("PageSize", size)] []]]⟩

theorem outcome_of_overlong {size : String} {negative : Bool} {digits : List Nat}
    (read : integerDigits? (Text.trimChars size.toList) = some (negative, digits))
    (long : Number.integerDigitLimit < digits.length) :
    (Document.compileTree (leniently none) (sized size)).outcome =
      .error (.value (.tooManyDigits digits.length)) := by
  have own : Overlong.ofInteger ⟨"DataTable", [("Id", "t"), ("PageSize", size)], []⟩ "PageSize" =
      [digits.length] := by
    have given : attr? ⟨"DataTable", [("Id", "t"), ("PageSize", size)], []⟩ "PageSize" =
        some size := rfl
    rw [Overlong.ofInteger, given]
    dsimp only
    rw [read]
    exact if_pos long
  have all : Overlong.inFeature (sized size) = [digits.length] := by
    simp [Overlong.inFeature, Overlong.inFrontend, sized, Element.first?, Element.named,
      Element.children, Node.element?, isMapping, own]
  have named : (sized size).tag = "Feature" := rfl
  have ends := readOutcome_of_tree none named
  rw [all] at ends
  exact ends

def sevens (count : Nat) : String := String.ofList (List.replicate count '7')

theorem trim_sevens (count : Nat) :
    Text.trimChars (sevens count).toList = List.replicate count '7' := by
  rw [sevens, String.toList_ofList]
  refine Number.IntegerText.trimBy_of_none fun c member => ?_
  rw [List.eq_of_mem_replicate member]
  rfl

theorem integerDigits?_sevens {count : Nat} (some : count ≠ 0) :
    integerDigits? (Text.trimChars (sevens count).toList) =
      .some (false, List.replicate count 7) := by
  obtain ⟨more, rfl⟩ := Nat.exists_eq_succ_of_ne_zero some
  have values (n : Nat) :
      (List.replicate n '7').mapM Text.digitValue? = .some (List.replicate n 7) := by
    induction n with
    | zero => rfl
    | succ n ih =>
      rw [List.replicate_succ, List.mapM_cons, ih]
      rfl
  have unsigned : integerDigits? (List.replicate (more + 1) '7') =
      ((List.replicate (more + 1) '7').mapM Text.digitValue?).bind fun values =>
        if values.isEmpty then none else .some (false, values) := rfl
  rw [trim_sevens, unsigned, values]
  rfl

theorem sevens_refused {count : Nat} (long : Number.integerDigitLimit < count) :
    (Document.compileTree (leniently none) (sized (sevens count))).outcome =
      .error (.value (.tooManyDigits count)) := by
  have refused := outcome_of_overlong (integerDigits?_sevens (Nat.ne_zero_of_lt long))
  rw [List.length_replicate] at refused
  exact refused long

def shiftJisFiles : FileTree where
  files := [(["f.xml"],
    Octets.ofString "<?xml version=\"1.0\" encoding=\"shift_jis\"?><Feature Name=\"F\"/>")]

/-- A page size of 4301 digits and a character set of several octets escape. -/
theorem long_number_and_wide_charset_escape :
    (Document.compileTree (leniently none) (sized (sevens 4301))).outcome =
        .error (.value (.tooManyDigits 4301)) ∧
      (SpecDirectory.compileFile shiftJisFiles false { parts := ["f.xml"] }).outcome =
        .error (.value .wideCharset) := by
  refine ⟨sevens_refused (by decide), ?_⟩
  with_unfolding_all rfl

end FeatureSpec.Compile
