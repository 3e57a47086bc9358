import FeatureSpec.Document
import FeatureSpec.Proofs.Violations
/-!
A strict and a lenient compilation of one document differ only by its violations: a strict one
ends at the first, a lenient one goes on past all of them and warns of every unknown word.
-/
namespace FeatureSpec.Compile

open Xml Payload Text Violations

def warnings (records : List Log.Record) : List Log.Record :=
  records.filter (·.level = Log.warning)

def strictly (source : Option String) : Document.Options := { strict := true, source }

def leniently (source : Option String) : Document.Options := { strict := false, source }

/-- Where a violation is, in a document of this source. -/
def Violation.location (source : Option String) (v : Violation) : Location :=
  ⟨source, some v.element, some v.attr⟩

/-- How a strict visit ends that comes to `a` where nothing is violated. -/
def strictOutcome {α : Type} (source : Option String) (vs : List Violation) (a : α) :
    Except Failure α :=
  match vs with
  | [] => .ok a
  | v :: _ => .error (.document v.fault (some (v.location source)))

/-- A visit with these violations that comes to `a`. -/
structure Agrees {α : Type} (source : Option String) (x : Visit α) (vs : List Violation) (a : α) :
    Prop where
  lenient : (x (leniently source)).outcome = .ok a
  warned : warnings (x (leniently source)).records = vs.filterMap (Violation.record? source)
  strict : (x (strictly source)).outcome = strictOutcome source vs a

/-- A visit with these violations, whatever it comes to. -/
def Follows {α : Type} (source : Option String) (x : Visit α) (vs : List Violation) : Prop :=
  ∃ a, Agrees source x vs a

variable {α β : Type} {source : Option String}

theorem agrees_pure (a : α) : Agrees source (pure a) [] a := ⟨rfl, rfl, rfl⟩

/-- The violations of two visits in a row are those of the first and then those of the second. -/
theorem agrees_bind {x : Visit α} {f : α → Visit β} {vs ws : List Violation} {a : α} {b : β}
    (first : Agrees source x vs a) (second : Agrees source (f a) ws b) :
    Agrees source (x >>= f) (vs ++ ws) b := by
  have lenient := Logged.bind_of_ok (f := fun a => f a (leniently source)) first.lenient
  refine ⟨?lenient, ?warned, ?strict⟩
  case lenient =>
    rw [Visit.bind_apply, lenient]
    exact second.lenient
  case warned =>
    have one := first.warned
    have two := second.warned
    unfold warnings at one two ⊢
    rw [Visit.bind_apply, lenient, List.filter_append, one, two, List.filterMap_append]
  case strict =>
    cases vs with
    | nil =>
      rw [Visit.bind_apply, Logged.bind_of_ok first.strict]
      exact second.strict
    | cons v rest =>
      rw [Visit.bind_apply, Logged.bind_of_error first.strict]
      rfl

theorem follows_pure (a : α) : Follows source (pure a) [] := ⟨a, agrees_pure a⟩

theorem follows_bind {x : Visit α} {f : α → Visit β} {vs ws : List Violation}
    (first : Follows source x vs) (second : ∀ a, Follows source (f a) ws) :
    Follows source (x >>= f) (vs ++ ws) := by
  obtain ⟨a, first⟩ := first
  obtain ⟨b, second⟩ := second a
  exact ⟨b, agrees_bind first second⟩

theorem follows_map {x : Visit α} {f : α → β} {vs : List Violation} (h : Follows source x vs) :
    Follows source (x >>= fun a => pure (f a)) vs := by
  have both := follows_bind h fun a => follows_pure (f a)
  rwa [List.append_nil] at both

theorem agrees_debug (message : Option String → String) :
    Agrees source (Visit.debug message) [] () := ⟨rfl, rfl, rfl⟩

theorem follows_debug (message : Option String → String) :
    Follows source (Visit.debug message) [] := ⟨(), agrees_debug message⟩

/-- The step: a single violation. -/
theorem agrees_violate (v : Violation) (attributed : v.attr ≠ "") :
    Agrees source (Visit.violate v) [v] () := by
  have located : v.failure source = .document v.fault (some (v.location source)) := by
    simp [Violation.failure, Failure.inDocument, Location.known?, Violation.location, attributed]
  refine ⟨rfl, ?_, congrArg Except.error located⟩
  cases v <;> rfl

theorem follows_each {f : α → Visit β} {found : α → List Violation} {items : List α}
    (h : ∀ a ∈ items, Follows source (f a) (found a)) :
    Follows source (Visit.each f items) (items.flatMap found) := by
  induction items with
  | nil => exact follows_pure []
  | cons a rest ih =>
    have first := h a (.head _)
    have others := ih fun b later => h b (.tail _ later)
    exact follows_bind first fun _ => follows_map others

/-- A lenient visit goes on with the attribute's value, which is empty where it is at fault. -/
theorem agrees_required {e : Element} {name : String} (element : String) (named : name ≠ "") :
    Agrees source (required e name element) (ofRequired e name element) (attr e name) := by
  unfold required ofRequired attr
  cases value : attr? e name with
  | none => exact agrees_bind (agrees_violate (.missing e.tag element name) named) (agrees_pure "")
  | some s =>
    by_cases empty : s = ""
    · subst empty
      exact agrees_bind (agrees_violate (.missing e.tag element name) named) (agrees_pure "")
    · simpa [empty] using agrees_pure s

theorem follows_required {e : Element} {name element : String} {f : String → Visit β}
    {ws : List Violation} (named : name ≠ "") (second : Follows source (f (attr e name)) ws) :
    Follows source (required e name element >>= f) (ofRequired e name element ++ ws) := by
  obtain ⟨b, second⟩ := second
  exact ⟨b, agrees_bind (agrees_required element named) second⟩

theorem choice_isSome_iff [Choice α] (word : String) :
    (choice? (α := α) word).isSome ↔
      ∃ a ∈ Choice.all (α := α), lower (Choice.word a) = lower (trim word) := by
  simp [choice?, List.find?_isSome]

theorem follows_choice [Choice α] {e : Element} {name : String} (element : String) (fallback : α)
    (named : name ≠ "") :
    Follows source (choice e name element fallback) (ofChoice e name element fallback) := by
  unfold choice ofChoice
  cases attr? e name with
  | none => exact follows_pure fallback
  | some word =>
    dsimp only
    have known := choice_isSome_iff (α := α) word
    -- An empty word counts as none and is no violation.
    by_cases empty : word = ""
    · rw [if_pos empty, if_pos (.inl empty)]
      exact follows_pure fallback
    rw [if_neg empty]
    cases choice : choice? (α := α) word with
    | some a =>
      rw [choice] at known
      rw [if_pos (.inr (known.mp rfl))]
      exact follows_pure a
    | none =>
      rw [choice] at known
      have unknown : ¬(word = "" ∨
          ∃ a ∈ Choice.all (α := α), lower (Choice.word a) = lower (trim word)) := by
        rintro (h | h)
        · exact empty h
        · cases known.mpr h
      rw [if_neg unknown]
      exact ⟨fallback, agrees_bind (agrees_violate (.unknownWord (Choice.title α) word element name
        (Choice.word fallback)) named) (agrees_pure fallback)⟩

theorem length_of_digits {cs : List Char} {values : List Nat}
    (h : cs.mapM digitValue? = some values) :
    values.length = cs.countP fun c => (digitValue? c).isSome := by
  induction cs generalizing values with
  | nil =>
    cases h
    rfl
  | cons c rest ih =>
    rw [List.mapM_cons] at h
    obtain ⟨value, digit, h⟩ := Option.bind_eq_some_iff.mp h
    obtain ⟨more, digits, h⟩ := Option.bind_eq_some_iff.mp h
    cases h
    rw [List.length_cons, ih digits, List.countP_cons_of_pos (by rw [digit]; rfl)]

theorem integerDigits_length_le {cs : List Char} {negative : Bool} {values : List Nat}
    (h : integerDigits? cs = some (negative, values)) :
    values.length ≤ cs.countP fun c => (digitValue? c).isSome := by
  unfold integerDigits? at h
  split at h
  rename_i sign digits signed
  obtain ⟨read, parsed, h⟩ := Option.bind_eq_some_iff.mp h
  have unsigned : digits.Sublist cs := by
    split at signed <;> cases signed
    · exact List.sublist_cons_self _ _
    · exact List.Sublist.refl _
  have same : read = values := by
    split at h <;> cases h
    rfl
  rw [← same, length_of_digits parsed]
  exact unsigned.countP_le

/-- Short numbers are never refused, and what is no number is passed over. -/
theorem follows_integer {e : Element} {name : String}
    (short : ∀ value ∈ attr? e name, digitCount value ≤ Number.integerDigitLimit) :
    Follows source (integer? e name) [] := by
  unfold integer?
  cases given : attr? e name with
  | none => exact follows_pure none
  | some value =>
    dsimp only
    split
    · rename_i negative digits read
      have few : digits.length ≤ Number.integerDigitLimit := calc
        digits.length
          ≤ (trimChars value.toList).countP fun c => (digitValue? c).isSome :=
            integerDigits_length_le read
        _ ≤ digitCount value := (trimBy_sublist _ _).countP_le
        _ ≤ Number.integerDigitLimit := short value given
      rw [if_neg (Nat.not_lt.mpr few)]
      exact follows_pure _
    · exact follows_map (follows_debug _)

theorem follows_query (parent : String) (e : Element) :
    Follows source (query parent e) (inQuery parent e) :=
  follows_required (by decide) (follows_map (follows_choice _ _ (by decide)))

theorem follows_actionQuery (parent : String) (e : Element) :
    Follows source (actionQuery parent e) (inActionQuery parent e) :=
  follows_required (by decide) (follows_map (follows_choice _ _ (by decide)))

theorem follows_backend (e : Element) : Follows source (backend e) (inBackend e) :=
  follows_bind (follows_each fun q _ => follows_query _ q) fun _ =>
    follows_map (follows_each fun a _ => follows_actionQuery _ a)

theorem follows_column (parent : String) (e : Element) :
    Follows source (column parent e) (inColumn parent e) :=
  follows_required (by decide) <|
    follows_bind (follows_choice _ _ (by decide)) fun _ =>
      follows_map (follows_choice _ _ (by decide))

theorem follows_dataTable (parent : String) {e : Element} (short : ShortNumbers e) :
    Follows source (dataTable parent e) (inDataTable parent e) :=
  follows_required (by decide) <|
    follows_bind (follows_integer (short e (.head _) "PageSize" (by decide))) fun _ =>
      follows_map (follows_each fun c _ => follows_column _ c)

theorem follows_field (parent : String) {e : Element} (short : ShortNumbers e) :
    Follows source (field parent e) (inField parent e) := by
  have rows : Follows source (integer? e "Rows") [] :=
    follows_integer (short e (.head _) "Rows" (by decide))
  refine follows_required (by decide) ?_
  rw [← List.append_nil (ofChoice _ _ _ _)]
  exact follows_bind (follows_choice _ _ (by decide)) fun _ => follows_map rows

theorem follows_button (parent : String) (e : Element) :
    Follows source (button parent e) (inButton parent e) :=
  follows_bind (follows_choice _ _ (by decide)) fun _ =>
    follows_map (follows_choice _ _ (by decide))

theorem follows_message (parent : String) (e : Element) :
    Follows source (message parent e) (inMessage parent e) :=
  follows_map (follows_choice _ _ (by decide))

theorem follows_form (parent : String) {e : Element} (short : ShortNumbers e) :
    Follows source (form parent e) (inForm parent e) :=
  follows_required (by decide) <|
    follows_bind (follows_choice _ _ (by decide)) fun _ =>
      follows_bind (follows_each fun _ h => follows_field _ (shortNumbers_named short h)) fun _ =>
        follows_bind (follows_each fun b _ => follows_button _ b) fun _ =>
          follows_map (follows_each fun m _ => follows_message _ m)

theorem follows_frontend {e : Element} (short : ShortNumbers e) :
    Follows source (frontend e) (inFrontend e) :=
  follows_bind (follows_each fun _ h => follows_dataTable _ (shortNumbers_named short h)) fun _ =>
    follows_map (follows_each fun _ h => follows_form _ (shortNumbers_named short h))

theorem follows_listQuery (parent : String) (e : Element) :
    Follows source (listQuery parent e) (inListQuery parent e) :=
  follows_map (follows_choice _ _ (by decide))

theorem follows_section {absent : α} {compile : Element → Visit α}
    {found : Element → List Violation} {e : Option Element}
    (h : ∀ child, e = some child → Follows source (compile child) (found child)) :
    Follows source (section? absent compile e) (e.toList.flatMap found) := by
  cases e with
  | none => exact follows_pure absent
  | some child =>
    rw [Option.toList_some, List.flatMap_singleton]
    exact h child rfl

theorem follows_mapping {e : Element} (short : ShortNumbers e) :
    Follows source (mapping e) (inMapping e) := by
  have rows : Follows source (integer? e "Rows") [] :=
    follows_integer (short e (.head _) "Rows" (by decide))
  refine follows_required (by decide) ?_
  rw [← List.append_nil (List.flatMap _ _)]
  refine follows_bind (follows_section fun child _ => follows_map (follows_listQuery _ child))
    fun listQuery => ?_
  dsimp only
  split
  · exact follows_bind (follows_debug _) fun _ => follows_map rows
  · exact follows_map rows

theorem follows_feature {root : Element} (short : ShortNumbers root) :
    Follows source (feature root) (inFeature root) :=
  follows_required (by decide) <|
    follows_bind (follows_section fun b _ => follows_backend b) fun _ =>
      follows_bind (follows_section fun _ h => follows_frontend (shortNumbers_first short h))
        fun _ => follows_map <| follows_each fun _ h =>
          follows_mapping (shortNumbers_child short (List.mem_filter.mp h).1)

theorem follows_compileTree {root : Element} (named : root.tag = "Feature")
    (short : ShortNumbers root) :
    Follows source (fun options => Document.compileTree options root) (inFeature root) := by
  have features : Follows source (feature root) (inFeature root) := follows_feature short
  obtain ⟨f, agrees⟩ := features
  have announced : Agrees source
      (Visit.debug (Document.compiledMessage f) >>= fun _ => pure f) [] f :=
    agrees_bind (agrees_debug _) (agrees_pure f)
  have compiled : Follows source (Document.compiled root) (inFeature root ++ []) :=
    ⟨f, agrees_bind agrees announced⟩
  have tree : (fun options => Document.compileTree options root) = Document.compiled root := by
    funext options
    rw [Document.compileTree, if_pos (by simp [named])]
  rw [tree, ← List.append_nil (inFeature root)]
  exact compiled

/-- A lenient compilation always comes to a feature and warns of the unknown words, in order; a
strict one comes to the same feature when nothing is violated, and otherwise refuses the document
for its first violation. -/
theorem strict_and_lenient_agree (source : Option String) (root : Element)
    (named : root.tag = "Feature") (short : ShortNumbers root) :
    ∃ f : Feature,
      (Document.compileTree { strict := false, source } root).outcome = .ok f ∧
      warnings (Document.compileTree { strict := false, source } root).records =
        (inFeature root).filterMap (Violation.record? source) ∧
      (Document.compileTree { strict := true, source } root).outcome =
        match inFeature root with
        | [] => .ok f
        | v :: _ => .error (.document v.fault (some ⟨source, some v.element, some v.attr⟩)) := by
  have follows : Follows source (fun options => Document.compileTree options root)
      (inFeature root) := follows_compileTree named short
  obtain ⟨f, agrees⟩ := follows
  refine ⟨f, agrees.lenient, agrees.warned, agrees.strict.trans ?_⟩
  unfold strictOutcome
  split <;> rfl

def orders : Element where
  tag := "Feature"
  attrs := [("Name", "Orders")]
  content :=
    [.element "Backend" [] [.element "Query" [("Type", "Selected")] [.text "SELECT 1"]],
     .element "Frontend" [] [.element "DataTable" [("Id", "all"), ("PageSize", "20")] []]]

theorem orders_strict_and_lenient :
    orders.tag = "Feature" ∧ ShortNumbers orders ∧ ∃ f : Feature,
      (Document.compileTree { strict := false, source := some "o.xml" } orders).outcome = .ok f ∧
      warnings (Document.compileTree { strict := false, source := some "o.xml" } orders).records =
        [Log.note Log.warning .compiler
          "o.xml: unknown QueryKind 'Selected' at Feature/Backend/Query[], using 'Select'"] ∧
      (Document.compileTree { strict := true, source := some "o.xml" } orders).outcome =
        .error (.document (.missingAttribute "Query")
          (some ⟨some "o.xml", some "Feature/Backend/Query", some "Id"⟩)) := by
  have named : orders.tag = "Feature" := rfl
  have short : ShortNumbers orders := by
    unfold ShortNumbers
    decide
  have violations : inFeature orders =
      [.missing "Query" "Feature/Backend/Query" "Id",
       .unknownWord "QueryKind" "Selected" "Feature/Backend/Query[]" "Type" "Select"] := by
    decide
  obtain ⟨f, lenient, warned, strict⟩ := strict_and_lenient_agree (some "o.xml") orders named short
  rw [violations] at warned strict
  exact ⟨named, short, f, lenient, warned, strict⟩

end FeatureSpec.Compile
