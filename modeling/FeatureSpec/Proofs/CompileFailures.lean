import FeatureSpec.Document
/-!
How a compilation fails: by what is in the document, and never because something is not found.
-/
namespace FeatureSpec.Compile

open Xml Payload

/-- A visit that no failed lookup ends. -/
def EndsWithin {α : Type} (x : Visit α) : Prop :=
  ∀ options f, (x options).outcome = .error f → f.isLookup = false

section

variable {α β : Type}

theorem endsWithin_pure (a : α) : EndsWithin (pure a : Visit α) := by
  rintro options f ⟨⟩

theorem endsWithin_debug (message : Option String → String) :
    EndsWithin (Visit.debug message) := by
  rintro options f ⟨⟩

theorem endsWithin_fail {f : Failure} (within : f.isLookup = false) :
    EndsWithin (Visit.fail f : Visit α) := by
  rintro options g ⟨⟩
  exact within

theorem endsWithin_bind {x : Visit α} {f : α → Visit β} (first : EndsWithin x)
    (rest : ∀ a, EndsWithin (f a)) : EndsWithin (x >>= f) := by
  intro options g failed
  rw [Visit.bind_apply] at failed
  cases came : (x options).outcome with
  | error e =>
    rw [Logged.bind_of_error came] at failed
    cases failed
    exact first options _ came
  | ok a =>
    rw [Logged.bind_of_ok came] at failed
    exact rest a options g failed

theorem endsWithin_map {x : Visit α} {f : α → β} (h : EndsWithin x) :
    EndsWithin (x >>= fun a => pure (f a)) :=
  endsWithin_bind h fun _ => endsWithin_pure _

theorem endsWithin_each {f : α → Visit β} (h : ∀ a, EndsWithin (f a)) (items : List α) :
    EndsWithin (Visit.each f items) := by
  induction items with
  | nil => exact endsWithin_pure []
  | cons a rest ih => exact endsWithin_bind (h a) fun _ => endsWithin_map ih

theorem endsWithin_section {absent : α} {compile : Element → Visit α}
    (h : ∀ child, EndsWithin (compile child)) (e? : Option Element) :
    EndsWithin (section? absent compile e?) := by
  cases e? with
  | none => exact endsWithin_pure absent
  | some child => exact h child

/-! ### Attributes -/

theorem isLookup_inDocument (fault : DocumentFault) (place : Location) :
    (Failure.inDocument fault place).isLookup = false := rfl

theorem endsWithin_violate (v : Violation) : EndsWithin (Visit.violate v) := by
  intro options f failed
  unfold Visit.violate at failed
  split at failed
  · cases failed
    exact isLookup_inDocument _ _
  · cases failed

theorem endsWithin_required (e : Element) (name element : String) :
    EndsWithin (required e name element) := by
  unfold required
  dsimp only
  split
  · exact endsWithin_map (endsWithin_violate _)
  · exact endsWithin_pure _

theorem endsWithin_choice [Choice α] (e : Element) (name element : String) (fallback : α) :
    EndsWithin (choice e name element fallback) := by
  unfold choice
  cases attr? e name with
  | none => exact endsWithin_pure _
  | some word =>
    dsimp only
    split
    · exact endsWithin_pure _
    cases (choice? word : Option α) with
    | some a => exact endsWithin_pure _
    | none => exact endsWithin_map (endsWithin_violate _)

theorem endsWithin_integer (e : Element) (name : String) : EndsWithin (integer? e name) := by
  unfold integer?
  cases attr? e name with
  | none => exact endsWithin_pure _
  | some value =>
    dsimp only
    rcases integerDigits? (Text.trimChars value.toList) with _ | ⟨negative, digits⟩
    · exact endsWithin_map (endsWithin_debug _)
    · dsimp only
      split
      · exact endsWithin_fail rfl
      · exact endsWithin_pure _

end

/-! ### Elements -/

theorem endsWithin_query (parent : String) (e : Element) : EndsWithin (query parent e) :=
  endsWithin_bind (endsWithin_required _ _ _) fun _ => endsWithin_map (endsWithin_choice _ _ _ _)

theorem endsWithin_actionQuery (parent : String) (e : Element) :
    EndsWithin (actionQuery parent e) :=
  endsWithin_bind (endsWithin_required _ _ _) fun _ => endsWithin_map (endsWithin_choice _ _ _ _)

theorem endsWithin_backend (e : Element) : EndsWithin (backend e) :=
  endsWithin_bind (endsWithin_each (endsWithin_query _) _) fun _ =>
    endsWithin_map (endsWithin_each (endsWithin_actionQuery _) _)

theorem endsWithin_column (parent : String) (e : Element) : EndsWithin (column parent e) := by
  refine endsWithin_bind (endsWithin_required _ _ _) fun name => ?_
  refine endsWithin_bind (endsWithin_choice _ _ _ _) fun type => ?_
  exact endsWithin_map (endsWithin_choice _ _ _ _)

theorem endsWithin_dataTable (parent : String) (e : Element) :
    EndsWithin (dataTable parent e) := by
  refine endsWithin_bind (endsWithin_required _ _ _) fun id => ?_
  refine endsWithin_bind (endsWithin_integer _ _) fun pageSize => ?_
  exact endsWithin_map (endsWithin_each (endsWithin_column _) _)

theorem endsWithin_field (parent : String) (e : Element) : EndsWithin (field parent e) := by
  refine endsWithin_bind (endsWithin_required _ _ _) fun name => ?_
  refine endsWithin_bind (endsWithin_choice _ _ _ _) fun type => ?_
  exact endsWithin_map (endsWithin_integer _ _)

theorem endsWithin_button (parent : String) (e : Element) : EndsWithin (button parent e) :=
  endsWithin_bind (endsWithin_choice _ _ _ _) fun _ => endsWithin_map (endsWithin_choice _ _ _ _)

theorem endsWithin_message (parent : String) (e : Element) : EndsWithin (message parent e) :=
  endsWithin_map (endsWithin_choice _ _ _ _)

theorem endsWithin_form (parent : String) (e : Element) : EndsWithin (form parent e) := by
  refine endsWithin_bind (endsWithin_required _ _ _) fun id => ?_
  refine endsWithin_bind (endsWithin_choice _ _ _ _) fun mode => ?_
  refine endsWithin_bind (endsWithin_each (endsWithin_field _) _) fun fields => ?_
  refine endsWithin_bind (endsWithin_each (endsWithin_button _) _) fun buttons => ?_
  exact endsWithin_map (endsWithin_each (endsWithin_message _) _)

theorem endsWithin_frontend (e : Element) : EndsWithin (frontend e) :=
  endsWithin_bind (endsWithin_each (endsWithin_dataTable _) _) fun _ =>
    endsWithin_map (endsWithin_each (endsWithin_form _) _)

theorem endsWithin_listQuery (parent : String) (e : Element) : EndsWithin (listQuery parent e) :=
  endsWithin_map (endsWithin_choice _ _ _ _)

theorem endsWithin_mapping (e : Element) : EndsWithin (mapping e) := by
  refine endsWithin_bind (endsWithin_required _ _ _) fun name => ?_
  refine endsWithin_bind (endsWithin_section (fun child => ?_) _) fun listQuery => ?_
  · exact endsWithin_map (endsWithin_listQuery _ child)
  dsimp only
  split
  · exact endsWithin_bind (endsWithin_debug _) fun _ => endsWithin_map (endsWithin_integer _ _)
  · exact endsWithin_map (endsWithin_integer _ _)

theorem endsWithin_feature (root : Element) : EndsWithin (feature root) := by
  refine endsWithin_bind (endsWithin_required _ _ _) fun name => ?_
  refine endsWithin_bind (endsWithin_section endsWithin_backend _) fun backend => ?_
  refine endsWithin_bind (endsWithin_section endsWithin_frontend _) fun frontend => ?_
  exact endsWithin_map (endsWithin_each endsWithin_mapping _)

/-! ### Documents -/

theorem isLookup_of_compileOctets {options : Document.Options} {os : Octets} {f : Failure}
    (failed : (Document.compileOctets options os).outcome = .error f) : f.isLookup = false := by
  unfold Document.compileOctets at failed
  split at failed
  · cases failed
    exact isLookup_inDocument _ _
  cases read : Xml.Document.ofOctets true os with
  | error fault =>
    rw [read] at failed
    cases failed
    cases fault <;> rfl
  | ok root =>
    rw [read, Document.compileRead, Document.compileTree] at failed
    split at failed
    · have compiled : EndsWithin (Document.compiled root) :=
        endsWithin_bind (endsWithin_feature root) fun f => endsWithin_map (endsWithin_debug _)
      exact compiled options f failed
    · cases failed
      exact isLookup_inDocument _ _

end FeatureSpec.Compile
