import FeatureSpec.Proofs.Markup
import FeatureSpec.Proofs.References
import FeatureSpec.Proofs.Strictness
import Mathlib.Data.List.Forall2
/-!
Markup that is not read has no influence. What the compiler makes of an element is determined by the
attributes, the text and the children that the role of the element reads, and no edit outside of
these changes the outcome of a compilation or a record of it.
-/
namespace FeatureSpec.Compile

open Xml

/-! ### The children that are read -/

def ofKind (kind : String) (content : List Node) : List Element :=
  (content.filter (isOfKind kind)).filterMap Node.element?

def Slot.pick (slot : Slot) (content : List Node) : List Element :=
  if slot.firstOnly then (ofKind slot.kind content).take 1 else ofKind slot.kind content

theorem ofKind_append (kind : String) (xs ys : List Node) :
    ofKind kind (xs ++ ys) = ofKind kind xs ++ ofKind kind ys := by
  simp [ofKind]

theorem ofKind_element (tag : String) (attrs : Entries String) (inner rest : List Node) :
    ofKind (kindOf tag) (.element tag attrs inner :: rest) =
      ⟨tag, attrs, inner⟩ :: ofKind (kindOf tag) rest := by
  simp [ofKind, isOfKind, Node.element?]

theorem ofKind_other {kind tag : String} (other : kindOf tag ≠ kind) (attrs : Entries String)
    (inner rest : List Node) :
    ofKind kind (.element tag attrs inner :: rest) = ofKind kind rest := by
  simp [ofKind, isOfKind, other]

theorem ofKind_text (kind s : String) (rest : List Node) :
    ofKind kind (.text s :: rest) = ofKind kind rest := rfl

theorem ofKind_eq_filter (kind : String) (content : List Node) :
    ofKind kind content = (content.filterMap Node.element?).filter (kindOf ·.tag == kind) := by
  induction content with
  | nil => rfl
  | cons n rest ih =>
    cases n with
    | text s => exact ih
    | element tag attrs inner =>
      by_cases same : kindOf tag = kind
      · subst same
        rw [ofKind_element, ih]
        simp [Node.element?]
      · rw [ofKind_other same, ih]
        simp [Node.element?, same]

/-- The tags of mappings apart, a kind is a tag. -/
def Plain (tag : String) : Prop := tag ≠ "Mapping" ∧ tag ≠ "ParameterMapping"

instance (tag : String) : Decidable (Plain tag) := inferInstanceAs (Decidable (_ ∧ _))

theorem kindOf_eq_iff {tag : String} (plain : Plain tag) (t : String) :
    kindOf t = tag ↔ t = tag := by
  unfold kindOf
  split
  case isTrue other =>
    subst other
    exact iff_of_false plain.1.symm plain.2.symm
  case isFalse => exact Iff.rfl

theorem named_eq_ofKind {tag : String} (plain : Plain tag) (e : Element) :
    e.named tag = ofKind tag e.content := by
  rw [ofKind_eq_filter]
  refine List.filter_congr fun child _ => ?_
  rw [Bool.eq_iff_iff, beq_iff_eq, beq_iff_eq, kindOf_eq_iff plain]

theorem first?_eq_ofKind {tag : String} (plain : Plain tag) (e : Element) :
    (e.first? tag).toList = (ofKind tag e.content).take 1 := by
  have found : e.first? tag = (e.named tag).head? := List.head?_filter.symm
  rw [List.take_one, found, named_eq_ofKind plain]

theorem mappings_eq_ofKind (e : Element) :
    e.children.filter isMapping = ofKind "Mapping" e.content := by
  rw [ofKind_eq_filter]
  refine List.filter_congr fun child _ => ?_
  by_cases parameter : child.tag = "ParameterMapping"
  · simp [isMapping, kindOf, parameter]
  · simp [isMapping, kindOf, parameter]

/-! ### What is read determines what is made of it -/

/-- The compiler makes the same of two elements in a role, wherever they stand. -/
def Indistinct : Role → Element → Element → Prop
  | .feature, e, e' => feature e = feature e'
  | .backend, e, e' => backend e = backend e'
  | .query, e, e' => ∀ parent, query parent e = query parent e'
  | .actionQuery, e, e' => ∀ parent, actionQuery parent e = actionQuery parent e'
  | .frontend, e, e' => frontend e = frontend e'
  | .dataTable, e, e' => ∀ parent, dataTable parent e = dataTable parent e'
  | .column, e, e' => ∀ parent, column parent e = column parent e'
  | .form, e, e' => ∀ parent, form parent e = form parent e'
  | .field, e, e' => ∀ parent, field parent e = field parent e'
  | .button, e, e' => ∀ parent, button parent e = button parent e'
  | .message, e, e' => ∀ parent, message parent e = message parent e'
  | .mapping, e, e' => mapping e = mapping e'
  | .options, e, e' => (e.named "Option").map option = (e'.named "Option").map option
  | .option, e, e' => option e = option e'
  | .listQuery, e, e' => ∀ parent, listQuery parent e = listQuery parent e'
  | .textual, e, e' => e.chars = e'.chars
  | .unread, _, _ => True

theorem indistinct_refl (r : Role) (e : Element) : Indistinct r e e := by
  cases r <;> simp [Indistinct]

/-- Two elements agree in everything that counts in a role. -/
structure Alike (r : Role) (e e' : Element) : Prop where
  tag : e.tag = e'.tag
  value : ∀ name ∈ r.attributes, attr? e name = attr? e' name
  chars : r.bearsText = true → e.chars = e'.chars
  children : ∀ slot ∈ r.slots,
    List.Forall₂ (Indistinct slot.role) (slot.pick e.content) (slot.pick e'.content)

theorem each_congr {β : Type} {f : Element → Visit β} {xs ys : List Element}
    (same : List.Forall₂ (fun a b => f a = f b) xs ys) : Visit.each f xs = Visit.each f ys := by
  induction same with
  | nil => rfl
  | cons first _ ih => rw [Visit.each, Visit.each, first, ih]

theorem map_congr_related {β : Type} {f : Element → β} {xs ys : List Element}
    (same : List.Forall₂ (fun a b => f a = f b) xs ys) : xs.map f = ys.map f := by
  rw [← List.forall₂_eq_eq_eq, List.forall₂_map_left_iff, List.forall₂_map_right_iff]
  exact same

theorem map_congr_first {β : Type} {f : Element → β} {o o' : Option Element}
    (same : List.Forall₂ (fun a b => f a = f b) o.toList o'.toList) : o.map f = o'.map f := by
  rcases o with _ | e <;> rcases o' with _ | e'
  · rfl
  · cases same
  · cases same
  · exact congrArg some (List.forall₂_cons.mp same).1

theorem getD_map_eq_section {α : Type} (absent : α) (f : Element → Visit α) (o : Option Element) :
    (o.map f).getD (pure absent) = section? absent f o := by
  cases o <;> rfl

theorem section_congr {α : Type} (absent : α) (f : Element → Visit α) {o o' : Option Element}
    (same : List.Forall₂ (fun a b => f a = f b) o.toList o'.toList) :
    (section? absent f o : Visit α) = section? absent f o' := by
  rw [← getD_map_eq_section, map_congr_first same, getD_map_eq_section]

namespace Alike

variable {r : Role} {e e' : Element}

theorem attr_eq (h : Alike r e e') {name : String} (read : name ∈ r.attributes) :
    attr e name = attr e' name := by
  rw [attr, attr, h.value name read]

theorem text?_eq (h : Alike r e e') {name : String} (read : name ∈ r.attributes) :
    text? e name = text? e' name := by
  rw [text?, text?, h.value name read]

theorem flag_eq (h : Alike r e e') {name : String} (read : name ∈ r.attributes) (absent : Bool) :
    flag e name absent = flag e' name absent := by
  rw [flag, flag, h.value name read]

theorem integer?_eq (h : Alike r e e') {name : String} (read : name ∈ r.attributes) :
    integer? e name = integer? e' name := by
  rw [integer?, integer?, h.value name read]

theorem choice_eq (h : Alike r e e') {α : Type} [Payload.Choice α] {name : String}
    (read : name ∈ r.attributes) (element : String) (fallback : α) :
    choice e name element fallback = choice e' name element fallback := by
  rw [choice, choice, h.value name read]

theorem required_eq (h : Alike r e e') {name : String} (read : name ∈ r.attributes)
    (element : String) : required e name element = required e' name element := by
  rw [required, required, h.attr_eq read, h.tag]

theorem body_eq (h : Alike r e e') (textual : r.bearsText = true) : body e = body e' := by
  rw [body, body, h.chars textual]

theorem named (h : Alike r e e') (tag : String) (role : Role) (read : ⟨tag, role, false⟩ ∈ r.slots)
    (plain : Plain tag) : List.Forall₂ (Indistinct role) (e.named tag) (e'.named tag) := by
  rw [named_eq_ofKind plain, named_eq_ofKind plain]
  exact h.children _ read

theorem first (h : Alike r e e') (tag : String) (role : Role) (read : ⟨tag, role, true⟩ ∈ r.slots)
    (plain : Plain tag) :
    List.Forall₂ (Indistinct role) (e.first? tag).toList (e'.first? tag).toList := by
  rw [first?_eq_ofKind plain, first?_eq_ofKind plain]
  exact h.children _ read

theorem each_eq (h : Alike r e e') {β : Type} (f : String → Element → Visit β) (tag : String)
    (role : Role) (read : ⟨tag, role, false⟩ ∈ r.slots) (plain : Plain tag)
    (same : ∀ a b, Indistinct role a b → ∀ here, f here a = f here b) (here : String) :
    Visit.each (f here) (e.named tag) = Visit.each (f here) (e'.named tag) :=
  each_congr ((h.named tag role read plain).imp fun a b alike => same a b alike here)

end Alike

section Readers

variable {e e' : Element}

theorem option_alike (h : Alike .option e e') : option e = option e' := by
  simp (disch := decide) only [option, h.attr_eq]

theorem query_alike (h : Alike .query e e') (parent : String) :
    query parent e = query parent e' := by
  simp (disch := decide) only [query, h.required_eq, h.choice_eq, h.text?_eq, h.body_eq]

theorem actionQuery_alike (h : Alike .actionQuery e e') (parent : String) :
    actionQuery parent e = actionQuery parent e' := by
  simp (disch := decide) only [actionQuery, h.required_eq, h.choice_eq, h.text?_eq, h.body_eq]

theorem listQuery_alike (h : Alike .listQuery e e') (parent : String) :
    listQuery parent e = listQuery parent e' := by
  simp (disch := decide) only [listQuery, h.attr_eq, h.choice_eq, h.text?_eq, h.body_eq]

theorem column_alike (h : Alike .column e e') (parent : String) :
    column parent e = column parent e' := by
  simp (disch := decide) only [column, h.required_eq, h.choice_eq, h.attr_eq, h.flag_eq, h.text?_eq]

theorem button_alike (h : Alike .button e e') (parent : String) :
    button parent e = button parent e' := by
  simp (disch := decide) only [button, h.choice_eq, h.text?_eq, h.flag_eq]

theorem message_alike (h : Alike .message e e') (parent : String) :
    message parent e = message parent e' := by
  simp (disch := decide) only [message, h.choice_eq, h.body_eq, h.flag_eq]

theorem options_alike (h : Alike .options e e') :
    (e.named "Option").map option = (e'.named "Option").map option :=
  map_congr_related (h.named "Option" .option (by decide) (by decide))

theorem fieldOptions_alike (h : Alike .field e e') : fieldOptions e = fieldOptions e' := by
  have own := map_congr_related (h.named "Option" .option (by decide) (by decide))
  have wrapped := map_congr_related (f := fun wrapper => (wrapper.named "Option").map option)
    (h.named "Options" .options (by decide) (by decide))
  rw [fieldOptions, fieldOptions, List.map_append, List.map_append, own, List.map_flatMap,
    List.map_flatMap, List.flatMap, List.flatMap, wrapped]

theorem field_alike (h : Alike .field e e') (parent : String) :
    field parent e = field parent e' := by
  simp (disch := decide) only [field, h.required_eq, h.choice_eq, h.integer?_eq, h.attr_eq,
    h.flag_eq, h.text?_eq, h.value, fieldOptions_alike h]

theorem dataTable_alike (h : Alike .dataTable e e') (parent : String) :
    dataTable parent e = dataTable parent e' := by
  have columns := h.each_eq column "Column" .column (by decide) (by decide) fun _ _ same => same
  simp (disch := decide) only [dataTable, h.required_eq, h.integer?_eq, columns, h.attr_eq,
    h.flag_eq, h.text?_eq]

theorem form_alike (h : Alike .form e e') (parent : String) :
    form parent e = form parent e' := by
  have fields := h.each_eq field "Field" .field (by decide) (by decide) fun _ _ same => same
  have buttons := h.each_eq button "Button" .button (by decide) (by decide) fun _ _ same => same
  have messages := h.each_eq message "Message" .message (by decide) (by decide)
    fun _ _ same => same
  simp (disch := decide) only [form, h.required_eq, h.choice_eq, fields, buttons, messages,
    h.flag_eq, h.text?_eq]

theorem backend_alike (h : Alike .backend e e') : backend e = backend e' := by
  have queries := h.each_eq query "Query" .query (by decide) (by decide) fun _ _ same => same
  have actions := h.each_eq actionQuery "ActionQuery" .actionQuery (by decide) (by decide)
    fun _ _ same => same
  simp only [backend, queries, actions]

theorem frontend_alike (h : Alike .frontend e e') : frontend e = frontend e' := by
  have tables := h.each_eq dataTable "DataTable" .dataTable (by decide) (by decide)
    fun _ _ same => same
  have forms := h.each_eq form "Form" .form (by decide) (by decide) fun _ _ same => same
  simp only [frontend, tables, forms]

theorem mapping_alike (h : Alike .mapping e e') : mapping e = mapping e' := by
  have options := map_congr_first
    (f := fun wrapper => ({ items := (wrapper.named "Option").map option } : MappingOptions))
    ((h.first "Options" .options (by decide) (by decide)).imp
      fun _ _ same => congrArg MappingOptions.mk same)
  have listQueries (here : String) := section_congr none
    (fun child => some <$> listQuery here child)
    ((h.first "ListQuery" .listQuery (by decide) (by decide)).imp
      fun _ _ same => congrArg (some <$> ·) (same here))
  simp (disch := decide) only [mapping, h.tag, h.required_eq, options, listQueries, h.integer?_eq,
    h.attr_eq, h.flag_eq, h.text?_eq]

theorem feature_alike (h : Alike .feature e e') : feature e = feature e' := by
  have backends := section_congr {} backend (h.first "Backend" .backend (by decide) (by decide))
  have frontends := section_congr {} frontend
    (h.first "Frontend" .frontend (by decide) (by decide))
  have mappings : Visit.each mapping (e.children.filter isMapping) =
      Visit.each mapping (e'.children.filter isMapping) := by
    rw [mappings_eq_ofKind, mappings_eq_ofKind]
    exact each_congr (h.children ⟨"Mapping", .mapping, false⟩ (by decide))
  simp (disch := decide) only [feature, h.required_eq, backends, frontends, mappings, h.attr_eq]

end Readers

theorem indistinct_of_alike {r : Role} {e e' : Element} (h : Alike r e e') :
    Indistinct r e e' := by
  cases r with
  | feature => exact feature_alike h
  | backend => exact backend_alike h
  | query => exact query_alike h
  | actionQuery => exact actionQuery_alike h
  | frontend => exact frontend_alike h
  | dataTable => exact dataTable_alike h
  | column => exact column_alike h
  | form => exact form_alike h
  | field => exact field_alike h
  | button => exact button_alike h
  | message => exact message_alike h
  | mapping => exact mapping_alike h
  | options => exact options_alike h
  | option => exact option_alike h
  | listQuery => exact listQuery_alike h
  | textual => exact h.chars rfl
  | unread => trivial

/-! ### Edits -/

theorem slots_distinct (r : Role) : (r.slots.map Slot.kind).Nodup := by
  cases r <;> decide

theorem slot_role_ne_unread (r : Role) : ∀ slot ∈ r.slots, slot.role ≠ .unread := by
  cases r <;> decide

theorem slots_of_bearsText {r : Role} (textual : r.bearsText = true) : r.slots = [] := by
  cases r <;> first | rfl | cases textual

theorem below_of_slot {r : Role} {slot : Slot} (read : slot ∈ r.slots) {tag : String}
    (kind : slot.kind = kindOf tag) (before : List Node) :
    r.below before tag =
      if slot.firstOnly && before.any (isOfKind slot.kind) then .unread else slot.role := by
  have found := find?_of_distinct Slot.kind (slots_distinct r) read
  rw [Role.below, ← kind, found]

theorem below_of_bearsText {r : Role} (textual : r.bearsText = true) (before : List Node)
    (tag : String) : r.below before tag = .textual := by
  rw [Role.below, slots_of_bearsText textual, List.find?_nil]
  dsimp only
  rw [if_pos textual]

theorem ofKind_ne_nil {kind : String} {content : List Node}
    (occurs : content.any (isOfKind kind) = true) : ofKind kind content ≠ [] := by
  obtain ⟨n, member, same⟩ := List.any_eq_true.mp occurs
  cases n with
  | text s => cases same
  | element tag attrs inner =>
    have listed : (⟨tag, attrs, inner⟩ : Element) ∈ ofKind kind content :=
      List.mem_filterMap.mpr ⟨_, List.mem_filter.mpr ⟨member, same⟩, rfl⟩
    exact List.ne_nil_of_mem listed

theorem pick_congr (slot : Slot) (before : List Node) {xs ys : List Node}
    (same : ofKind slot.kind xs = ofKind slot.kind ys) :
    slot.pick (before ++ xs) = slot.pick (before ++ ys) := by
  rw [Slot.pick, Slot.pick, ofKind_append, ofKind_append, same]

/-- What comes after the only child that is read does not matter. -/
theorem pick_of_occurs {slot : Slot} {before : List Node}
    (taken : (slot.firstOnly && before.any (isOfKind slot.kind)) = true) (xs : List Node) :
    slot.pick (before ++ xs) = (ofKind slot.kind before).take 1 := by
  obtain ⟨once, occurs⟩ := (Bool.and_eq_true _ _).mp taken
  have enough : 1 ≤ (ofKind slot.kind before).length :=
    List.length_pos_iff.mpr (ofKind_ne_nil occurs)
  rw [Slot.pick, if_pos once, ofKind_append, List.take_append_of_le_length enough]

theorem get?_insert {name key : String} (other : name ≠ key) (value : String)
    (before after : Entries String) :
    Entries.get? (before ++ (name, value) :: after) key = Entries.get? (before ++ after) key := by
  induction before with
  | nil => simp [Entries.get?, other]
  | cons entry before ih =>
    obtain ⟨k, v⟩ := entry
    simp [Entries.get?, ih]

theorem attr?_insert {r : Role} {name read : String} (unread : ¬r.Reads name)
    (counts : read ∈ r.attributes) (value tag : String) (before after : Entries String)
    (content : List Node) :
    attr? ⟨tag, before ++ after, content⟩ read =
      attr? ⟨tag, before ++ (name, value) :: after, content⟩ read := by
  have capital : name ≠ read := fun same => unread ⟨read, counts, .inl same⟩
  have small : name ≠ smallInitial read := fun same => unread ⟨read, counts, .inr same⟩
  simp only [attr?, Element.get?, get?_insert capital, get?_insert small]

theorem charsOf_append (xs ys : List Node) :
    Node.charsOf (xs ++ ys) = Node.charsOf xs ++ Node.charsOf ys := by
  induction xs with
  | nil => rfl
  | cons n xs ih => rw [List.cons_append, Node.charsOf, Node.charsOf, ih, List.append_assoc]

theorem related_refl (role : Role) (es : List Element) :
    List.Forall₂ (Indistinct role) es es :=
  List.forall₂_same.mpr fun e _ => indistinct_refl role e

/-- Where the text does not count, the children that are read are all that counts of the content. -/
theorem alike_of_pick {r : Role} (structural : r.bearsText = false) (tag : String)
    (attrs : Entries String) {content content' : List Node}
    (same : ∀ slot ∈ r.slots, slot.pick content = slot.pick content') :
    Alike r ⟨tag, attrs, content⟩ ⟨tag, attrs, content'⟩ where
  tag := rfl
  value := fun _ _ => rfl
  chars := fun textual => by
    rw [structural] at textual
    cases textual
  children := fun slot read => by
    rw [same slot read]
    exact related_refl slot.role _

theorem pick_child {r : Role} {before : List Node} {tag : String}
    (unread : r.below before tag = .unread) (attrs : Entries String) (inner after : List Node)
    {slot : Slot} (read : slot ∈ r.slots) :
    slot.pick (before ++ after) = slot.pick (before ++ .element tag attrs inner :: after) := by
  by_cases kind : slot.kind = kindOf tag
  · rw [below_of_slot read kind] at unread
    split at unread
    case isTrue taken => rw [pick_of_occurs taken, pick_of_occurs taken]
    case isFalse => exact absurd unread (slot_role_ne_unread r slot read)
  · exact pick_congr slot before (ofKind_other (Ne.symm kind) attrs inner after).symm

/-- A child gives way to one that its role cannot tell from it. -/
theorem related_within {r : Role} {before : List Node} {tag : String}
    {attrs attrs' : Entries String} {inner inner' : List Node}
    (same : Indistinct (r.below before tag) ⟨tag, attrs, inner⟩ ⟨tag, attrs', inner'⟩)
    (after : List Node) {slot : Slot} (read : slot ∈ r.slots) :
    List.Forall₂ (Indistinct slot.role) (slot.pick (before ++ .element tag attrs inner :: after))
      (slot.pick (before ++ .element tag attrs' inner' :: after)) := by
  -- Only the slot of its own kind may hold the child that changes.
  by_cases kind : slot.kind = kindOf tag
  · rw [below_of_slot read kind] at same
    split at same
    case isTrue taken =>
      rw [pick_of_occurs taken, pick_of_occurs taken]
      exact related_refl slot.role _
    case isFalse =>
      have whole : List.Forall₂ (Indistinct slot.role)
          (ofKind slot.kind (before ++ .element tag attrs inner :: after))
          (ofKind slot.kind (before ++ .element tag attrs' inner' :: after)) := by
        rw [ofKind_append, ofKind_append, kind, ofKind_element, ofKind_element]
        exact List.rel_append (related_refl slot.role _) (.cons same (related_refl slot.role _))
      unfold Slot.pick
      split
      · exact List.forall₂_take 1 whole
      · exact whole
  · have others : ofKind slot.kind (.element tag attrs inner :: after) =
        ofKind slot.kind (.element tag attrs' inner' :: after) := by
      rw [ofKind_other (Ne.symm kind), ofKind_other (Ne.symm kind)]
    rw [pick_congr slot before others]
    exact related_refl slot.role _

/-- What the compiler cannot tell apart below an element, it cannot tell apart in it. -/
theorem indistinct_within {r : Role} {t : String} (tag : String) (attrs : Entries String)
    {as as' : Entries String} (before after : List Node) {inner inner' : List Node}
    (same : Indistinct (r.below before t) ⟨t, as, inner⟩ ⟨t, as', inner'⟩) :
    Indistinct r ⟨tag, attrs, before ++ .element t as inner :: after⟩
      ⟨tag, attrs, before ++ .element t as' inner' :: after⟩ := by
  refine indistinct_of_alike
    ⟨rfl, fun _ _ => rfl, ?_, fun slot read => related_within same after read⟩
  -- in a text, a child counts by its own text alone
  intro textual
  rw [below_of_bearsText textual] at same
  have text : Node.charsOf inner = Node.charsOf inner' := same
  rw [Element.chars, Element.chars, charsOf_append, charsOf_append, Node.charsOf, Node.charsOf,
    Node.chars, Node.chars, text]

/-- The step: one edit changes nothing of what the compiler makes of an element. -/
theorem indistinct_of_edit {r : Role} {e e' : Element} (edit : Edit r e e') :
    Indistinct r e e' := by
  induction edit with
  | @attr r tag name value before after content unread =>
    exact indistinct_of_alike
      { tag := rfl
        value := fun read counts => attr?_insert unread counts value tag before after content
        chars := fun _ => rfl
        children := fun slot _ => related_refl slot.role _ }
  | @text r tag attrs s before after structural =>
    refine indistinct_of_alike (alike_of_pick structural tag attrs fun slot _ => ?_)
    exact pick_congr slot before (ofKind_text slot.kind s after).symm
  | @child r tag t attrs as before after inner structural unread =>
    exact indistinct_of_alike (alike_of_pick structural tag attrs fun slot read =>
      pick_child unread as inner after read)
  | @reorder r tag attrs content content' structural kept =>
    refine indistinct_of_alike (alike_of_pick structural tag attrs fun slot _ => ?_)
    rw [Slot.pick, Slot.pick, ofKind, ofKind, kept.1]
  | within edit ih => exact indistinct_within _ _ _ _ ih

theorem tag_of_edit {r : Role} {e e' : Element} (edit : Edit r e e') : e.tag = e'.tag := by
  cases edit <;> rfl

theorem compileTree_congr (options : Document.Options) {root root' : Element}
    (tag : root.tag = root'.tag) (same : Indistinct .feature root root') :
    Document.compileTree options root = Document.compileTree options root' := by
  have compiled : feature root = feature root' := same
  rw [Document.compileTree, Document.compileTree, tag, Document.compiled, Document.compiled,
    compiled]

/-- However markup that is not read is edited, a compilation has the same outcome and the same
records, be it strict or lenient. -/
theorem unread_markup_ignored (options : Document.Options) {root root' : Element}
    (edited : Edited root root') :
    Document.compileTree options root = Document.compileTree options root' := by
  induction edited with
  | rel root root' edit =>
    exact compileTree_congr options (tag_of_edit edit) (indistinct_of_edit edit)
  | refl root => rfl
  | symm root root' _ ih => exact ih.symm
  | trans root between root' _ _ first second => exact first.trans second

theorem reordered_swap {t t' : String} (other : kindOf t ≠ kindOf t') (as as' : Entries String)
    (inner inner' before after : List Node) :
    Reordered (before ++ .element t as inner :: .element t' as' inner' :: after)
      (before ++ .element t' as' inner' :: .element t as inner :: after) := by
  refine ⟨fun kind => ?_, (List.Perm.swap _ _ after).append_left before⟩
  rw [List.filter_append, List.filter_append]
  by_cases first : kindOf t = kind
  · subst first
    simp [isOfKind, Ne.symm other]
  · simp [List.filter_cons, isOfKind, first]

def setOff (attrs : Entries String) : Node :=
  .element "Backend" []
    [.element "Query" [("Id", "all"), ("Type", "Selected")]
      [.text "SELECT ", .element "b" attrs [.text ":id"]]]

def statusMapping : Node := .element "Mapping" [("Name", "status")] []

def secondBackend : Node := .element "Backend" [] [.element "Query" [] []]

def bare : Element := ⟨"Feature", [("Name", "Orders")], [setOff [], statusMapping]⟩

/-- The same document with markup that is not read, and in another order. -/
def annotated : Element :=
  ⟨"Feature", [("Name", "Orders"), ("Author", "A")],
    [.text "\n", statusMapping, setOff [("Id", "x")], secondBackend]⟩

theorem edited_annotated : Edited bare annotated := by
  have word := @Edit.attr .textual "b" "Id" "x" [] [] [.text ":id"] (by decide)
  have query := @Edit.within .query "Query" "b" [("Id", "all"), ("Type", "Selected")] _ _
    [.text "SELECT "] [] _ _ word
  have backend := @Edit.within .backend "Backend" "Query" [] _ _ [] [] _ _ query
  have first := @Edit.within .feature "Feature" "Backend" [("Name", "Orders")] _ _ []
    [statusMapping] _ _ backend
  have author := @Edit.attr .feature "Feature" "Author" "A" [("Name", "Orders")] []
    [setOff [("Id", "x")], statusMapping] (by decide)
  have second := @Edit.child .feature "Feature" "Backend" [("Name", "Orders"), ("Author", "A")] []
    [setOff [("Id", "x")], statusMapping] [] [.element "Query" [] []] rfl rfl
  have swapped := @Edit.reorder .feature "Feature" [("Name", "Orders"), ("Author", "A")]
    [setOff [("Id", "x")], statusMapping, secondBackend]
    [statusMapping, setOff [("Id", "x")], secondBackend] rfl
    (reordered_swap (by decide) [] [("Name", "status")]
      [.element "Query" [("Id", "all"), ("Type", "Selected")]
        [.text "SELECT ", .element "b" [("Id", "x")] [.text ":id"]]] [] [] [secondBackend])
  have line := @Edit.text .feature "Feature" [("Name", "Orders"), ("Author", "A")] "\n" []
    [statusMapping, setOff [("Id", "x")], secondBackend] rfl
  exact .trans _ _ _ (.rel _ _ first) <| .trans _ _ _ (.rel _ _ author) <|
    .trans _ _ _ (.rel _ _ second) <| .trans _ _ _ (.rel _ _ swapped) (.rel _ _ line)

theorem annotated_refused_alike :
    Edited bare annotated ∧
      Document.compileTree (strictly none) annotated = Document.compileTree (strictly none) bare ∧
      (Document.compileTree (strictly none) bare).outcome =
        .error (.document (.unknownWord "QueryKind" "Selected")
          (some ⟨none, some "Feature/Backend/Query[all]", some "Type"⟩)) := by
  refine ⟨edited_annotated, (unread_markup_ignored _ edited_annotated).symm, ?_⟩
  rfl

end FeatureSpec.Compile
