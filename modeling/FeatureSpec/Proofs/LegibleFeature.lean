import FeatureSpec.Document
import FeatureSpec.Proofs.JsonRoundTrip
import Mathlib.Data.List.Induction
/-!
The wire form of a compiled feature can be read again as a text: no record has a field twice, and
an integer of a document has no more digits than are read.
-/
namespace FeatureSpec

open Payload

namespace Json

theorem legibleItems_iff (items : List Json) :
    LegibleItems items ↔ ∀ v ∈ items, v.Legible := by
  induction items with
  | nil => exact ⟨fun _ => nofun, fun _ => trivial⟩
  | cons v rest ih => rw [LegibleItems, ih, List.forall_mem_cons]

theorem legibleMembers_iff (members : List (String × Json)) :
    LegibleMembers members ↔ ∀ kv ∈ members, kv.2.Legible := by
  induction members with
  | nil => exact ⟨fun _ => nofun, fun _ => trivial⟩
  | cons e rest ih => rw [LegibleMembers, ih, List.forall_mem_cons]

end Json

namespace Payload

variable {α β ρ : Type}

def WritesLegibly (codec : Codec α) (a : α) : Prop := (codec.encode a).Legible

theorem text_writes (s : String) : WritesLegibly .text s := trivial

theorem flag_writes (b : Bool) : WritesLegibly .flag b := trivial

theorem choice_writes [Choice α] (a : α) : WritesLegibly .choice a := trivial

theorem nullable_writes {codec : Codec α} {a? : Option α} (h : ∀ a ∈ a?, WritesLegibly codec a) :
    WritesLegibly (.nullable codec) a? := by
  cases a? with
  | none => trivial
  | some a => exact h a rfl

theorem optional_text_writes (s : Option String) : WritesLegibly (.nullable .text) s :=
  nullable_writes fun s _ => text_writes s

theorem list_writes {codec : Codec α} {items : List α} (h : ∀ a ∈ items, WritesLegibly codec a) :
    WritesLegibly (.list codec) items := by
  refine (Json.legibleItems_iff _).mpr fun v member => ?_
  obtain ⟨a, among, rfl⟩ := List.mem_map.mp member
  exact h a among

/-- Some fields that write legible members under these names. -/
structure FieldsWrite (fields : Fields ρ α) (names : List String) (r : ρ) : Prop where
  named : (fields.encode r).map Prod.fst = names
  legible : ∀ kv ∈ fields.encode r, kv.2.Legible

theorem writes_field {wire plain : String} {codec : Codec α} {absent : α} {get : ρ → α} {r : ρ}
    (h : WritesLegibly codec (get r)) :
    FieldsWrite (.field wire plain codec absent get) [wire] r :=
  ⟨rfl, List.forall_mem_singleton.mpr h⟩

theorem writes_mandatory {wire plain : String} {codec : Codec α} {get : ρ → α} {r : ρ}
    (h : WritesLegibly codec (get r)) : FieldsWrite (.mandatory wire plain codec get) [wire] r :=
  ⟨rfl, List.forall_mem_singleton.mpr h⟩

theorem FieldsWrite.map {fields : Fields ρ α} {names : List String} {r : ρ} (f : α → β)
    (h : FieldsWrite fields names r) : FieldsWrite (f <$> fields) names r := ⟨h.named, h.legible⟩

theorem FieldsWrite.seq {first : Fields ρ (α → β)} {second : Fields ρ α}
    {names more : List String} {r : ρ} (hf : FieldsWrite first names r)
    (ha : FieldsWrite second more r) : FieldsWrite (first <*> second) (names ++ more) r where
  named := by
    show (first.encode r ++ second.encode r).map Prod.fst = names ++ more
    rw [List.map_append, hf.named, ha.named]
  legible := by
    intro kv member
    rcases List.mem_append.mp member with one | two
    · exact hf.legible kv one
    · exact ha.legible kv two

theorem record_writes {title : String} {fields : Fields ρ ρ} {names : List String} {r : ρ}
    (writes : FieldsWrite fields names r) (distinct : names.Nodup) :
    WritesLegibly (.record title fields) r := by
  refine ⟨?_, (Json.legibleMembers_iff _).mpr writes.legible⟩
  rw [writes.named]
  exact distinct

end Payload

def Readable (n? : Option Int) : Prop := ∀ n ∈ n?, n.natAbs < 10 ^ Number.integerDigitLimit

theorem optional_integer_writes {n? : Option Int} (short : Readable n?) :
    WritesLegibly (.nullable .integer) n? :=
  nullable_writes short

theorem parameter_writes (p : Parameter) : WritesLegibly Parameter.codec p :=
  record_writes
    ((writes_mandatory (text_writes _)).map _
      |>.seq (writes_field (optional_text_writes _))
      |>.seq (writes_field (flag_writes _))
      |>.seq (writes_field (optional_text_writes _)))
    (by decide)

theorem query_writes (q : Query) : WritesLegibly Query.codec q :=
  record_writes
    ((writes_mandatory (text_writes _)).map _
      |>.seq (writes_field (choice_writes _))
      |>.seq (writes_field (optional_text_writes _))
      |>.seq (writes_field (text_writes _))
      |>.seq (writes_field (list_writes fun p _ => parameter_writes p)))
    (by decide)

theorem actionQuery_writes (q : ActionQuery) : WritesLegibly ActionQuery.codec q :=
  record_writes
    ((writes_mandatory (text_writes _)).map _
      |>.seq (writes_field (choice_writes _))
      |>.seq (writes_field (optional_text_writes _))
      |>.seq (writes_field (text_writes _))
      |>.seq (writes_field (list_writes fun p _ => parameter_writes p)))
    (by decide)

theorem listQuery_writes (q : ListQuery) : WritesLegibly ListQuery.codec q :=
  record_writes
    ((writes_field (text_writes _)).map _
      |>.seq (writes_field (choice_writes _))
      |>.seq (writes_field (optional_text_writes _))
      |>.seq (writes_field (text_writes _))
      |>.seq (writes_field (list_writes fun p _ => parameter_writes p)))
    (by decide)

theorem backend_writes (b : Backend) : WritesLegibly Backend.codec b :=
  record_writes
    ((writes_field (list_writes fun q _ => query_writes q)).map _
      |>.seq (writes_field (list_writes fun q _ => actionQuery_writes q)))
    (by decide)

theorem mappingOption_writes {o : MappingOption} (value : WritesLegibly OptionValue.codec o.value) :
    WritesLegibly MappingOption.codec o :=
  record_writes ((writes_field (text_writes _)).map _ |>.seq (writes_field value)) (by decide)

theorem mappingOptions_writes {o : MappingOptions}
    (items : ∀ a ∈ o.items, WritesLegibly MappingOption.codec a) :
    WritesLegibly MappingOptions.codec o :=
  record_writes ((writes_field (list_writes items)).map _) (by decide)

theorem mapping_writes {m : Mapping}
    (options : ∀ o ∈ m.options, WritesLegibly MappingOptions.codec o) (rows : Readable m.rows) :
    WritesLegibly Mapping.codec m :=
  record_writes
    ((writes_mandatory (text_writes _)).map _
      |>.seq (writes_field (text_writes _))
      |>.seq (writes_field (text_writes _))
      |>.seq (writes_field (nullable_writes fun q _ => listQuery_writes q))
      |>.seq (writes_field (nullable_writes options))
      |>.seq (writes_field (flag_writes _))
      |>.seq (writes_field (flag_writes _))
      |>.seq (writes_field (flag_writes _))
      |>.seq (writes_field (optional_text_writes _))
      |>.seq (writes_field (optional_text_writes _))
      |>.seq (writes_field (optional_integer_writes rows)))
    (by decide)

theorem column_writes (c : Column) : WritesLegibly Column.codec c :=
  record_writes
    ((writes_mandatory (text_writes _)).map _
      |>.seq (writes_field (text_writes _))
      |>.seq (writes_field (choice_writes _))
      |>.seq (writes_field (flag_writes _))
      |>.seq (writes_field (flag_writes _))
      |>.seq (writes_field (optional_text_writes _))
      |>.seq (writes_field (optional_text_writes _))
      |>.seq (writes_field (choice_writes _)))
    (by decide)

theorem dataTable_writes {t : DataTable} (pageSize : Readable t.pageSize) :
    WritesLegibly DataTable.codec t :=
  record_writes
    ((writes_mandatory (text_writes _)).map _
      |>.seq (writes_field (text_writes _))
      |>.seq (writes_field (optional_text_writes _))
      |>.seq (writes_field (optional_text_writes _))
      |>.seq (writes_field (flag_writes _))
      |>.seq (writes_field (optional_integer_writes pageSize))
      |>.seq (writes_field (flag_writes _))
      |>.seq (writes_field (flag_writes _))
      |>.seq (writes_field (flag_writes _))
      |>.seq (writes_field (list_writes fun c _ => column_writes c))
      |>.seq (writes_field (optional_text_writes _)))
    (by decide)

theorem field_writes {f : Field} (options : ∀ o ∈ f.options, WritesLegibly MappingOption.codec o)
    (rows : Readable f.rows) : WritesLegibly Field.codec f :=
  record_writes
    ((writes_mandatory (text_writes _)).map _
      |>.seq (writes_field (text_writes _))
      |>.seq (writes_field (choice_writes _))
      |>.seq (writes_field (flag_writes _))
      |>.seq (writes_field (flag_writes _))
      |>.seq (writes_field (flag_writes _))
      |>.seq (writes_field (optional_text_writes _))
      |>.seq (writes_field (optional_text_writes _))
      |>.seq (writes_field (list_writes options))
      |>.seq (writes_field (optional_text_writes _))
      |>.seq (writes_field (optional_text_writes _))
      |>.seq (writes_field (optional_text_writes _))
      |>.seq (writes_field (optional_integer_writes rows)))
    (by decide)

theorem button_writes (b : Button) : WritesLegibly Button.codec b :=
  record_writes
    ((writes_field (optional_text_writes _)).map _
      |>.seq (writes_field (choice_writes _))
      |>.seq (writes_field (optional_text_writes _))
      |>.seq (writes_field (choice_writes _))
      |>.seq (writes_field (flag_writes _))
      |>.seq (writes_field (optional_text_writes _)))
    (by decide)

theorem message_writes (m : Message) : WritesLegibly Message.codec m :=
  record_writes
    ((writes_field (choice_writes _)).map _
      |>.seq (writes_field (text_writes _))
      |>.seq (writes_field (flag_writes _)))
    (by decide)

theorem form_writes {f : Form} (fields : ∀ d ∈ f.fields, WritesLegibly Field.codec d) :
    WritesLegibly Form.codec f :=
  record_writes
    ((writes_mandatory (text_writes _)).map _
      |>.seq (writes_field (choice_writes _))
      |>.seq (writes_field (optional_text_writes _))
      |>.seq (writes_field (optional_text_writes _))
      |>.seq (writes_field (flag_writes _))
      |>.seq (writes_field (optional_text_writes _))
      |>.seq (writes_field (optional_text_writes _))
      |>.seq (writes_field (list_writes fields))
      |>.seq (writes_field (list_writes fun b _ => button_writes b))
      |>.seq (writes_field (list_writes fun m _ => message_writes m)))
    (by decide)

theorem frontend_writes {f : Frontend}
    (tables : ∀ t ∈ f.dataTables, WritesLegibly DataTable.codec t)
    (forms : ∀ d ∈ f.forms, WritesLegibly Form.codec d) : WritesLegibly Frontend.codec f :=
  record_writes
    ((writes_field (list_writes tables)).map _ |>.seq (writes_field (list_writes forms)))
    (by decide)

theorem feature_writes {f : Feature} (frontend : WritesLegibly Frontend.codec f.frontend)
    (mappings : ∀ m ∈ f.mappings, WritesLegibly Mapping.codec m) :
    WritesLegibly Feature.codec f :=
  record_writes
    ((writes_mandatory (text_writes _)).map _
      |>.seq (writes_field (text_writes _))
      |>.seq (writes_field (backend_writes _))
      |>.seq (writes_field frontend)
      |>.seq (writes_field (list_writes mappings)))
    (by decide)

namespace Compile

open Xml

/-- Whatever a visit returns has this property, be it strict or lenient. -/
def Returns {α : Type} (x : Visit α) (P : α → Prop) : Prop :=
  ∀ options a, (x options).outcome = .ok a → P a

section

variable {α β : Type} {P : α → Prop} {Q : β → Prop}

theorem returns_any (x : Visit α) : Returns x fun _ => True := fun _ _ _ => trivial

theorem returns_pure {a : α} (h : P a) : Returns (pure a) P := by
  rintro options b returned
  cases returned
  exact h

theorem returns_bind {x : Visit α} {f : α → Visit β} (first : Returns x P)
    (rest : ∀ a, P a → Returns (f a) Q) : Returns (x >>= f) Q := by
  intro options b returned
  rw [Visit.bind_apply] at returned
  obtain ⟨a, came, returned⟩ := Logged.ok_of_bind returned
  exact rest a (first options a came) options b returned

/-- What comes first does not matter. -/
theorem returns_after {x : Visit α} {f : α → Visit β} (rest : ∀ a, Returns (f a) Q) :
    Returns (x >>= f) Q :=
  returns_bind (returns_any x) fun a _ => rest a

theorem returns_each {f : α → Visit β} {items : List α} (h : ∀ a ∈ items, Returns (f a) Q) :
    Returns (Visit.each f items) fun bs => ∀ b ∈ bs, Q b := by
  induction items with
  | nil => exact returns_pure nofun
  | cons a rest ih =>
    refine returns_bind (h a (.head _)) fun b first => ?_
    refine returns_bind (ih fun c later => h c (.tail _ later)) fun bs others => ?_
    exact returns_pure (List.forall_mem_cons.mpr ⟨first, others⟩)

theorem returns_section {absent : α} {compile : Element → Visit α} (default : P absent)
    (h : ∀ e, Returns (compile e) P) (e? : Option Element) :
    Returns (section? absent compile e?) P := by
  cases e? with
  | none => exact returns_pure default
  | some e => exact h e

end

theorem digitValue_lt {c : Char} {d : Nat} (h : Text.digitValue? c = some d) : d < 10 := by
  obtain ⟨least, found, rfl⟩ := Option.map_eq_some_iff.mp h
  have range := List.find?_some found
  simp only [Bool.and_eq_true, decide_eq_true_eq] at range
  omega

theorem digits_lt {cs : List Char} {digits : List Nat}
    (h : cs.mapM Text.digitValue? = some digits) : ∀ d ∈ digits, d < 10 := by
  induction cs generalizing digits with
  | nil =>
    cases h
    exact nofun
  | cons c rest ih =>
    rw [List.mapM_cons] at h
    obtain ⟨d, first, h⟩ := Option.bind_eq_some_iff.mp h
    obtain ⟨more, others, h⟩ := Option.bind_eq_some_iff.mp h
    cases h
    exact List.forall_mem_cons.mpr ⟨digitValue_lt first, ih others⟩

theorem ofDigits_lt {digits : List Nat} (h : ∀ d ∈ digits, d < 10) :
    Text.ofDigits 10 digits < 10 ^ digits.length := by
  induction digits using List.reverseRecOn with
  | nil => decide
  | append_singleton digits last ih =>
    have first := ih fun d member => h d (List.mem_append_left _ member)
    have small : last < 10 := h last (List.mem_append_right _ (.head _))
    rw [Text.ofDigits, List.foldl_append, List.length_append, List.length_singleton,
      Nat.pow_succ]
    unfold Text.ofDigits at first
    simp only [List.foldl_cons, List.foldl_nil]
    omega

theorem integerDigits_lt {cs : List Char} {negative : Bool} {digits : List Nat}
    (h : integerDigits? cs = some (negative, digits)) : ∀ d ∈ digits, d < 10 := by
  unfold integerDigits? at h
  split at h
  obtain ⟨read, parsed, h⟩ := Option.bind_eq_some_iff.mp h
  have same : read = digits := by
    split at h <;> cases h
    rfl
  exact same ▸ digits_lt parsed

theorem natAbs_signed (negative : Bool) (n : Nat) : (Number.signed negative n).natAbs = n := by
  cases negative
  · rfl
  · exact Int.natAbs_neg n

theorem returns_integer (e : Element) (name : String) : Returns (integer? e name) Readable := by
  unfold integer?
  cases attr? e name with
  | none => exact returns_pure nofun
  | some value =>
    dsimp only
    rcases read : integerDigits? (Text.trimChars value.toList) with _ | ⟨negative, digits⟩
    · exact returns_after fun _ => returns_pure nofun
    dsimp only
    split
    case isTrue long => exact nofun
    case isFalse short =>
      refine returns_pure ?_
      rintro n ⟨⟩
      rw [natAbs_signed]
      calc
        Text.ofDigits 10 digits
          < 10 ^ digits.length := ofDigits_lt (integerDigits_lt read)
        _ ≤ 10 ^ Number.integerDigitLimit :=
          Nat.pow_le_pow_right (by decide) (Nat.not_lt.mp short)

theorem option_writes (e : Element) : WritesLegibly MappingOption.codec (option e) :=
  mappingOption_writes trivial

theorem options_write (es : List Element) :
    ∀ o ∈ es.map option, WritesLegibly MappingOption.codec o := by
  intro o member
  obtain ⟨e, -, rfl⟩ := List.mem_map.mp member
  exact option_writes e

theorem returns_dataTable (parent : String) (e : Element) :
    Returns (dataTable parent e) (WritesLegibly DataTable.codec) := by
  refine returns_after fun id => ?_
  refine returns_bind (returns_integer e "PageSize") fun pageSize short => ?_
  exact returns_after fun columns => returns_pure (dataTable_writes short)

theorem returns_field (parent : String) (e : Element) :
    Returns (field parent e) (WritesLegibly Field.codec) := by
  refine returns_after fun name => returns_after fun type => ?_
  refine returns_bind (returns_integer e "Rows") fun rows short => ?_
  exact returns_pure (field_writes (options_write _) short)

theorem returns_form (parent : String) (e : Element) :
    Returns (form parent e) (WritesLegibly Form.codec) := by
  refine returns_after fun id => returns_after fun mode => ?_
  refine returns_bind (returns_each fun f _ => returns_field _ f) fun fields legible => ?_
  refine returns_after fun buttons => returns_after fun messages => ?_
  exact returns_pure (form_writes legible)

theorem returns_frontend (e : Element) :
    Returns (frontend e) (WritesLegibly Frontend.codec) := by
  refine returns_bind (returns_each fun t _ => returns_dataTable _ t) fun tables legible => ?_
  refine returns_bind (returns_each fun f _ => returns_form _ f) fun forms legible' => ?_
  exact returns_pure (frontend_writes legible legible')

theorem returns_mapping (e : Element) : Returns (mapping e) (WritesLegibly Mapping.codec) := by
  have options : ∀ o ∈ (e.first? "Options").map fun wrapper =>
      ({ items := (wrapper.named "Option").map option } : MappingOptions),
      WritesLegibly MappingOptions.codec o := by
    intro o given
    obtain ⟨wrapper, -, rfl⟩ := Option.map_eq_some_iff.mp given
    exact mappingOptions_writes (options_write _)
  have rows : Returns (integer? e "Rows") Readable := returns_integer e "Rows"
  refine returns_after fun name => returns_after fun listQuery => ?_
  dsimp only
  split
  · refine returns_after fun _ => returns_bind rows fun _ short => ?_
    exact returns_pure (mapping_writes options short)
  · exact returns_bind rows fun _ short => returns_pure (mapping_writes options short)

theorem returns_feature (root : Element) :
    Returns (feature root) (WritesLegibly Feature.codec) := by
  have absent : WritesLegibly Frontend.codec {} :=
    frontend_writes (List.forall_mem_nil _) (List.forall_mem_nil _)
  refine returns_after fun name => returns_after fun backend => ?_
  refine returns_bind (returns_section absent returns_frontend _) fun frontend legible => ?_
  refine returns_bind (returns_each fun m _ => returns_mapping m) fun mappings legible' => ?_
  exact returns_pure (feature_writes legible legible')

theorem holds_of_compileTree {P : Feature → Prop} {options : Document.Options} {root : Element}
    {f : Feature} (visit : Returns (feature root) P)
    (returned : (Document.compileTree options root).outcome = .ok f) : P f := by
  have compiled : Returns (Document.compiled root) P :=
    returns_bind visit fun _ held => returns_after fun _ => returns_pure held
  unfold Document.compileTree at returned
  split at returned
  · exact compiled options f returned
  · cases returned

/-- Every feature that is compiled of the octets of a file has a legible wire form. -/
theorem writes_of_compileOctets {options : Document.Options} {os : Octets} {f : Feature}
    (returned : (Document.compileOctets options os).outcome = .ok f) :
    WritesLegibly Feature.codec f := by
  unfold Document.compileOctets at returned
  split at returned
  · cases returned
  unfold Document.compileRead at returned
  split at returned
  · exact holds_of_compileTree (returns_feature _) returned
  · cases returned

end Compile
end FeatureSpec
