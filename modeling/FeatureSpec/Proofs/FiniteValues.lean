import FeatureSpec.Model.Wire
/-!
What a value holds as it was given was in its payload: where every number of the payload is finite,
so is every number of these values.
-/
namespace FeatureSpec

namespace Json

theorem member_isFinite {members : Entries Json} {key : String} {v : Json}
    (finite : memberValuesFinite members = true) (h : members.get? key = some v) :
    v.isFinite = true := by
  induction members with
  | nil => cases h
  | cons first rest ih =>
    obtain ⟨k, w⟩ := first
    obtain ⟨one, others⟩ := Bool.and_eq_true_iff.mp finite
    rw [Entries.get?] at h
    split at h
    · cases h
      exact one
    · exact ih others h

end Json

namespace Payload

variable {α β ρ : Type}

/-- What is read of a finite payload satisfies `P`. -/
def Codec.Yields (codec : Codec α) (P : α → Prop) : Prop :=
  ∀ p a, p.isFinite = true → codec.decode p = .ok a → P a

/-- What is read of the members of a finite payload satisfies `P`. -/
def Fields.Yields (fields : Fields ρ α) (P : α → Prop) : Prop :=
  ∀ members a, Json.memberValuesFinite members = true → fields.decode members = .ok a → P a

theorem anything_yields : Codec.anything.Yields fun v => v.isFinite = true := by
  intro p v finite h
  cases h
  exact finite

theorem each_yields {codec : Codec α} {P : α → Prop} (part : codec.Yields P) {items : List Json}
    (finite : Json.areFinite items = true) {index : Nat} {read : List α}
    (h : Checked.each codec.decode index items = .ok read) : ∀ a ∈ read, P a := by
  induction items generalizing index read with
  | nil =>
    cases h
    nofun
  | cons p rest ih =>
    obtain ⟨one, others⟩ := Bool.and_eq_true_iff.mp finite
    obtain ⟨g, more, first, later, rfl⟩ := Checked.both_eq_ok h
    obtain ⟨a, checked, rfl⟩ := Checked.map_eq_ok first
    intro b member
    cases member with
    | head => exact part p a one (Checked.under_eq_ok checked)
    | tail _ member => exact ih others later b member

theorem list_yields {codec : Codec α} {P : α → Prop} (part : codec.Yields P) :
    (Codec.list codec).Yields fun items => ∀ a ∈ items, P a := by
  intro p items finite h
  cases p with
  | array given => exact each_yields part finite h
  | _ => cases h

theorem eachEntry_yields {codec : Codec α} {P : α → Prop} (part : codec.Yields P)
    {members : Entries Json} (finite : Json.memberValuesFinite members = true) {read : Entries α}
    (h : Checked.eachEntry codec.decode members = .ok read) : ∀ kv ∈ read, P kv.2 := by
  induction members generalizing read with
  | nil =>
    cases h
    nofun
  | cons first rest ih =>
    obtain ⟨k, p⟩ := first
    obtain ⟨one, others⟩ := Bool.and_eq_true_iff.mp finite
    obtain ⟨g, more, first, later, rfl⟩ := Checked.both_eq_ok h
    obtain ⟨a, checked, rfl⟩ := Checked.map_eq_ok first
    intro kv member
    cases member with
    | head => exact part p a one (Checked.under_eq_ok checked)
    | tail _ member => exact ih others later kv member

theorem entries_yields {codec : Codec α} {P : α → Prop} (part : codec.Yields P) :
    (Codec.entries codec).Yields fun m => ∀ kv ∈ m, P kv.2 := by
  intro p m finite h
  cases p with
  | object members => exact eachEntry_yields part finite h
  | _ => cases h

theorem find_isFinite {members : Entries Json} {wire plain name : String} {v : Json}
    (finite : Json.memberValuesFinite members = true)
    (h : Fields.find? members wire plain = some (name, v)) : v.isFinite = true := by
  unfold Fields.find? at h
  split at h
  · rename_i found
    cases h
    exact Json.member_isFinite finite found
  · obtain ⟨w, found, same⟩ := Option.map_eq_some_iff.mp h
    cases same
    exact Json.member_isFinite finite found

theorem field_yields {wire plain : String} {codec : Codec α} {absent : α} {get : ρ → α}
    {P : α → Prop} (part : codec.Yields P) (default : P absent) :
    (Fields.field wire plain codec absent get).Yields P := by
  intro members a finite h
  rw [Fields.field] at h
  dsimp only at h
  split at h
  · rename_i name v found
    exact part v a (find_isFinite finite found) (Checked.under_eq_ok h)
  · cases h
    exact default

theorem yields_any (fields : Fields ρ α) : fields.Yields fun _ => True := fun _ _ _ _ => trivial

theorem map_yields {fields : Fields ρ α} {P : α → Prop} {f : α → β} {Q : β → Prop}
    (h : fields.Yields P) (step : ∀ a, P a → Q (f a)) : (f <$> fields).Yields Q := by
  intro members b finite mapped
  obtain ⟨a, read, rfl⟩ := Checked.map_eq_ok mapped
  exact step a (h members a finite read)

theorem seq_yields {first : Fields ρ (α → β)} {second : Fields ρ α} {P : α → Prop} {Q : β → Prop}
    (hf : first.Yields fun f => ∀ a, P a → Q (f a)) (ha : second.Yields P) :
    (first <*> second).Yields Q := by
  intro members b finite read
  obtain ⟨f, a, one, two, rfl⟩ := Checked.both_eq_ok read
  exact hf members f finite one a (ha members a finite two)

theorem record_yields {title : String} {fields : Fields ρ ρ} {P : ρ → Prop}
    (h : fields.Yields P) : (Codec.record title fields).Yields P := by
  intro p r finite read
  cases p with
  | object members => exact h members r finite read
  | _ => cases read

end Payload

open Payload

theorem queryReply_yields :
    QueryReply.codec.Yields fun r => ∀ g ∈ r.given, g.isFinite = true := by
  refine record_yields (seq_yields (seq_yields (seq_yields
    (map_yields (field_yields (list_yields (entries_yields anything_yields)) nofun) ?_)
    (yields_any _)) (yields_any _)) (yields_any _))
  intro rows finite total _ page _ pageSize _ g member
  obtain ⟨row, h, inRow⟩ := List.mem_flatMap.mp member
  obtain ⟨kv, inEntries, rfl⟩ := List.mem_map.mp inRow
  exact finite row h kv inEntries

theorem actionReply_yields :
    ActionReply.codec.Yields fun r => ∀ g ∈ r.given, g.isFinite = true := by
  refine record_yields (seq_yields (seq_yields (map_yields (yields_any _) ?_) (yields_any _))
    (field_yields anything_yields rfl))
  intro success _ message _ data finite g member
  cases List.mem_singleton.mp member
  exact finite

theorem bundle_yields : Bundle.codec.Yields fun b => ∀ g ∈ b.given, g.isFinite = true := by
  refine record_yields (seq_yields (seq_yields (seq_yields (seq_yields
    (map_yields (yields_any _) ?_) (yields_any _)) (yields_any _))
    (field_yields (entries_yields queryReply_yields) nofun))
    (field_yields (entries_yields actionReply_yields) nofun))
  intro backend _ frontend _ mappings _ queries finiteRows actions finiteData g member
  rcases List.mem_append.mp member with inRows | inData
  · obtain ⟨kv, h, held⟩ := List.mem_flatMap.mp inRows
    exact finiteRows kv h g held
  · obtain ⟨kv, h, held⟩ := List.mem_flatMap.mp inData
    exact finiteData kv h g held

theorem model_yields (m : Model) : m.codec.Yields fun v => ∀ g ∈ m.given v, g.isFinite = true := by
  cases m with
  | queryReply => exact queryReply_yields
  | actionReply => exact actionReply_yields
  | bundle => exact bundle_yields
  | _ =>
    intro p v _ _
    nofun

end FeatureSpec
