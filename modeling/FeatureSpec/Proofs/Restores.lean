import FeatureSpec.Payload.Fields
import FeatureSpec.Proofs.FirstOccurrences
/-!
Values that survive their codec: what is written of them reads back as the same value. A codec of
parts does so as far as the codecs of the parts do.
-/
namespace FeatureSpec.Payload

variable {α β ρ : Type}

/-- What the codec writes of a value, it reads as that value. -/
def Restores (codec : Codec α) (a : α) : Prop := codec.decode (codec.encode a) = .ok a

/-- Every choice is found by its word. -/
class LawfulChoice (α : Type) [Choice α] : Prop where
  ofWord_word : ∀ a : α, Choice.ofWord? (Choice.word a) = some a

theorem text_restores (s : String) : Restores .text s := rfl

theorem flag_restores (b : Bool) : Restores .flag b := rfl

theorem integer_restores (n : Int) : Restores .integer n := rfl

theorem choice_restores [Choice α] [LawfulChoice α] (a : α) : Restores .choice a := by
  unfold Restores
  simp only [Codec.choice, LawfulChoice.ofWord_word]

/-- Null stands for no value, so no value may be written as null. -/
theorem nullable_restores {codec : Codec α} {a? : Option α}
    (present : ∀ a, a? = some a → codec.encode a ≠ .null ∧ Restores codec a) :
    Restores (.nullable codec) a? := by
  cases a? with
  | none => rfl
  | some a =>
    obtain ⟨written, restored⟩ := present a rfl
    unfold Restores at restored ⊢
    show (Codec.nullable codec).decode (codec.encode a) = .ok (some a)
    generalize codec.encode a = v at written restored
    cases v with
    | null => exact absurd rfl written
    | _ =>
      show Except.map some (codec.decode _) = .ok (some a)
      rw [restored]
      rfl

theorem each_restores {codec : Codec α} {items : List α}
    (h : ∀ a ∈ items, Restores codec a) (index : Nat) :
    Checked.each codec.decode index (items.map codec.encode) = .ok items := by
  induction items generalizing index with
  | nil => rfl
  | cons a rest ih =>
    have first : codec.decode (codec.encode a) = .ok a := h a (.head _)
    have others := ih (fun b later => h b (.tail _ later)) (index + 1)
    rw [List.map_cons, Checked.each, first, others]
    rfl

theorem list_restores {codec : Codec α} {items : List α} (h : ∀ a ∈ items, Restores codec a) :
    Restores (.list codec) items := each_restores h 0

theorem eachEntry_restores {codec : Codec α} {m : Entries α}
    (h : ∀ kv ∈ m, Restores codec kv.2) :
    Checked.eachEntry codec.decode (m.map fun kv => (kv.1, codec.encode kv.2)) = .ok m := by
  induction m with
  | nil => rfl
  | cons kv rest ih =>
    have first : codec.decode (codec.encode kv.2) = .ok kv.2 := h kv (.head _)
    have others := ih fun e later => h e (.tail _ later)
    rw [List.map_cons, Checked.eachEntry, first, others]
    rfl

theorem entries_restores {codec : Codec α} {m : Entries α} (h : ∀ kv ∈ m, Restores codec kv.2) :
    Restores (.entries codec) m := eachEntry_restores h

mutual

theorem finiteOnly_eq : ∀ v : Json, v.isFinite = true → finiteOnly v = v
  | .null, _ | .bool _, _ | .int _, _ | .string _, _ => rfl
  | .float _, finite => if_pos finite
  | .array items, finite => congrArg Json.array (finiteItems_eq items finite)
  | .object members, finite => congrArg Json.object (finiteMembers_eq members finite)

theorem finiteItems_eq : ∀ items : List Json, Json.areFinite items = true →
    finiteItems items = items
  | [], _ => rfl
  | v :: rest, finite => by
    obtain ⟨first, others⟩ := Bool.and_eq_true_iff.mp finite
    rw [finiteItems, finiteOnly_eq v first, finiteItems_eq rest others]

theorem finiteMembers_eq : ∀ members : List (String × Json),
    Json.memberValuesFinite members = true → finiteMembers members = members
  | [], _ => rfl
  | (k, v) :: rest, finite => by
    obtain ⟨first, others⟩ := Bool.and_eq_true_iff.mp finite
    rw [finiteMembers, finiteOnly_eq v first, finiteMembers_eq rest others]

end

theorem anything_restores {v : Json} (finite : v.isFinite = true) : Restores .anything v :=
  congrArg Except.ok (finiteOnly_eq v finite)

/-- Some fields that are written of a record under these names, and read as `a` from whatever has
those members. -/
structure Reads (fields : Fields ρ α) (names : List String) (r : ρ) (a : α) : Prop where
  named : (fields.encode r).map Prod.fst = names
  decoded : ∀ members : Entries Json,
    (∀ kv ∈ fields.encode r, members.get? kv.1 = some kv.2) → fields.decode members = .ok a

theorem find_of_get {members : Entries Json} {wire plain : String} {v : Json}
    (h : members.get? wire = some v) : Fields.find? members wire plain = some (wire, v) := by
  rw [Fields.find?, h]

theorem reads_field {wire plain : String} {codec : Codec α} {absent : α} {get : ρ → α} {r : ρ}
    (h : Restores codec (get r)) :
    Reads (.field wire plain codec absent get) [wire] r (get r) := by
  refine ⟨rfl, fun members written => ?_⟩
  have given := written (wire, codec.encode (get r)) (.head _)
  have restored : codec.decode (codec.encode (get r)) = .ok (get r) := h
  simp only [Fields.field, find_of_get given, restored, Checked.under]

theorem reads_mandatory {wire plain : String} {codec : Codec α} {get : ρ → α} {r : ρ}
    (h : Restores codec (get r)) : Reads (.mandatory wire plain codec get) [wire] r (get r) := by
  refine ⟨rfl, fun members written => ?_⟩
  have given := written (wire, codec.encode (get r)) (.head _)
  have restored : codec.decode (codec.encode (get r)) = .ok (get r) := h
  simp only [Fields.mandatory, find_of_get given, restored, Checked.under]

theorem Reads.map {fields : Fields ρ α} {names : List String} {r : ρ} {a : α} (f : α → β)
    (h : Reads fields names r a) : Reads (f <$> fields) names r (f a) := by
  refine ⟨h.named, fun members written => ?_⟩
  show (fields.decode members).map f = .ok (f a)
  rw [h.decoded members written]
  rfl

theorem Reads.seq {first : Fields ρ (α → β)} {second : Fields ρ α} {names more : List String}
    {r : ρ} {f : α → β} {a : α} (hf : Reads first names r f) (ha : Reads second more r a) :
    Reads (first <*> second) (names ++ more) r (f a) := by
  refine ⟨?named, fun members written => ?decoded⟩
  case named =>
    show (first.encode r ++ second.encode r).map Prod.fst = names ++ more
    rw [List.map_append, hf.named, ha.named]
  case decoded =>
    have one := hf.decoded members fun kv h => written kv (List.mem_append_left _ h)
    have two := ha.decoded members fun kv h => written kv (List.mem_append_right _ h)
    show Checked.both (first.decode members) (second.decode members) = .ok (f a)
    rw [one, two]
    rfl

/-- No name is written twice, so each field reads what was written of it. -/
theorem record_restores {title : String} {fields : Fields ρ ρ} {names : List String} {r s : ρ}
    (reads : Reads fields names r s) (same : s = r) (distinct : names.Nodup) :
    Restores (.record title fields) r := by
  rw [same] at reads
  have keys : (Entries.keys (fields.encode r)).Nodup := by
    rw [Entries.keys, reads.named]
    exact distinct
  exact reads.decoded (fields.encode r) fun _ written => (Entries.get?_eq_some_iff keys).mpr written

theorem nullable_record_restores {title : String} {fields : Fields ρ ρ} {r? : Option ρ}
    (h : ∀ r, Restores (.record title fields) r) :
    Restores (.nullable (.record title fields)) r? :=
  nullable_restores fun r _ => ⟨nofun, h r⟩

end FeatureSpec.Payload
