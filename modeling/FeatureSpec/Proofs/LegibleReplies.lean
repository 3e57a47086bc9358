import FeatureSpec.Gateway.BundleFile
import FeatureSpec.Proofs.JsonReading
/-!
The replies of a bundle in a file can be written and read again: what is read of a legible payload
is legible where it is taken as it was given, and its integers have no more digits than are read.
-/
namespace FeatureSpec

open Payload Json

namespace Number.IntegerText

theorem plain_lt {cs : List Char} {n : Int} (h : plain? cs = some n) :
    n.natAbs < 10 ^ integerDigitLimit := by
  have unsigned (negative : Bool) {digits : List Char} (all : digits.all Char.isDigit = true)
      (few : digits.length ≤ limit) :
      (signed negative (natOfDigits digits)).natAbs < 10 ^ integerDigitLimit := by
    rw [Compile.natAbs_signed]
    exact Nat.lt_of_lt_of_le (natOfDigits_lt (List.all_eq_true.mp all))
      (Nat.pow_le_pow_right (by decide) few)
  unfold plain? at h
  split at h
  rename_i negative digits shape
  split at h
  · cases h
  · rename_i accepted
    cases h
    simp only [Bool.or_eq_true, decide_eq_true_eq, not_or, Bool.not_eq_true', Bool.not_eq_false]
      at accepted
    obtain ⟨⟨⟨few, -⟩, all⟩, -⟩ := accepted
    refine unsigned negative all ?_
    have shorter : digits.length ≤ cs.length := by
      split at shape <;> cases shape
      · exact Nat.le_succ _
      · exact Nat.le_refl _
    omega

theorem read_lt {s : String} {n : Int} (h : read s = .ok n) :
    n.natAbs < 10 ^ integerDigitLimit := by
  unfold read at h
  split at h
  · cases h
  · split at h
    · rename_i found
      cases h
      obtain ⟨_, -, plain⟩ := Option.bind_eq_some_iff.mp found
      exact plain_lt plain
    · cases h

end Number.IntegerText

namespace Payload

/-! ### Values as they were given -/

theorem keys_finiteMembers : ∀ members : List (String × Json),
    (finiteMembers members).map Prod.fst = members.map Prod.fst
  | [] => rfl
  | (k, _) :: rest => congrArg (k :: ·) (keys_finiteMembers rest)

mutual

theorem legible_finiteOnly : ∀ v : Json, v.Legible → (finiteOnly v).Legible
  | .null, _ => trivial
  | .bool _, _ => trivial
  | .int _, short => short
  | .float x, back => by
    unfold finiteOnly
    split
    · exact back
    · trivial
  | .string _, _ => trivial
  | .array items, legible => legible_finiteItems items legible
  | .object members, legible => by
    refine ⟨?_, legible_finiteMembers members legible.2⟩
    rw [keys_finiteMembers]
    exact legible.1

theorem legible_finiteItems : ∀ items : List Json, LegibleItems items →
    LegibleItems (finiteItems items)
  | [], _ => trivial
  | v :: rest, legible => ⟨legible_finiteOnly v legible.1, legible_finiteItems rest legible.2⟩

theorem legible_finiteMembers : ∀ members : List (String × Json), LegibleMembers members →
    LegibleMembers (finiteMembers members)
  | [], _ => trivial
  | (_, v) :: rest, legible =>
    ⟨legible_finiteOnly v legible.1, legible_finiteMembers rest legible.2⟩

end

/-! ### Codecs -/

variable {α β ρ : Type} {p : α → Prop} {codec : Codec α}

/-- Whatever the codec reads of a legible payload satisfies `p`. -/
def ReadsLegible (codec : Codec α) (p : α → Prop) : Prop :=
  ∀ v a, v.Legible → codec.decode v = .ok a → p a

theorem anything_reads : ReadsLegible .anything fun v => WritesLegibly .anything v := by
  rintro v _ legible ⟨⟩
  exact legible_finiteOnly v legible

theorem natAbs_lt_of_fitsWord {n : Int} (fits : fitsWord n = true) :
    n.natAbs < 10 ^ Number.integerDigitLimit := by
  have power : (2 : Nat) ^ 63 ≤ 10 ^ Number.integerDigitLimit :=
    Nat.le_trans (Nat.pow_le_pow_left (by decide) 63) (Nat.pow_le_pow_right (by decide) (by decide))
  have word : n.natAbs < 2 ^ 63 := by
    simp only [fitsWord, Bool.and_eq_true, decide_eq_true_eq] at fits
    have limit : Int.pow 2 63 = 2 ^ 63 := rfl
    omega
  exact Nat.lt_of_lt_of_le word power

theorem integer_reads :
    ReadsLegible .integer fun n => n.natAbs < 10 ^ Number.integerDigitLimit := by
  intro v n legible read
  have read : decodeInteger v = .ok n := read
  unfold decodeInteger at read
  split at read
  · cases read
    exact legible
  · cases read
    exact natAbs_lt_of_fitsWord (by split <;> decide)
  · split at read
    · cases read
    · split at read
      · split at read
        · rename_i fits
          cases read
          exact natAbs_lt_of_fitsWord fits
        · cases read
      · cases read
  · split at read
    · rename_i given
      cases read
      exact Number.IntegerText.read_lt given
    · cases read
    · cases read
  · cases read

theorem nullable_reads (h : ReadsLegible codec p) :
    ReadsLegible (.nullable codec) fun a? => ∀ a ∈ a?, p a := by
  intro v a? legible read
  unfold Codec.nullable at read
  dsimp only at read
  split at read
  · cases read
    exact nofun
  · obtain ⟨a, decoded, rfl⟩ := Checked.map_eq_ok read
    rintro _ ⟨⟩
    exact h v a legible decoded

theorem each_reads (h : ReadsLegible codec p) {items : List Json} (legible : LegibleItems items)
    {index : Nat} {as : List α} (read : Checked.each codec.decode index items = .ok as) :
    ∀ a ∈ as, p a := by
  induction items generalizing index as with
  | nil =>
    cases read
    exact nofun
  | cons v rest ih =>
    obtain ⟨make, more, first, later, rfl⟩ := Checked.both_eq_ok read
    obtain ⟨a, decoded, rfl⟩ := Checked.map_eq_ok first
    exact List.forall_mem_cons.mpr
      ⟨h v a legible.1 (Checked.under_eq_ok decoded), ih legible.2 later⟩

theorem list_reads (h : ReadsLegible codec p) :
    ReadsLegible (.list codec) fun as => ∀ a ∈ as, p a := by
  intro v as legible read
  cases v with
  | array items => exact each_reads h legible read
  | _ => cases read

theorem eachEntry_reads (h : ReadsLegible codec p) {members : List (String × Json)}
    (legible : LegibleMembers members) {m : Entries α}
    (read : Checked.eachEntry codec.decode members = .ok m) :
    m.keys = members.map Prod.fst ∧ ∀ kv ∈ m, p kv.2 := by
  induction members generalizing m with
  | nil =>
    cases read
    exact ⟨rfl, nofun⟩
  | cons e rest ih =>
    obtain ⟨k, v⟩ := e
    obtain ⟨make, more, first, later, rfl⟩ := Checked.both_eq_ok read
    obtain ⟨a, decoded, rfl⟩ := Checked.map_eq_ok first
    obtain ⟨keys, others⟩ := ih legible.2 later
    exact ⟨congrArg (k :: ·) keys, List.forall_mem_cons.mpr
      ⟨h v a legible.1 (Checked.under_eq_ok decoded), others⟩⟩

theorem entries_reads (h : ReadsLegible codec p) :
    ReadsLegible (.entries codec) fun m => m.keys.Nodup ∧ ∀ kv ∈ m, p kv.2 := by
  intro v m legible read
  cases v with
  | object members =>
    obtain ⟨keys, all⟩ := eachEntry_reads h legible.2 read
    exact ⟨keys ▸ legible.1, all⟩
  | _ => cases read

theorem legible_of_get? {members : Entries Json} (legible : LegibleMembers members)
    {key : String} {v : Json} (found : members.get? key = some v) : v.Legible :=
  (legibleMembers_iff members).mp legible _ (Entries.mem_of_get? found)

theorem field_reads {wire plain : String} {absent : α} {get : ρ → α} (h : ReadsLegible codec p)
    {members : Entries Json} (legible : LegibleMembers members) {a : α}
    (read : (Fields.field wire plain codec absent get).decode members = .ok a)
    (default : p absent) : p a := by
  have member {name : String} {v : Json}
      (found : Fields.find? members wire plain = some (name, v)) : v.Legible := by
    unfold Fields.find? at found
    split at found
    · rename_i named
      cases found
      exact legible_of_get? legible named
    · obtain ⟨w, named, same⟩ := Option.map_eq_some_iff.mp found
      cases same
      exact legible_of_get? legible named
  simp only [Fields.field] at read
  split at read
  · rename_i found
    exact h _ a (member found) (Checked.under_eq_ok read)
  · cases read
    exact default

end Payload

/-! ### Replies -/

theorem row_writes {row : Entries Json} (distinct : row.keys.Nodup)
    (legible : ∀ kv ∈ row, WritesLegibly .anything kv.2) :
    WritesLegibly (.entries .anything) row := by
  have keys : (row.map fun kv => (kv.1, finiteOnly kv.2)).map Prod.fst = row.keys := by
    rw [List.map_map]
    rfl
  refine ⟨keys ▸ distinct, (legibleMembers_iff _).mpr fun kv member => ?_⟩
  obtain ⟨given, among, rfl⟩ := List.mem_map.mp member
  exact legible given among

theorem queryReply_writes {r : QueryReply}
    (rows : ∀ row ∈ r.data, WritesLegibly (.entries .anything) row)
    (total : WritesLegibly .integer r.total) (page : Readable r.page)
    (pageSize : Readable r.pageSize) : WritesLegibly QueryReply.codec r :=
  record_writes
    ((writes_field (list_writes rows)).map _
      |>.seq (writes_field total)
      |>.seq (writes_field (optional_integer_writes page))
      |>.seq (writes_field (optional_integer_writes pageSize)))
    (by decide)

theorem rows_read :
    ReadsLegible (.list (.entries .anything))
      fun rows => ∀ row ∈ rows, WritesLegibly (.entries .anything) row := by
  refine list_reads fun v row legible read => ?_
  obtain ⟨distinct, all⟩ := entries_reads anything_reads v row legible read
  exact row_writes distinct all

theorem queryReply_reads : ReadsLegible QueryReply.codec (WritesLegibly QueryReply.codec) := by
  intro v r legible read
  cases v with
  | object members =>
    obtain ⟨_, pageSize, first₃, sized, rfl⟩ := Checked.both_eq_ok read
    obtain ⟨_, page, first₂, paged, rfl⟩ := Checked.both_eq_ok first₃
    obtain ⟨_, total, first₁, counted, rfl⟩ := Checked.both_eq_ok first₂
    obtain ⟨data, rows, rfl⟩ := Checked.map_eq_ok first₁
    exact queryReply_writes (field_reads rows_read legible.2 rows nofun)
      (field_reads integer_reads legible.2 counted (natAbs_lt_of_fitsWord rfl))
      (field_reads (nullable_reads integer_reads) legible.2 paged nofun)
      (field_reads (nullable_reads integer_reads) legible.2 sized nofun)
  | _ => cases read

theorem bundle_reads :
    ReadsLegible Bundle.codec fun b => ∀ q ∈ b.queries, WritesLegibly QueryReply.codec q.2 := by
  intro v b legible read
  cases v with
  | object members =>
    obtain ⟨_, actions, first₄, -, rfl⟩ := Checked.both_eq_ok read
    obtain ⟨_, queries, first₃, canned, rfl⟩ := Checked.both_eq_ok first₄
    obtain ⟨_, mappings, first₂, -, rfl⟩ := Checked.both_eq_ok first₃
    obtain ⟨_, frontend, first₁, -, rfl⟩ := Checked.both_eq_ok first₂
    obtain ⟨backend, -, rfl⟩ := Checked.map_eq_ok first₁
    exact (field_reads (entries_reads queryReply_reads) legible.2 canned
      ⟨List.nodup_nil, nofun⟩).2
  | _ => cases read

end FeatureSpec
