import FeatureSpec.Model.Wire
import FeatureSpec.Proofs.FirstOccurrences
/-!
The two names of a field: the one on the wire, and the plain name that may stand in its place.
A payload is respelled by calling fields by their plain names wherever records stand in it. Each
field is then found where it was found before, under the name that it has now.
-/
namespace FeatureSpec

open Payload

/-- What is read at a place of a payload. Mappings may be a bare list in place of their record. -/
inductive Part where
  | plain
  | model (m : Model)
  | list (part : Part)
  | entries (part : Part)
  | mappings
  deriving DecidableEq, Repr

/-- The names of a field, and what its value is read as. -/
structure Naming where
  wire : String
  plain : String
  part : Part
  deriving DecidableEq, Repr

namespace Naming

def single (name : String) : Naming := ⟨name, name, .plain⟩

def aliased (wire plain : String) : Naming := ⟨wire, plain, .plain⟩

def isCalled (n : Naming) (key : String) : Bool := n.wire = key || n.plain = key

end Naming

namespace Model

open Naming

def names : Model → List Naming
  | .feature =>
    [single "name", single "version", ⟨"backend", "backend", .model .backend⟩,
      ⟨"frontend", "frontend", .model .frontend⟩,
      ⟨"mappings", "mappings", .list (.model .mapping)⟩]
  | .backend =>
    [⟨"queries", "queries", .list (.model .query)⟩,
      ⟨"actionQueries", "action_queries", .list (.model .actionQuery)⟩]
  | .query | .actionQuery | .listQuery =>
    [single "id", aliased "type" "kind", single "description", single "sql",
      ⟨"parameters", "parameters", .list (.model .parameter)⟩]
  | .parameter => [single "name", single "type", single "required", single "validation"]
  | .frontend =>
    [⟨"dataTables", "data_tables", .list (.model .dataTable)⟩,
      ⟨"forms", "forms", .list (.model .form)⟩]
  | .frontendReply =>
    [⟨"dataTables", "data_tables", .list (.model .dataTable)⟩,
      ⟨"forms", "forms", .list (.model .form)⟩, single "feature", single "version"]
  | .dataTable =>
    [single "id", aliased "queryRef" "query_ref", single "title", single "description",
      single "pagination", aliased "pageSize" "page_size", single "sortable", single "filterable",
      single "searchable", ⟨"columns", "columns", .list (.model .column)⟩,
      aliased "formActions" "form_actions"]
  | .column =>
    [single "name", single "label", single "type", single "sortable", single "filterable",
      single "width", single "format", single "align"]
  | .form =>
    [single "id", single "mode", single "title", single "description", single "dialog",
      aliased "actionRef" "action_ref", aliased "queryRef" "query_ref",
      ⟨"fields", "fields", .list (.model .field)⟩, ⟨"buttons", "buttons", .list (.model .button)⟩,
      ⟨"messages", "messages", .list (.model .message)⟩]
  | .field =>
    [single "name", single "label", aliased "dataType" "data_type", single "required",
      single "readonly", single "disabled", single "placeholder",
      aliased "helperText" "helper_text", ⟨"options", "options", .list (.model .mappingOption)⟩,
      single "validation", single "format", aliased "defaultValue" "default_value", single "rows"]
  | .button =>
    [single "id", single "type", single "label", single "style", single "disabled",
      aliased "actionRef" "action_ref"]
  | .message => [single "type", single "content", single "visible"]
  | .mapping =>
    [single "name", aliased "dataType" "data_type", single "label",
      ⟨"listQuery", "list_query", .model .listQuery⟩,
      ⟨"options", "options", .model .mappingOptions⟩, single "required", single "disabled",
      single "readonly", single "placeholder", aliased "helperText" "helper_text", single "rows"]
  | .mappingOptions => [⟨"items", "items", .list (.model .mappingOption)⟩]
  | .mappingOption => [single "label", single "value"]
  | .mappingsReply =>
    [single "feature", single "version", aliased "resolvedCount" "resolved_count",
      ⟨"mappings", "mappings", .list (.model .mapping)⟩]
  | .queryReply => [single "data", single "total", single "page", aliased "pageSize" "page_size"]
  | .actionReply => [single "success", single "message", single "data"]
  | .checksum => [single "feature", single "checksum", single "algorithm"]
  | .bundle =>
    [⟨"backEnd", "backend", .model .backend⟩, ⟨"frontEnd", "frontend", .model .frontendReply⟩,
      ⟨"mappings", "mappings", .mappings⟩, ⟨"queries", "queries", .entries (.model .queryReply)⟩,
      ⟨"actionQueries", "actions", .entries (.model .actionReply)⟩]

def named? (m : Model) (key : String) : Option Naming := m.names.find? fun n => n.isCalled key

def part (m : Model) (key : String) : Part := ((m.named? key).map Naming.part).getD .plain

theorem names_apart (m : Model) : ∀ n ∈ m.names, ∀ n' ∈ m.names,
    n.isCalled n'.wire = true ∨ n.isCalled n'.plain = true → n = n' := by
  cases m <;> decide

theorem named?_of_called {m : Model} {n : Naming} (member : n ∈ m.names) {key : String}
    (called : n.isCalled key = true) : m.named? key = some n := by
  rcases found : m.named? key with _ | n'
  · rw [named?, List.find?_eq_none] at found
    exact absurd called (found n member)
  · have member' := List.mem_of_find?_eq_some found
    have called' : n'.isCalled key = true := by simpa using List.find?_some found
    have shared : n'.isCalled n.wire = true ∨ n'.isCalled n.plain = true := by
      simp only [Naming.isCalled, Bool.or_eq_true, decide_eq_true_eq] at called called' ⊢
      rcases called with rfl | rfl
      · exact .inl called'
      · exact .inr called'
    rw [names_apart m n' member' n member shared]

theorem called_of_named? {m : Model} {n : Naming} {key : String} (h : m.named? key = some n) :
    n ∈ m.names ∧ (n.wire = key ∨ n.plain = key) := by
  refine ⟨List.mem_of_find?_eq_some h, ?_⟩
  have called := List.find?_some h
  simpa [Naming.isCalled] using called

end Model

/-- How a payload is respelled, by the places in it. -/
structure Renaming where
  /-- The members under a wire name that are called by the plain name, unless the same object has
  a member of the plain name already. -/
  renames : List Step → Bool
  /-- What becomes of a member under a plain name that stands beside one under the wire name: it
  holds another value, or is left out. -/
  shadowed : List Step → Json → Option Json

namespace Renaming

def below (r : Renaming) (s : Step) : Renaming where
  renames path := r.renames (s :: path)
  shadowed path := r.shadowed (s :: path)

def spelled (r : Renaming) (m : Model) (members : Entries Json) (key : String) : String :=
  match m.named? key with
  | some n =>
    if n.wire = key ∧ !members.contains n.plain ∧ r.renames [.key key] then n.plain else key
  | none => key

def isShadowed (m : Model) (members : Entries Json) (key : String) : Bool :=
  match m.named? key with
  | some n => n.wire ≠ key && members.contains n.wire
  | none => false

/-- What becomes of a member; `w` is its value respelled. -/
def member (r : Renaming) (m : Model) (members : Entries Json) (key : String) (v w : Json) :
    Option (String × Json) :=
  if isShadowed m members key then (r.shadowed [.key key] v).map fun other => (key, other)
  else some (r.spelled m members key, w)

mutual

def apply : Renaming → Part → Json → Json
  | r, .model m, .object members => .object (applyMembers r m members members)
  | r, .list part, .array items => .array (applyItems r part 0 items)
  | r, .entries part, .object members => .object (applyEntries r part members)
  -- A bare list is read as the mappings of a reply, so its places begin with their key.
  | r, .mappings, .array items =>
    .array (applyItems (r.below (.key "mappings")) (.model .mapping) 0 items)
  | r, .mappings, .object members => .object (applyMembers r .mappingsReply members members)
  | _, _, v => v

def applyItems : Renaming → Part → Nat → List Json → List Json
  | _, _, _, [] => []
  | r, part, index, v :: rest =>
    apply (r.below (.item index)) part v :: applyItems r part (index + 1) rest

def applyEntries : Renaming → Part → List (String × Json) → List (String × Json)
  | _, _, [] => []
  | r, part, (key, v) :: rest =>
    (key, apply (r.below (.key key)) part v) :: applyEntries r part rest

def applyMembers : Renaming → Model → Entries Json → List (String × Json) → List (String × Json)
  | _, _, _, [] => []
  | r, m, members, (key, v) :: rest =>
    (r.member m members key v (apply (r.below (.key key)) (m.part key) v)).toList ++
      applyMembers r m members rest

end

variable {r : Renaming} {m : Model} {members : Entries Json} {n : Naming}

theorem apply_plain (r : Renaming) (v : Json) : apply r .plain v = v := by cases v <;> rfl

theorem mem_keys_iff {key : String} : key ∈ members.keys ↔ members.contains key = true := by
  exact (Entries.isSome_get? members key).symm

/-- A member keeps its key, or it is called by the plain name of its field, which is free. -/
theorem member_fst {key : String} {v w : Json} {e : String × Json}
    (h : r.member m members key v w = some e) :
    e.1 = key ∨ ∃ n ∈ m.names, n.wire = key ∧ members.contains n.plain = false ∧ e.1 = n.plain := by
  unfold member at h
  split at h
  · rw [Option.map_eq_some_iff] at h
    obtain ⟨other, -, rfl⟩ := h
    exact .inl rfl
  · obtain rfl := Option.some.inj h
    unfold spelled
    split
    · rename_i n found
      obtain ⟨named, -⟩ := Model.called_of_named? found
      split
      · rename_i renamed
        exact .inr ⟨n, named, renamed.1, by simpa using renamed.2.1, rfl⟩
      · exact .inl rfl
    · exact .inl rfl

/-- Only the field's own members come to stand under its names. -/
theorem key_of_member (named : n ∈ m.names) {key : String} {v w : Json} {e : String × Json}
    (h : r.member m members key v w = some e) (called : e.1 = n.wire ∨ e.1 = n.plain) :
    e.1 = key ∨ (key = n.wire ∧ members.contains n.plain = false ∧ e.1 = n.plain) := by
  rcases member_fst h with kept | ⟨n', named', wire, free, renamed⟩
  · exact .inl kept
  · have shared : n'.isCalled n.wire = true ∨ n'.isCalled n.plain = true := by
      rw [renamed] at called
      simp only [Naming.isCalled, Bool.or_eq_true, decide_eq_true_eq]
      tauto
    obtain rfl := Model.names_apart m n' named' n named shared
    exact .inr ⟨wire.symm, free, renamed⟩

theorem named?_wire (named : n ∈ m.names) : m.named? n.wire = some n :=
  Model.named?_of_called named (by simp [Naming.isCalled])

theorem named?_plain (named : n ∈ m.names) : m.named? n.plain = some n :=
  Model.named?_of_called named (by simp [Naming.isCalled])

theorem spelled_wire (named : n ∈ m.names) : r.spelled m members n.wire =
    if members.contains n.plain = false ∧ r.renames [.key n.wire] = true then n.plain
    else n.wire := by
  rw [spelled, named?_wire named]
  simp

theorem isShadowed_wire (named : n ∈ m.names) : isShadowed m members n.wire = false := by
  rw [isShadowed, named?_wire named]
  simp

theorem isShadowed_plain (named : n ∈ m.names) (absent : members.contains n.wire = false) :
    isShadowed m members n.plain = false := by
  rw [isShadowed, named?_plain named]
  simp [absent]

theorem spelled_plain (named : n ∈ m.names) : r.spelled m members n.plain = n.plain := by
  rw [spelled, named?_plain named]
  dsimp only
  split <;> rfl

/-- A look-up finds the member that comes to stand under a name. -/
theorem get?_applyMembers {source target : String} {ms : Entries Json}
    (hit : ∀ v w, r.member m members source v w = some (target, w))
    (miss : ∀ key ∈ ms.keys, ∀ v w e, r.member m members key v w = some e →
      e.1 = target → key = source) :
    Entries.get? (applyMembers r m members ms) target =
      (ms.get? source).map (apply (r.below (.key source)) (m.part source)) := by
  -- The members that are left shrink, while the spelling goes by all members.
  induction ms with
  | nil => rfl
  | cons first rest ih =>
    obtain ⟨key, v⟩ := first
    have later := ih fun k member => miss k (List.mem_cons_of_mem key member)
    rw [applyMembers]
    by_cases same : key = source
    · subst same
      rw [hit]
      simp [Entries.get?]
    · have skipped : Entries.get? ((key, v) :: rest) source = Entries.get? rest source := by
        simp [Entries.get?, same]
      rw [skipped, ← later]
      rcases told : r.member m members key v (apply (r.below (.key key)) (m.part key) v) with _ | e
      · rfl
      · have other : e.1 ≠ target := by
          intro found
          exact same (miss key List.mem_cons_self _ _ _ told found)
        simp [Entries.get?, other]

theorem get?_applyMembers_none {target : String} {ms : Entries Json}
    (miss : ∀ key ∈ ms.keys, ∀ v w e, r.member m members key v w = some e → e.1 ≠ target) :
    Entries.get? (applyMembers r m members ms) target = none := by
  induction ms with
  | nil => rfl
  | cons first rest ih =>
    obtain ⟨key, v⟩ := first
    have later := ih fun k member => miss k (List.mem_cons_of_mem key member)
    rw [applyMembers]
    rcases told : r.member m members key v (apply (r.below (.key key)) (m.part key) v) with _ | e
    · exact later
    · have other : e.1 ≠ target := miss key List.mem_cons_self _ _ _ told
      simpa [Entries.get?, other] using later

theorem part_wire (named : n ∈ m.names) : m.part n.wire = n.part := by
  rw [Model.part, named?_wire named]
  rfl

theorem part_plain (named : n ∈ m.names) : m.part n.plain = n.part := by
  rw [Model.part, named?_plain named]
  rfl

theorem contains_of_get? {key : String} {v : Json} (h : members.get? key = some v) :
    members.contains key = true := by
  rw [Entries.contains, h]
  rfl

theorem get?_of_plain (named : n ∈ m.names) (absent : members.contains n.wire = false) :
    Entries.get? (applyMembers r m members members) n.wire = none ∧
      Entries.get? (applyMembers r m members members) n.plain =
        (members.get? n.plain).map (apply (r.below (.key n.plain)) n.part) := by
  have unnamed : ∀ key ∈ members.keys, key ≠ n.wire := by
    rintro key member rfl
    rw [mem_keys_iff, absent] at member
    cases member
  constructor
  · apply get?_applyMembers_none
    intro key member v w e told found
    rcases key_of_member named told (.inl found) with kept | ⟨wire, -⟩
    · exact unnamed key member (kept.symm.trans found)
    · exact unnamed key member wire
  · rw [← part_plain named]
    apply get?_applyMembers
    · intro v w
      rw [member, isShadowed_plain named absent, spelled_plain named]
      rfl
    · intro key member v w e told found
      rcases key_of_member named told (.inr found) with kept | ⟨wire, -⟩
      · exact kept.symm.trans found
      · exact absurd wire (unnamed key member)

theorem get?_of_wire (named : n ∈ m.names) (kept : r.spelled m members n.wire = n.wire) :
    Entries.get? (applyMembers r m members members) n.wire =
      (members.get? n.wire).map (apply (r.below (.key n.wire)) n.part) := by
  rw [← part_wire named]
  apply get?_applyMembers
  · intro v w
    rw [member, isShadowed_wire named, kept]
    rfl
  · intro key member v w e told found
    rcases key_of_member named told (.inl found) with same | ⟨wire, -⟩
    · exact same.symm.trans found
    · exact wire

theorem get?_of_renamed (named : n ∈ m.names) (given : members.contains n.wire = true)
    (free : members.contains n.plain = false) (renamed : r.spelled m members n.wire = n.plain) :
    Entries.get? (applyMembers r m members members) n.wire = none ∧
      Entries.get? (applyMembers r m members members) n.plain =
        (members.get? n.wire).map (apply (r.below (.key n.wire)) n.part) := by
  have differ : n.plain ≠ n.wire := by
    intro same
    rw [same, given] at free
    cases free
  have hit : ∀ v w, r.member m members n.wire v w = some (n.plain, w) := by
    intro v w
    rw [member, isShadowed_wire named, renamed]
    rfl
  constructor
  · apply get?_applyMembers_none
    intro key member v w e told found
    rcases key_of_member named told (.inl found) with kept | ⟨-, -, plain⟩
    · obtain rfl : key = n.wire := kept.symm.trans found
      rw [hit] at told
      exact differ (by rw [← found, ← Option.some.inj told])
    · exact differ (plain.symm.trans found)
  · rw [← part_wire named]
    apply get?_applyMembers hit
    intro key member v w e told found
    rcases key_of_member named told (.inr found) with kept | ⟨wire, -⟩
    · obtain rfl : key = n.plain := kept.symm.trans found
      rw [mem_keys_iff, free] at member
      cases member
    · exact wire

/-- Respelled, a field is found in the same member, under the name that it has now. -/
theorem find?_applyMembers (named : n ∈ m.names) (members : Entries Json) :
    Fields.find? (applyMembers r m members members) n.wire n.plain =
      (Fields.find? members n.wire n.plain).map fun kv =>
        (r.spelled m members kv.1, apply (r.below (.key kv.1)) n.part kv.2) := by
  unfold Fields.find?
  -- The plain name counts only where the wire name is not given.
  rcases wire : members.get? n.wire with _ | v
  · have absent : members.contains n.wire = false := by
      rw [Entries.contains, wire]
      rfl
    obtain ⟨gone, plain⟩ := get?_of_plain (r := r) named absent
    rw [gone, plain]
    cases members.get? n.plain <;> simp [spelled_plain named]
  · have spelling := @spelled_wire r m members n named
    split at spelling
    case isTrue renames =>
      obtain ⟨gone, plain⟩ := get?_of_renamed named (contains_of_get? wire) renames.1 spelling
      rw [gone, plain, wire]
      simp [spelling]
    case isFalse =>
      rw [get?_of_wire named spelling, wire]
      simp [spelling]

end Renaming
end FeatureSpec
