import FeatureSpec.Proofs.WireNames
/-!
Wire names and plain names are interchangeable: a payload and its respelling are read as the same
value, or have the same faults in the same order, each at the place that has become of its place.
A codec of parts does so as far as the codecs of the parts do.
-/
namespace FeatureSpec

open Payload

namespace Renaming

/-- What becomes of a place: a key is told by the name that it has now. -/
inductive Moved : Renaming → Part → Json → List Step → List Step → Prop
  | whole {r part v} : Moved r part v [] []
  | plain {r v path} : Moved r .plain v path path
  | missing {r m members key} (absent : Entries.get? members key = none) :
    Moved r (.model m) (.object members) [.key key] [.key key]
  | member {r m members key v path path'} (given : Entries.get? members key = some v)
    (inner : Moved (r.below (.key key)) (m.part key) v path path') :
    Moved r (.model m) (.object members) (.key key :: path)
      (.key (r.spelled m members key) :: path')
  | item {r part items index v path path'} (given : items[index]? = some v)
    (inner : Moved (r.below (.item index)) part v path path') :
    Moved r (.list part) (.array items) (.item index :: path) (.item index :: path')
  | entry {r part members key v path path'} (given : (key, v) ∈ members)
    (inner : Moved (r.below (.key key)) part v path path') :
    Moved r (.entries part) (.object members) (.key key :: path) (.key key :: path')
  | reply {r members path path'}
    (inner : Moved r (.model .mappingsReply) (.object members) path path') :
    Moved r .mappings (.object members) path path'
  | bare {r items path path'}
    (inner : Moved (r.below (.key "mappings")) (.list (.model .mapping)) (.array items) path
      path') :
    Moved r .mappings (.array items) (.key "mappings" :: path) (.key "mappings" :: path')

end Renaming

open Renaming

variable {α β ρ : Type}

/-- The same value, or the same faults in the same order, but for their places. -/
inductive Agrees (moved : List Step → List Step → Prop) : Checked α → Checked α → Prop
  | value (a : α) : Agrees moved (.ok a) (.ok a)
  | faults {fs gs : List Fault}
    (same : List.Forall₂ (fun f g => moved f.path g.path ∧ g.kind = f.kind) fs gs) :
    Agrees moved (.error fs) (.error gs)

namespace Agrees

variable {moved moved' : List Step → List Step → Prop}

theorem fault {kind : FaultKind} {v w : Json} (h : moved [] []) :
    Agrees (α := α) moved (Checked.fault kind v) (Checked.fault kind w) :=
  .faults (.cons ⟨h, rfl⟩ .nil)

theorem refl (h : ∀ path, moved path path) (x : Checked α) : Agrees moved x x := by
  cases x with
  | ok a => exact .value a
  | error fs => exact .faults (List.forall₂_same.mpr fun f _ => ⟨h f.path, rfl⟩)

theorem mono {x y : Checked α} (h : Agrees moved x y)
    (imp : ∀ path path', moved path path' → moved' path path') : Agrees moved' x y := by
  cases h with
  | value a => exact .value a
  | faults same => exact .faults (same.imp fun _ _ told => ⟨imp _ _ told.1, told.2⟩)

theorem under {x y : Checked α} {s s' : Step} (h : Agrees moved x y)
    (step : ∀ path path', moved path path' → moved' (s :: path) (s' :: path')) :
    Agrees moved' (Checked.under s x) (Checked.under s' y) := by
  cases h with
  | value a => exact .value a
  | faults same =>
    refine .faults ?_
    rw [List.forall₂_map_left_iff, List.forall₂_map_right_iff]
    exact same.imp fun _ _ told => ⟨step _ _ told.1, told.2⟩

theorem map {x y : Checked α} (f : α → β) (h : Agrees moved x y) :
    Agrees moved (x.map f) (y.map f) := by
  cases h with
  | value a => exact .value (f a)
  | faults same => exact .faults same

theorem both {f g : Checked (α → β)} {x y : Checked α} (hf : Agrees moved f g)
    (hx : Agrees moved x y) : Agrees moved (Checked.both f x) (Checked.both g y) := by
  cases hf with
  | value f =>
    cases hx with
    | value a => exact .value (f a)
    | faults same => exact .faults same
  | faults first =>
    cases hx with
    | value a => exact .faults first
    | faults same => exact .faults (List.rel_append first same)

end Agrees

/-- A codec that does not tell a payload from its respelling. -/
def Tolerates (part : Part) (codec : Codec α) : Prop :=
  ∀ (r : Renaming) (v : Json),
    Agrees (r.Moved part v) (codec.decode v) (codec.decode (r.apply part v))

theorem tolerates_plain (codec : Codec α) : Tolerates .plain codec := by
  intro r v
  rw [apply_plain]
  exact .refl (fun _ => .plain) _

theorem apply_null (r : Renaming) (part : Part) : r.apply part .null = .null := by
  cases part <;> rfl

theorem apply_ne_null {r : Renaming} {part : Part} {v : Json} (h : v ≠ .null) :
    r.apply part v ≠ .null := by
  cases part <;> cases v <;> simp_all [apply]

theorem nullable_decode {codec : Codec α} {v : Json} (h : v ≠ .null) :
    (Codec.nullable codec).decode v = (codec.decode v).map some := by
  cases v with
  | null => exact absurd rfl h
  | _ => rfl

theorem nullable_tolerates {part : Part} {codec : Codec α} (h : Tolerates part codec) :
    Tolerates part (.nullable codec) := by
  intro r v
  by_cases null : v = .null
  · subst null
    rw [apply_null]
    exact .value none
  · rw [nullable_decode null, nullable_decode (apply_ne_null null)]
    exact (h r v).map some

theorem each_agrees {part : Part} {codec : Codec α} (h : Tolerates part codec) (r : Renaming)
    (all items : List Json) (index : Nat) (rest : all.drop index = items) :
    Agrees (r.Moved (.list part) (.array all)) (Checked.each codec.decode index items)
      (Checked.each codec.decode index (applyItems r part index items)) := by
  -- The items that are left are those from the index on, so the index of a fault tells its item.
  induction items generalizing index with
  | nil => exact .value []
  | cons v items ih =>
    have given : all[index]? = some v := by
      rw [← List.head?_drop, rest]
      rfl
    have later : all.drop (index + 1) = items := by
      rw [← List.drop_drop, rest]
      rfl
    rw [applyItems]
    apply Agrees.both
    · apply Agrees.map
      exact (h (r.below (.item index)) v).under fun _ _ inner => .item given inner
    · exact ih (index + 1) later

theorem list_tolerates {part : Part} {codec : Codec α} (h : Tolerates part codec) :
    Tolerates (.list part) (.list codec) := by
  intro r v
  cases v with
  | array items => exact each_agrees h r items items 0 rfl
  | _ => exact .fault .whole

theorem eachEntry_agrees {part : Part} {codec : Codec α} (h : Tolerates part codec) (r : Renaming)
    (all ms : List (String × Json)) (among : ms ⊆ all) :
    Agrees (r.Moved (.entries part) (.object all)) (Checked.eachEntry codec.decode ms)
      (Checked.eachEntry codec.decode (applyEntries r part ms)) := by
  -- Keys may occur more than once, so an entry is told by its value as well as by its key.
  induction ms with
  | nil => exact .value []
  | cons e ms ih =>
    obtain ⟨key, v⟩ := e
    obtain ⟨given, others⟩ := List.cons_subset.mp among
    rw [applyEntries]
    apply Agrees.both
    · apply Agrees.map
      exact (h (r.below (.key key)) v).under fun _ _ inner => .entry given inner
    · exact ih others

theorem entries_tolerates {part : Part} {codec : Codec α} (h : Tolerates part codec) :
    Tolerates (.entries part) (.entries codec) := by
  intro r v
  cases v with
  | object members => exact eachEntry_agrees h r members members (List.Subset.refl members)
  | _ => exact .fault .whole

/-- Some fields that are read alike from the members of a record and from these respelled, as far
as the record has these names. -/
def Spells (fields : Fields ρ α) (names : List Naming) : Prop :=
  ∀ (r : Renaming) (m : Model) (members : Entries Json), names ⊆ m.names →
    Agrees (r.Moved (.model m) (.object members)) (fields.decode members)
      (fields.decode (applyMembers r m members members))

theorem get?_of_find? {m : Model} {n : Naming} (named : n ∈ m.names) {members : Entries Json}
    {key : String} {v : Json} (h : Fields.find? members n.wire n.plain = some (key, v)) :
    members.get? key = some v ∧ m.part key = n.part := by
  unfold Fields.find? at h
  rcases wire : members.get? n.wire with _ | w <;> rw [wire] at h
  · obtain ⟨w, plain, same⟩ := Option.map_eq_some_iff.mp h
    cases same
    exact ⟨plain, part_plain named⟩
  · cases h
    exact ⟨wire, part_wire named⟩

theorem found_agrees {part : Part} {codec : Codec α} (h : Tolerates part codec) {r : Renaming}
    {m : Model} {members : Entries Json} {key : String} {v : Json}
    (given : members.get? key = some v) (stands : m.part key = part) :
    Agrees (r.Moved (.model m) (.object members)) (Checked.under (.key key) (codec.decode v))
      (Checked.under (.key (r.spelled m members key))
        (codec.decode (apply (r.below (.key key)) part v))) := by
  subst stands
  exact (h (r.below (.key key)) v).under fun _ _ inner => .member given inner

theorem spells_field {wire plain : String} {part : Part} {codec : Codec α} {absent : α}
    {get : ρ → α} (h : Tolerates part codec) :
    Spells (.field wire plain codec absent get) [⟨wire, plain, part⟩] := by
  intro r m members among
  have named := among List.mem_cons_self
  have respelled := find?_applyMembers (r := r) named members
  simp only [Fields.field, respelled]
  rcases found : Fields.find? members wire plain with _ | ⟨key, v⟩
  · exact .value absent
  · obtain ⟨given, stands⟩ := get?_of_find? named found
    exact found_agrees h given stands

theorem spells_mandatory {wire plain : String} {part : Part} {codec : Codec α} {get : ρ → α}
    (h : Tolerates part codec) :
    Spells (.mandatory wire plain codec get) [⟨wire, plain, part⟩] := by
  intro r m members among
  have named := among List.mem_cons_self
  have respelled := find?_applyMembers (r := r) named members
  simp only [Fields.mandatory, respelled]
  rcases found : Fields.find? members wire plain with _ | ⟨key, v⟩
  · have absent : members.get? wire = none := by
      unfold Fields.find? at found
      split at found
      · cases found
      · assumption
    exact .faults (.cons ⟨.missing absent, rfl⟩ .nil)
  · obtain ⟨given, stands⟩ := get?_of_find? named found
    exact found_agrees h given stands

theorem Spells.map {fields : Fields ρ α} {names : List Naming} (f : α → β)
    (h : Spells fields names) : Spells (f <$> fields) names :=
  fun r m members among => (h r m members among).map f

theorem Spells.seq {first : Fields ρ (α → β)} {second : Fields ρ α} {names more : List Naming}
    (hf : Spells first names) (hs : Spells second more) :
    Spells (first <*> second) (names ++ more) := by
  intro r m members among
  obtain ⟨here, there⟩ := List.append_subset.mp among
  exact (hf r m members here).both (hs r m members there)

theorem record_tolerates {m : Model} {title : String} {fields : Fields ρ ρ} {names : List Naming}
    (h : Spells fields names) (same : names = m.names) :
    Tolerates (.model m) (.record title fields) := by
  intro r v
  cases v with
  | object members => exact h r m members (same ▸ List.Subset.refl names)
  | _ => exact .fault .whole

theorem spells_plain {wire plain : String} {codec : Codec α} {absent : α} {get : ρ → α} :
    Spells (.field wire plain codec absent get) [⟨wire, plain, .plain⟩] :=
  spells_field (tolerates_plain codec)

theorem parameter_tolerates : Tolerates (.model .parameter) Parameter.codec :=
  record_tolerates
    ((spells_mandatory (tolerates_plain _)).map _
      |>.seq spells_plain
      |>.seq spells_plain
      |>.seq spells_plain)
    rfl

theorem query_tolerates : Tolerates (.model .query) Query.codec :=
  record_tolerates
    ((spells_mandatory (tolerates_plain _)).map _
      |>.seq spells_plain
      |>.seq spells_plain
      |>.seq spells_plain
      |>.seq (spells_field (list_tolerates parameter_tolerates)))
    rfl

theorem actionQuery_tolerates : Tolerates (.model .actionQuery) ActionQuery.codec :=
  record_tolerates
    ((spells_mandatory (tolerates_plain _)).map _
      |>.seq spells_plain
      |>.seq spells_plain
      |>.seq spells_plain
      |>.seq (spells_field (list_tolerates parameter_tolerates)))
    rfl

theorem listQuery_tolerates : Tolerates (.model .listQuery) ListQuery.codec :=
  record_tolerates
    (spells_plain.map _
      |>.seq spells_plain
      |>.seq spells_plain
      |>.seq spells_plain
      |>.seq (spells_field (list_tolerates parameter_tolerates)))
    rfl

theorem backend_tolerates : Tolerates (.model .backend) Backend.codec :=
  record_tolerates
    ((spells_field (list_tolerates query_tolerates)).map _
      |>.seq (spells_field (list_tolerates actionQuery_tolerates)))
    rfl

theorem mappingOption_tolerates : Tolerates (.model .mappingOption) MappingOption.codec :=
  record_tolerates
    (spells_plain.map _
      |>.seq spells_plain)
    rfl

theorem mappingOptions_tolerates : Tolerates (.model .mappingOptions) MappingOptions.codec :=
  record_tolerates
    ((spells_field (list_tolerates mappingOption_tolerates)).map _)
    rfl

theorem mapping_tolerates : Tolerates (.model .mapping) Mapping.codec :=
  record_tolerates
    ((spells_mandatory (tolerates_plain _)).map _
      |>.seq spells_plain
      |>.seq spells_plain
      |>.seq (spells_field (nullable_tolerates listQuery_tolerates))
      |>.seq (spells_field (nullable_tolerates mappingOptions_tolerates))
      |>.seq spells_plain
      |>.seq spells_plain
      |>.seq spells_plain
      |>.seq spells_plain
      |>.seq spells_plain
      |>.seq spells_plain)
    rfl

theorem column_tolerates : Tolerates (.model .column) Column.codec :=
  record_tolerates
    ((spells_mandatory (tolerates_plain _)).map _
      |>.seq spells_plain
      |>.seq spells_plain
      |>.seq spells_plain
      |>.seq spells_plain
      |>.seq spells_plain
      |>.seq spells_plain
      |>.seq spells_plain)
    rfl

theorem dataTable_tolerates : Tolerates (.model .dataTable) DataTable.codec :=
  record_tolerates
    ((spells_mandatory (tolerates_plain _)).map _
      |>.seq spells_plain
      |>.seq spells_plain
      |>.seq spells_plain
      |>.seq spells_plain
      |>.seq spells_plain
      |>.seq spells_plain
      |>.seq spells_plain
      |>.seq spells_plain
      |>.seq (spells_field (list_tolerates column_tolerates))
      |>.seq spells_plain)
    rfl

theorem field_tolerates : Tolerates (.model .field) Field.codec :=
  record_tolerates
    ((spells_mandatory (tolerates_plain _)).map _
      |>.seq spells_plain
      |>.seq spells_plain
      |>.seq spells_plain
      |>.seq spells_plain
      |>.seq spells_plain
      |>.seq spells_plain
      |>.seq spells_plain
      |>.seq (spells_field (list_tolerates mappingOption_tolerates))
      |>.seq spells_plain
      |>.seq spells_plain
      |>.seq spells_plain
      |>.seq spells_plain)
    rfl

theorem button_tolerates : Tolerates (.model .button) Button.codec :=
  record_tolerates
    (spells_plain.map _
      |>.seq spells_plain
      |>.seq spells_plain
      |>.seq spells_plain
      |>.seq spells_plain
      |>.seq spells_plain)
    rfl

theorem message_tolerates : Tolerates (.model .message) Message.codec :=
  record_tolerates
    (spells_plain.map _
      |>.seq spells_plain
      |>.seq spells_plain)
    rfl

theorem form_tolerates : Tolerates (.model .form) Form.codec :=
  record_tolerates
    ((spells_mandatory (tolerates_plain _)).map _
      |>.seq spells_plain
      |>.seq spells_plain
      |>.seq spells_plain
      |>.seq spells_plain
      |>.seq spells_plain
      |>.seq spells_plain
      |>.seq (spells_field (list_tolerates field_tolerates))
      |>.seq (spells_field (list_tolerates button_tolerates))
      |>.seq (spells_field (list_tolerates message_tolerates)))
    rfl

theorem frontend_tolerates : Tolerates (.model .frontend) Frontend.codec :=
  record_tolerates
    ((spells_field (list_tolerates dataTable_tolerates)).map _
      |>.seq (spells_field (list_tolerates form_tolerates)))
    rfl

theorem feature_tolerates : Tolerates (.model .feature) Feature.codec :=
  record_tolerates
    ((spells_mandatory (tolerates_plain _)).map _
      |>.seq spells_plain
      |>.seq (spells_field backend_tolerates)
      |>.seq (spells_field frontend_tolerates)
      |>.seq (spells_field (list_tolerates mapping_tolerates)))
    rfl

theorem frontendReply_tolerates : Tolerates (.model .frontendReply) FrontendReply.codec :=
  record_tolerates
    ((spells_field (list_tolerates dataTable_tolerates)).map _
      |>.seq (spells_field (list_tolerates form_tolerates))
      |>.seq spells_plain
      |>.seq spells_plain)
    rfl

theorem mappingsReply_tolerates : Tolerates (.model .mappingsReply) MappingsReply.codec :=
  record_tolerates
    (spells_plain.map _
      |>.seq spells_plain
      |>.seq spells_plain
      |>.seq (spells_field (list_tolerates mapping_tolerates)))
    rfl

theorem queryReply_tolerates : Tolerates (.model .queryReply) QueryReply.codec :=
  record_tolerates
    (spells_plain.map _
      |>.seq spells_plain
      |>.seq spells_plain
      |>.seq spells_plain)
    rfl

theorem actionReply_tolerates : Tolerates (.model .actionReply) ActionReply.codec :=
  record_tolerates
    (spells_plain.map _
      |>.seq spells_plain
      |>.seq spells_plain)
    rfl

theorem checksum_tolerates : Tolerates (.model .checksum) Checksum.codec :=
  record_tolerates
    ((spells_mandatory (tolerates_plain _)).map _
      |>.seq (spells_mandatory (tolerates_plain _))
      |>.seq spells_plain)
    rfl

theorem listOrReply_bare (items : List Json) :
    MappingsReply.listOrReply.decode (.array items) =
      (Checked.under (.key "mappings") ((Codec.list Mapping.codec).decode (.array items))).map
        fun mappings => some { mappings, resolvedCount := items.length } := by
  have fields : MappingsReply.codec.decode (.object [("mappings", .array items),
      ("resolvedCount", .int items.length)]) =
      Checked.both (.ok fun mappings => (⟨"", "", items.length, mappings⟩ : MappingsReply))
        (Checked.under (.key "mappings") ((Codec.list Mapping.codec).decode (.array items))) := rfl
  show Except.map some (MappingsReply.codec.decode _) = _
  rw [fields]
  cases (Codec.list Mapping.codec).decode (.array items) <;> rfl

theorem length_applyItems (r : Renaming) (part : Part) (index : Nat) (items : List Json) :
    (applyItems r part index items).length = items.length := by
  induction items generalizing index with
  | nil => rfl
  | cons v rest ih => rw [applyItems, List.length_cons, List.length_cons, ih]

theorem listOrReply_tolerates : Tolerates .mappings MappingsReply.listOrReply := by
  intro r v
  cases v with
  | array items =>
    have inner := list_tolerates mapping_tolerates (r.below (.key "mappings")) (.array items)
    have respelled : r.apply .mappings (.array items) =
        .array (applyItems (r.below (.key "mappings")) (.model .mapping) 0 items) := rfl
    rw [respelled, listOrReply_bare, listOrReply_bare, length_applyItems]
    exact (inner.under fun _ _ told => .bare told).map _
  | object members =>
    have whole := (mappingsReply_tolerates r (.object members)).map some
    exact whole.mono fun _ _ inner => .reply inner
  | null => exact .value none
  | _ => exact .fault .whole

theorem bundle_tolerates : Tolerates (.model .bundle) Bundle.codec :=
  record_tolerates
    ((spells_field (nullable_tolerates backend_tolerates)).map _
      |>.seq (spells_field (nullable_tolerates frontendReply_tolerates))
      |>.seq (spells_field listOrReply_tolerates)
      |>.seq (spells_field (entries_tolerates queryReply_tolerates))
      |>.seq (spells_field (entries_tolerates actionReply_tolerates)))
    rfl

theorem model_tolerates (m : Model) : Tolerates (.model m) m.codec := by
  cases m with
  | feature => exact feature_tolerates
  | backend => exact backend_tolerates
  | query => exact query_tolerates
  | actionQuery => exact actionQuery_tolerates
  | listQuery => exact listQuery_tolerates
  | parameter => exact parameter_tolerates
  | frontend => exact frontend_tolerates
  | frontendReply => exact frontendReply_tolerates
  | dataTable => exact dataTable_tolerates
  | column => exact column_tolerates
  | form => exact form_tolerates
  | field => exact field_tolerates
  | button => exact button_tolerates
  | message => exact message_tolerates
  | mapping => exact mapping_tolerates
  | mappingOptions => exact mappingOptions_tolerates
  | mappingOption => exact mappingOption_tolerates
  | mappingsReply => exact mappingsReply_tolerates
  | queryReply => exact queryReply_tolerates
  | actionReply => exact actionReply_tolerates
  | checksum => exact checksum_tolerates
  | bundle => exact bundle_tolerates

/-- Whatever wire names of a payload give way to plain names, and whatever becomes of plain names
that stand beside wire names, every model reads the same of it or finds the same faults. -/
theorem names_interchangeable (m : Model) (r : Renaming) (p : Json) :
    Agrees (r.Moved (.model m) p) (m.codec.decode p) (m.codec.decode (r.apply (.model m) p)) :=
  model_tolerates m r p

example : Renaming.apply ⟨fun _ => true, fun _ _ => none⟩ (.model .backend)
    (.object [("queries", .array [.object [("id", .string "q"), ("type", .string "Select")]]),
      ("actionQueries", .array []), ("action_queries", .null)]) =
    .object [("queries", .array [.object [("id", .string "q"), ("kind", .string "Select")]]),
      ("actionQueries", .array [])] := by
  rfl

end FeatureSpec
