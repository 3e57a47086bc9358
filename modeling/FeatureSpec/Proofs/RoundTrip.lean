import FeatureSpec.Proofs.FiniteValues
import FeatureSpec.Proofs.Restores
/-!
The wire form of every model reads back as the value it was written of, whatever payload the value
came from; only what a value holds as it was given may nest too deep to be written.
-/
namespace FeatureSpec

open Payload

instance : LawfulChoice QueryKind := ⟨fun .select => rfl⟩

instance : LawfulChoice ActionKind := ⟨fun k => by cases k <;> decide⟩

instance : LawfulChoice ColumnType := ⟨fun t => by cases t <;> decide⟩

instance : LawfulChoice FieldType := ⟨fun t => by cases t <;> decide⟩

instance : LawfulChoice Alignment := ⟨fun a => by cases a <;> decide⟩

instance : LawfulChoice FormMode := ⟨fun m => by cases m <;> decide⟩

instance : LawfulChoice ButtonType := ⟨fun t => by cases t <;> decide⟩

instance : LawfulChoice ButtonStyle := ⟨fun s => by cases s <;> decide⟩

instance : LawfulChoice MessageType := ⟨fun t => by cases t <;> decide⟩

theorem optional_text_restores (s : Option String) : Restores (.nullable .text) s :=
  nullable_restores fun a _ => ⟨nofun, text_restores a⟩

theorem optional_integer_restores (n : Option Int) : Restores (.nullable .integer) n :=
  nullable_restores fun a _ => ⟨nofun, integer_restores a⟩

theorem optionValue_restores (v : OptionValue) : Restores OptionValue.codec v := by
  cases v <;> rfl

theorem parameter_restores (p : Parameter) : Restores Parameter.codec p :=
  record_restores
    ((reads_mandatory (text_restores _)).map _
      |>.seq (reads_field (optional_text_restores _))
      |>.seq (reads_field (flag_restores _))
      |>.seq (reads_field (optional_text_restores _)))
    rfl (by decide)

theorem query_restores (q : Query) : Restores Query.codec q :=
  record_restores
    ((reads_mandatory (text_restores _)).map _
      |>.seq (reads_field (choice_restores _))
      |>.seq (reads_field (optional_text_restores _))
      |>.seq (reads_field (text_restores _))
      |>.seq (reads_field (list_restores fun p _ => parameter_restores p)))
    rfl (by decide)

theorem actionQuery_restores (q : ActionQuery) : Restores ActionQuery.codec q :=
  record_restores
    ((reads_mandatory (text_restores _)).map _
      |>.seq (reads_field (choice_restores _))
      |>.seq (reads_field (optional_text_restores _))
      |>.seq (reads_field (text_restores _))
      |>.seq (reads_field (list_restores fun p _ => parameter_restores p)))
    rfl (by decide)

theorem listQuery_restores (q : ListQuery) : Restores ListQuery.codec q :=
  record_restores
    ((reads_field (text_restores _)).map _
      |>.seq (reads_field (choice_restores _))
      |>.seq (reads_field (optional_text_restores _))
      |>.seq (reads_field (text_restores _))
      |>.seq (reads_field (list_restores fun p _ => parameter_restores p)))
    rfl (by decide)

theorem backend_restores (b : Backend) : Restores Backend.codec b :=
  record_restores
    ((reads_field (list_restores fun q _ => query_restores q)).map _
      |>.seq (reads_field (list_restores fun q _ => actionQuery_restores q)))
    rfl (by decide)

theorem mappingOption_restores (o : MappingOption) : Restores MappingOption.codec o :=
  record_restores
    ((reads_field (text_restores _)).map _
      |>.seq (reads_field (optionValue_restores _)))
    rfl (by decide)

theorem mappingOptions_restores (o : MappingOptions) : Restores MappingOptions.codec o :=
  record_restores
    ((reads_field (list_restores fun a _ => mappingOption_restores a)).map _)
    rfl (by decide)

theorem mapping_restores (m : Mapping) : Restores Mapping.codec m :=
  record_restores
    ((reads_mandatory (text_restores _)).map _
      |>.seq (reads_field (text_restores _))
      |>.seq (reads_field (text_restores _))
      |>.seq (reads_field (nullable_record_restores listQuery_restores))
      |>.seq (reads_field (nullable_record_restores mappingOptions_restores))
      |>.seq (reads_field (flag_restores _))
      |>.seq (reads_field (flag_restores _))
      |>.seq (reads_field (flag_restores _))
      |>.seq (reads_field (optional_text_restores _))
      |>.seq (reads_field (optional_text_restores _))
      |>.seq (reads_field (optional_integer_restores _)))
    rfl (by decide)

theorem column_restores (c : Column) : Restores Column.codec c :=
  record_restores
    ((reads_mandatory (text_restores _)).map _
      |>.seq (reads_field (text_restores _))
      |>.seq (reads_field (choice_restores _))
      |>.seq (reads_field (flag_restores _))
      |>.seq (reads_field (flag_restores _))
      |>.seq (reads_field (optional_text_restores _))
      |>.seq (reads_field (optional_text_restores _))
      |>.seq (reads_field (choice_restores _)))
    rfl (by decide)

theorem dataTable_restores (t : DataTable) : Restores DataTable.codec t :=
  record_restores
    ((reads_mandatory (text_restores _)).map _
      |>.seq (reads_field (text_restores _))
      |>.seq (reads_field (optional_text_restores _))
      |>.seq (reads_field (optional_text_restores _))
      |>.seq (reads_field (flag_restores _))
      |>.seq (reads_field (optional_integer_restores _))
      |>.seq (reads_field (flag_restores _))
      |>.seq (reads_field (flag_restores _))
      |>.seq (reads_field (flag_restores _))
      |>.seq (reads_field (list_restores fun c _ => column_restores c))
      |>.seq (reads_field (optional_text_restores _)))
    rfl (by decide)

theorem field_restores (f : Field) : Restores Field.codec f :=
  record_restores
    ((reads_mandatory (text_restores _)).map _
      |>.seq (reads_field (text_restores _))
      |>.seq (reads_field (choice_restores _))
      |>.seq (reads_field (flag_restores _))
      |>.seq (reads_field (flag_restores _))
      |>.seq (reads_field (flag_restores _))
      |>.seq (reads_field (optional_text_restores _))
      |>.seq (reads_field (optional_text_restores _))
      |>.seq (reads_field (list_restores fun o _ => mappingOption_restores o))
      |>.seq (reads_field (optional_text_restores _))
      |>.seq (reads_field (optional_text_restores _))
      |>.seq (reads_field (optional_text_restores _))
      |>.seq (reads_field (optional_integer_restores _)))
    rfl (by decide)

theorem button_restores (b : Button) : Restores Button.codec b :=
  record_restores
    ((reads_field (optional_text_restores _)).map _
      |>.seq (reads_field (choice_restores _))
      |>.seq (reads_field (optional_text_restores _))
      |>.seq (reads_field (choice_restores _))
      |>.seq (reads_field (flag_restores _))
      |>.seq (reads_field (optional_text_restores _)))
    rfl (by decide)

theorem message_restores (m : Message) : Restores Message.codec m :=
  record_restores
    ((reads_field (choice_restores _)).map _
      |>.seq (reads_field (text_restores _))
      |>.seq (reads_field (flag_restores _)))
    rfl (by decide)

theorem form_restores (f : Form) : Restores Form.codec f :=
  record_restores
    ((reads_mandatory (text_restores _)).map _
      |>.seq (reads_field (choice_restores _))
      |>.seq (reads_field (optional_text_restores _))
      |>.seq (reads_field (optional_text_restores _))
      |>.seq (reads_field (flag_restores _))
      |>.seq (reads_field (optional_text_restores _))
      |>.seq (reads_field (optional_text_restores _))
      |>.seq (reads_field (list_restores fun d _ => field_restores d))
      |>.seq (reads_field (list_restores fun b _ => button_restores b))
      |>.seq (reads_field (list_restores fun m _ => message_restores m)))
    rfl (by decide)

theorem frontend_restores (f : Frontend) : Restores Frontend.codec f :=
  record_restores
    ((reads_field (list_restores fun t _ => dataTable_restores t)).map _
      |>.seq (reads_field (list_restores fun d _ => form_restores d)))
    rfl (by decide)

theorem feature_restores (f : Feature) : Restores Feature.codec f :=
  record_restores
    ((reads_mandatory (text_restores _)).map _
      |>.seq (reads_field (text_restores _))
      |>.seq (reads_field (backend_restores _))
      |>.seq (reads_field (frontend_restores _))
      |>.seq (reads_field (list_restores fun m _ => mapping_restores m)))
    rfl (by decide)

theorem frontendReply_restores (r : FrontendReply) : Restores FrontendReply.codec r :=
  record_restores
    ((reads_field (list_restores fun t _ => dataTable_restores t)).map _
      |>.seq (reads_field (list_restores fun f _ => form_restores f))
      |>.seq (reads_field (text_restores _))
      |>.seq (reads_field (text_restores _)))
    rfl (by decide)

theorem mappingsReply_restores (r : MappingsReply) : Restores MappingsReply.codec r :=
  record_restores
    ((reads_field (text_restores _)).map _
      |>.seq (reads_field (text_restores _))
      |>.seq (reads_field (integer_restores _))
      |>.seq (reads_field (list_restores fun m _ => mapping_restores m)))
    rfl (by decide)

theorem checksum_restores (c : Checksum) : Restores Checksum.codec c :=
  record_restores
    ((reads_mandatory (text_restores _)).map _
      |>.seq (reads_mandatory (text_restores _))
      |>.seq (reads_field (text_restores _)))
    rfl (by decide)

/-- A bare list is never written, so the shorthand does not come between. -/
theorem listOrReply_restores (r? : Option MappingsReply) :
    Restores MappingsReply.listOrReply r? := by
  cases r? with
  | none => rfl
  | some r =>
    have restored : MappingsReply.codec.decode (MappingsReply.codec.encode r) = .ok r :=
      mappingsReply_restores r
    show Except.map some (MappingsReply.codec.decode (MappingsReply.codec.encode r)) = .ok (some r)
    rw [restored]
    rfl

theorem queryReply_restores {r : QueryReply} (finite : ∀ v ∈ r.given, v.isFinite = true) :
    Restores QueryReply.codec r := by
  have row : ∀ row ∈ r.data, ∀ kv ∈ row, Restores .anything kv.2 := fun row h kv member =>
    anything_restores (finite kv.2 (List.mem_flatMap.mpr ⟨row, h, List.mem_map_of_mem member⟩))
  exact record_restores
    ((reads_field (list_restores fun m h => entries_restores (row m h))).map _
      |>.seq (reads_field (integer_restores _))
      |>.seq (reads_field (optional_integer_restores _))
      |>.seq (reads_field (optional_integer_restores _)))
    rfl (by decide)

theorem actionReply_restores {r : ActionReply} (finite : ∀ v ∈ r.given, v.isFinite = true) :
    Restores ActionReply.codec r :=
  record_restores
    ((reads_field (flag_restores _)).map _
      |>.seq (reads_field (optional_text_restores _))
      |>.seq (reads_field (anything_restores (finite _ (.head _)))))
    rfl (by decide)

theorem bundle_restores {b : Bundle} (finite : ∀ v ∈ b.given, v.isFinite = true) :
    Restores Bundle.codec b := by
  have queries : ∀ kv ∈ b.queries, Restores QueryReply.codec kv.2 := by
    intro kv member
    refine queryReply_restores fun v h => finite v (List.mem_append_left _ ?_)
    exact List.mem_flatMap.mpr ⟨kv, member, h⟩
  have actions : ∀ kv ∈ b.actions, Restores ActionReply.codec kv.2 := by
    intro kv member
    refine actionReply_restores fun v h => finite v (List.mem_append_right _ ?_)
    exact List.mem_flatMap.mpr ⟨kv, member, h⟩
  exact record_restores
    ((reads_field (nullable_record_restores backend_restores)).map _
      |>.seq (reads_field (nullable_record_restores frontendReply_restores))
      |>.seq (reads_field (listOrReply_restores _))
      |>.seq (reads_field (entries_restores queries))
      |>.seq (reads_field (entries_restores actions)))
    rfl (by decide)

/-- Every model restores what it writes, as far as what was given is finite. -/
theorem model_restores (m : Model) {v : m.Value} (finite : ∀ g ∈ m.given v, g.isFinite = true) :
    Restores m.codec v := by
  cases m with
  | feature => exact feature_restores v
  | backend => exact backend_restores v
  | query => exact query_restores v
  | actionQuery => exact actionQuery_restores v
  | listQuery => exact listQuery_restores v
  | parameter => exact parameter_restores v
  | frontend => exact frontend_restores v
  | frontendReply => exact frontendReply_restores v
  | dataTable => exact dataTable_restores v
  | column => exact column_restores v
  | form => exact form_restores v
  | field => exact field_restores v
  | button => exact button_restores v
  | message => exact message_restores v
  | mapping => exact mapping_restores v
  | mappingOptions => exact mappingOptions_restores v
  | mappingOption => exact mappingOption_restores v
  | mappingsReply => exact mappingsReply_restores v
  | queryReply => exact queryReply_restores finite
  | actionReply => exact actionReply_restores finite
  | checksum => exact checksum_restores v
  | bundle => exact bundle_restores finite

theorem writtenWith_of_shallow {given : List Json} (written : Json)
    (shallow : ∀ g ∈ given, g.depth ≤ depthLimit) : writtenWith given written = .ok written := by
  unfold writtenWith
  rw [if_pos]
  simpa using shallow

theorem writtenWith_of_deep {given : List Json} (written : Json) {g : Json} (member : g ∈ given)
    (deep : depthLimit < g.depth) : writtenWith given written = .error (.value .tooDeep) := by
  unfold writtenWith
  rw [if_neg]
  intro all
  have shallow := List.all_eq_true.mp all g member
  exact absurd (of_decide_eq_true shallow) (Nat.not_le.mpr deep)

/-- A value that was read of a finite payload reads back from its wire form, which it has unless
something in it that is kept as it was given nests too deep. -/
theorem wire_round_trip (m : Model) (p : Json) (v : m.Value) (finite : p.isFinite = true)
    (accepted : m.codec.decode p = .ok v) :
    ((∃ j, m.wire v = .ok j ∧ m.codec.decode j = .ok v) ↔
      ∀ g ∈ m.given v, g.depth ≤ depthLimit) ∧
    ((∃ g ∈ m.given v, depthLimit < g.depth) → m.wire v = .error (.value .tooDeep)) := by
  have restored : Restores m.codec v := model_restores m (model_yields m p v finite accepted)
  refine ⟨⟨?shallow, ?round⟩, ?deep⟩
  case shallow =>
    rintro ⟨j, written, -⟩ g member
    refine Nat.not_lt.mp fun deep => ?_
    rw [Model.wire, writtenWith_of_deep _ member deep] at written
    cases written
  case round =>
    intro shallow
    exact ⟨m.codec.encode v, writtenWith_of_shallow _ shallow, restored⟩
  case deep =>
    rintro ⟨g, member, deep⟩
    exact writtenWith_of_deep _ member deep

theorem lenient_outcome_round_trip :
    (Json.object [("success", .string "Yes"), ("data", .array [.int 1])]).isFinite = true ∧
    Model.actionReply.codec.decode
        (.object [("success", .string "Yes"), ("data", .array [.int 1])]) =
      .ok { success := true, data := .array [.int 1] } ∧
    ∃ j, Model.actionReply.wire { success := true, data := .array [.int 1] } = .ok j ∧
      Model.actionReply.codec.decode j = .ok { success := true, data := .array [.int 1] } := by
  have finite :
      (Json.object [("success", .string "Yes"), ("data", .array [.int 1])]).isFinite = true := rfl
  have accepted : Model.actionReply.codec.decode
      (.object [("success", .string "Yes"), ("data", .array [.int 1])]) =
        .ok { success := true, data := .array [.int 1] } := rfl
  have shallow : ∀ g ∈ Model.given .actionReply { success := true, data := .array [.int 1] },
      g.depth ≤ depthLimit := by
    decide
  exact ⟨finite, accepted, (wire_round_trip .actionReply _ _ finite accepted).1.mpr shallow⟩

def nested : Nat → Json
  | 0 => .int 1
  | n + 1 => .array [nested n]

theorem nested_depth (n : Nat) : (nested n).depth = n + 1 := by
  induction n with
  | zero => rfl
  | succ n ih => simp [nested, Json.depth, Json.deepest, ih]

theorem nested_isFinite (n : Nat) : (nested n).isFinite = true := by
  induction n with
  | zero => rfl
  | succ n ih => simp [nested, Json.isFinite, Json.areFinite, ih]

/-- Data of 256 levels is accepted and has no wire form. -/
theorem deep_outcome_not_written :
    (Json.object [("data", nested 255)]).isFinite = true ∧
    Model.actionReply.codec.decode (.object [("data", nested 255)]) =
      .ok { data := nested 255 } ∧
    ¬∃ j, Model.actionReply.wire { data := nested 255 } = .ok j ∧
      Model.actionReply.codec.decode j = .ok { data := nested 255 } := by
  have read : ∀ data : Json,
      Model.actionReply.codec.decode (.object [("data", data)]) = .ok { data } := fun _ => rfl
  refine ⟨?_, read _, ?_⟩
  · simp [Json.isFinite, Json.memberValuesFinite, nested_isFinite]
  · rintro ⟨j, written, -⟩
    have deep : depthLimit < (nested 255).depth := by
      rw [nested_depth]
      decide
    have member : nested 255 ∈ Model.given .actionReply { data := nested 255 } := .head _
    rw [Model.wire, writtenWith_of_deep _ member deep] at written
    cases written

end FeatureSpec
