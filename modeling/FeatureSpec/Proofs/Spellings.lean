import FeatureSpec.Proofs.UnreadMarkup
/-!
The two spellings of an attribute. An attribute that is read counts the same in either spelling
where it stands in one of them alone, and the first spelling outdoes the second one where it stands
in both. So attributes may be respelled anywhere in a document.
-/
namespace FeatureSpec.Compile

open Xml

/-- No attribute has this name in either spelling. -/
def Lacks (attrs : Entries String) (name : String) : Prop :=
  name ∉ attrs.keys ∧ smallInitial name ∉ attrs.keys

instance (attrs : Entries String) (name : String) : Decidable (Lacks attrs name) :=
  inferInstanceAs (Decidable (_ ∧ _))

/-- One step between two elements with this role. An attribute that counts, and stands in one
spelling alone, gets the other one; or its second spelling comes in beside the first one, with any
value; or a child takes such a step. -/
inductive Respelling : Role → Element → Element → Prop where
  | small {r : Role} {tag name : String} (value : String) {before after : Entries String}
      {content : List Node} (counts : name ∈ r.attributes) (alone : Lacks (before ++ after) name) :
      Respelling r ⟨tag, before ++ (name, value) :: after, content⟩
        ⟨tag, before ++ (smallInitial name, value) :: after, content⟩
  | beside {r : Role} {tag name : String} (value : String) {before after : Entries String}
      {content : List Node} (counts : name ∈ r.attributes)
      (given : name ∈ Entries.keys (before ++ after)) :
      Respelling r ⟨tag, before ++ after, content⟩
        ⟨tag, before ++ (smallInitial name, value) :: after, content⟩
  | within {r : Role} {tag t : String} {attrs as as' : Entries String}
      {before after inner inner' : List Node}
      (step : Respelling (r.below before t) ⟨t, as, inner⟩ ⟨t, as', inner'⟩) :
      Respelling r ⟨tag, attrs, before ++ .element t as inner :: after⟩
        ⟨tag, attrs, before ++ .element t as' inner' :: after⟩

def Respelled (root root' : Element) : Prop := Relation.EqvGen (Respelling .feature) root root'

theorem spellings_apart (r : Role) : ∀ a ∈ r.attributes, ∀ b ∈ r.attributes,
    smallInitial a ≠ b ∧ (smallInitial a = smallInitial b → a = b) := by
  cases r <;> decide

theorem attr?_eq_or (e : Element) (name : String) :
    attr? e name = (e.get? name).or (e.get? (smallInitial name)) := by
  unfold attr?
  cases e.get? name <;> rfl

theorem get?_of_lacking {attrs : Entries String} {name : String} (lacking : name ∉ attrs.keys) :
    attrs.get? name = none := by
  rw [← Option.not_isSome_iff_eq_none, Entries.isSome_get?]
  exact lacking

theorem get?_inserted {before after : Entries String} {name : String}
    (lacking : name ∉ Entries.keys (before ++ after)) (value : String) :
    Entries.get? (before ++ (name, value) :: after) name = some value := by
  induction before with
  | nil => simp [Entries.get?]
  | cons entry before ih =>
    obtain ⟨k, v⟩ := entry
    obtain ⟨other, rest⟩ := not_or.mp (mt List.mem_cons.mpr lacking)
    rw [List.cons_append, Entries.get?, if_neg (Ne.symm other)]
    exact ih rest

section

variable {r : Role} {tag name read : String} {before after : Entries String} {content : List Node}

theorem attr?_small (counts : name ∈ r.attributes) (alone : Lacks (before ++ after) name)
    (value : String) (among : read ∈ r.attributes) :
    attr? ⟨tag, before ++ (name, value) :: after, content⟩ read =
      attr? ⟨tag, before ++ (smallInitial name, value) :: after, content⟩ read := by
  obtain ⟨apart, distinct⟩ := spellings_apart r name counts read among
  rw [attr?_eq_or, attr?_eq_or]
  simp only [Element.get?]
  by_cases same : name = read
  · subst same
    rw [get?_inserted alone.1, get?_insert apart, get?_of_lacking alone.1, get?_inserted alone.2,
      Option.some_or, Option.none_or]
  · obtain ⟨other, -⟩ := spellings_apart r read among name counts
    rw [get?_insert same, get?_insert (Ne.symm other), get?_insert apart,
      get?_insert (mt distinct same)]

theorem attr?_beside (counts : name ∈ r.attributes)
    (given : name ∈ Entries.keys (before ++ after)) (value : String)
    (among : read ∈ r.attributes) :
    attr? ⟨tag, before ++ after, content⟩ read =
      attr? ⟨tag, before ++ (smallInitial name, value) :: after, content⟩ read := by
  obtain ⟨apart, distinct⟩ := spellings_apart r name counts read among
  rw [attr?_eq_or, attr?_eq_or]
  simp only [Element.get?, get?_insert apart]
  by_cases same : name = read
  · subst same
    obtain ⟨first, found⟩ := Option.isSome_iff_exists.mp ((Entries.isSome_get? _ _).mpr given)
    rw [found, Option.some_or, Option.some_or]
  · rw [get?_insert (mt distinct same)]

end

/-- The step: the compiler cannot tell the spellings apart. -/
theorem indistinct_of_respelling {r : Role} {e e' : Element} (step : Respelling r e e') :
    Indistinct r e e' := by
  induction step with
  | small value counts alone =>
    exact indistinct_of_alike
      { tag := rfl
        value := fun _ among => attr?_small counts alone value among
        chars := fun _ => rfl
        children := fun slot _ => related_refl slot.role _ }
  | beside value counts given =>
    exact indistinct_of_alike
      { tag := rfl
        value := fun _ among => attr?_beside counts given value among
        chars := fun _ => rfl
        children := fun slot _ => related_refl slot.role _ }
  | within step ih => exact indistinct_within _ _ _ _ ih

theorem tag_of_respelling {r : Role} {e e' : Element} (step : Respelling r e e') :
    e.tag = e'.tag := by
  cases step <;> rfl

/-- However the attributes of a document are respelled, a compilation has the same outcome and the
same records, be it strict or lenient. -/
theorem spellings_interchangeable (options : Document.Options) {root root' : Element}
    (respelled : Respelled root root') :
    Document.compileTree options root = Document.compileTree options root' := by
  induction respelled with
  | rel root root' step =>
    exact compileTree_congr options (tag_of_respelling step) (indistinct_of_respelling step)
  | refl root => rfl
  | symm root root' _ ih => exact ih.symm
  | trans root between root' _ _ first second => exact first.trans second

def tabled (attrs table column : Entries String) : Element :=
  ⟨"Feature", attrs,
    [.element "Frontend" [] [.element "DataTable" table [.element "Column" column []]]]⟩

def capitals : Element :=
  tabled [("Name", "Orders")] [("Id", ""), ("PageSize", "20")] [("Name", "total"), ("Type", "Sum")]

/-- The same feature in second spellings. The identifier that comes in does not count. -/
def smalls : Element :=
  tabled [("name", "Orders")] [("Id", ""), ("id", "orders"), ("pageSize", "20")]
    [("name", "total"), ("type", "Sum")]

theorem respelled_smalls : Respelled capitals smalls := by
  have inTable {attrs table table' : Entries String} {inner inner' : List Node}
      (step : Respelling .dataTable ⟨"DataTable", table, inner⟩ ⟨"DataTable", table', inner'⟩) :
      Respelled ⟨"Feature", attrs, [.element "Frontend" [] [.element "DataTable" table inner]]⟩
        ⟨"Feature", attrs, [.element "Frontend" [] [.element "DataTable" table' inner']]⟩ := by
    have frontend := @Respelling.within .frontend "Frontend" "DataTable" [] _ _ [] [] _ _ step
    exact .rel _ _ (@Respelling.within .feature "Feature" "Frontend" attrs _ _ [] [] _ _ frontend)
  have inColumn {attrs table column column' : Entries String}
      (step : Respelling .column ⟨"Column", column, []⟩ ⟨"Column", column', []⟩) :
      Respelled (tabled attrs table column) (tabled attrs table column') :=
    inTable (@Respelling.within .dataTable "DataTable" "Column" table _ _ [] [] _ _ step)
  have feature := @Respelling.small .feature "Feature" "Name" "Orders" [] []
    [.element "Frontend" [] [.element "DataTable" [("Id", ""), ("PageSize", "20")]
      [.element "Column" [("Name", "total"), ("Type", "Sum")] []]]] (by decide) (by decide)
  have size := @Respelling.small .dataTable "DataTable" "PageSize" "20" [("Id", "")] []
    [.element "Column" [("Name", "total"), ("Type", "Sum")] []] (by decide) (by decide)
  have id := @Respelling.beside .dataTable "DataTable" "Id" "orders" [("Id", "")]
    [("pageSize", "20")] [.element "Column" [("Name", "total"), ("Type", "Sum")] []]
    (by decide) (by decide)
  have name := @Respelling.small .column "Column" "Name" "total" [] [("Type", "Sum")] []
    (by decide) (by decide)
  have type := @Respelling.small .column "Column" "Type" "Sum" [("name", "total")] [] []
    (by decide) (by decide)
  exact .trans _ _ _ (.rel _ _ feature) <| .trans _ _ _ (inTable size) <|
    .trans _ _ _ (inTable id) <| .trans _ _ _ (inColumn name) (inColumn type)

theorem smalls_compile_alike :
    Respelled capitals smalls ∧
      Document.compileTree (strictly none) smalls = Document.compileTree (strictly none) capitals ∧
      (Document.compileTree (strictly none) capitals).outcome =
        .error (.document (.missingAttribute "DataTable")
          (some ⟨none, some "Feature/Frontend/DataTable", some "Id"⟩)) ∧
      Document.compileTree (leniently none) smalls =
        Document.compileTree (leniently none) capitals ∧
      (Document.compileTree (leniently none) capitals).records.head? =
        Violation.record? none (.unknownWord "ColumnType" "Sum"
          "Feature/Frontend/DataTable[]/Column[total]" "Type" "Text") := by
  have strict := spellings_interchangeable (strictly none) respelled_smalls
  have lenient := spellings_interchangeable (leniently none) respelled_smalls
  refine ⟨respelled_smalls, strict.symm, ?_, lenient.symm, ?_⟩
  · rfl
  · rfl

end FeatureSpec.Compile
