import FeatureSpec.Proofs.MappingLookup
/-!
What mappings put over the elements of a feature: the label of a field or a column, the options of
a field, and nothing else. Forms and data tables keep their elements in place and under their
names, so that a lookup before resolution finds the same element as one after it.
-/
namespace FeatureSpec

namespace Mapping

/-- The mapping of a name: of several, the last. -/
def governing? (mappings : List Mapping) (name : String) : Option Mapping :=
  (mappings.filter (·.name == name)).getLast?

def labelFor? (mappings : List Mapping) (name : String) : Option String :=
  ((governing? mappings name).map Mapping.label).filter (· ≠ "")

def optionsFor? (mappings : List Mapping) (name : String) : Option (List MappingOption) :=
  ((governing? mappings name).map optionItems).filter (· ≠ [])

theorem get?_ofList_eq_governing (mappings : List Mapping) (name : String) :
    (MappingTable.ofList mappings).get? name = governing? mappings name :=
  (MappingTable.records_ofList mappings).last name

theorem givenLabel?_governing (mappings : List Mapping) (name : String) :
    ((MappingTable.ofList mappings).get? name).bind givenLabel? = labelFor? mappings name := by
  rw [get?_ofList_eq_governing, labelFor?]
  cases governing? mappings name with
  | none => rfl
  | some m => by_cases empty : m.label = "" <;> simp [givenLabel?, Option.filter, empty]

theorem hasOptions_iff (m : Mapping) : m.hasOptions = true ↔ m.optionItems ≠ [] := by
  simp [hasOptions]

theorem givenOptions?_governing (mappings : List Mapping) (name : String) :
    ((MappingTable.ofList mappings).get? name).bind givenOptions? = optionsFor? mappings name := by
  rw [get?_ofList_eq_governing, optionsFor?]
  cases governing? mappings name with
  | none => rfl
  | some m =>
    have given := m.hasOptions_iff
    by_cases empty : m.optionItems = [] <;> simp_all [givenOptions?, Option.filter]

end Mapping

open Mapping

section Elements

variable (mappings : List Mapping)

namespace Field

theorem override?_eq (f : Field) :
    f.override? (MappingTable.ofList mappings) =
      let label := labelFor? mappings f.name
      let options := optionsFor? mappings f.name
      if label.isNone && options.isNone then none
      else some { f with label := label.getD f.label, options := options.getD f.options } := by
  simp only [override?, givenLabel?_governing, givenOptions?_governing]

theorem resolve_eq (f : Field) :
    f.resolve (MappingTable.ofList mappings) =
      { f with
        label := (labelFor? mappings f.name).getD f.label
        options := (optionsFor? mappings f.name).getD f.options } := by
  rw [resolve, override?_eq]
  cases labelFor? mappings f.name <;> cases optionsFor? mappings f.name <;> rfl

theorem name_resolve (f : Field) : (f.resolve (MappingTable.ofList mappings)).name = f.name := by
  rw [resolve_eq]

theorem isOverridden_eq_false_iff (f : Field) :
    f.isOverridden (MappingTable.ofList mappings) = false ↔
      labelFor? mappings f.name = none ∧ optionsFor? mappings f.name = none := by
  rw [isOverridden, override?_eq]
  cases labelFor? mappings f.name <;> cases optionsFor? mappings f.name <;> simp

theorem resolve_resolve (f : Field) :
    (f.resolve (MappingTable.ofList mappings)).resolve (MappingTable.ofList mappings) =
      f.resolve (MappingTable.ofList mappings) := by
  -- the name stays, so that the override that is found again is the one that is already there
  simp only [resolve_eq]
  cases labelFor? mappings f.name <;> cases optionsFor? mappings f.name <;> rfl

end Field

namespace Column

theorem override?_eq (c : Column) :
    c.override? (MappingTable.ofList mappings) =
      (labelFor? mappings c.name).map fun label => { c with label } := by
  rw [override?, givenLabel?_governing]

theorem resolve_eq (c : Column) :
    c.resolve (MappingTable.ofList mappings) =
      { c with label := (labelFor? mappings c.name).getD c.label } := by
  rw [resolve, override?_eq]
  cases labelFor? mappings c.name <;> rfl

theorem name_resolve (c : Column) : (c.resolve (MappingTable.ofList mappings)).name = c.name := by
  rw [resolve_eq]

theorem isOverridden_eq_false_iff (c : Column) :
    c.isOverridden (MappingTable.ofList mappings) = false ↔ labelFor? mappings c.name = none := by
  rw [isOverridden, override?_eq, Option.isSome_map, Option.isSome_eq_false_iff,
    Option.isNone_iff_eq_none]

theorem resolve_resolve (c : Column) :
    (c.resolve (MappingTable.ofList mappings)).resolve (MappingTable.ofList mappings) =
      c.resolve (MappingTable.ofList mappings) := by
  simp only [resolve_eq]
  cases labelFor? mappings c.name <;> rfl

end Column

end Elements

section Lists

variable {α : Type} {name : α → String} {present : α → α}

theorem map_name_present (kept : ∀ a, name (present a) = name a) (xs : List α) :
    (xs.map present).map name = xs.map name := by
  rw [List.map_map]
  exact List.map_congr_left fun a _ => kept a

theorem find?_present (kept : ∀ a, name (present a) = name a) (xs : List α) (key : String) :
    (xs.map present).find? (name · == key) = (xs.find? (name · == key)).map present := by
  have same : (fun a => name a == key) ∘ present = fun a => name a == key := by
    funext a
    simp only [Function.comp_apply, kept]
  rw [List.find?_map, same]

theorem map_present_present (settled : ∀ a, present (present a) = present a) (xs : List α) :
    (xs.map present).map present = xs.map present := by
  rw [List.map_map]
  exact List.map_congr_left fun a _ => settled a

end Lists

/-- What resolution makes of a field. It counts as changed when an override applies, be it with
the value that was there. -/
structure Field.Resolved (mappings : List Mapping) (t : MappingTable) (f : Field) : Prop where
  shown : f.resolve t = { f with
    label := (labelFor? mappings f.name).getD f.label
    options := (optionsFor? mappings f.name).getD f.options }
  unchanged : f.isOverridden t = false ↔
    labelFor? mappings f.name = none ∧ optionsFor? mappings f.name = none
  same : f.isOverridden t = false → f.resolve t = f
  settled : (f.resolve t).resolve t = f.resolve t

structure Column.Resolved (mappings : List Mapping) (t : MappingTable) (c : Column) : Prop where
  shown : c.resolve t = { c with label := (labelFor? mappings c.name).getD c.label }
  unchanged : c.isOverridden t = false ↔ labelFor? mappings c.name = none
  same : c.isOverridden t = false → c.resolve t = c
  settled : (c.resolve t).resolve t = c.resolve t

/-- What resolution makes of a form: its fields are resolved in their places, and that is all. -/
structure Form.Resolved (t : MappingTable) (f : Form) : Prop where
  rest : f.resolve t = { f with fields := (f.resolve t).fields }
  fields : (f.resolve t).fields = f.fields.map (Field.resolve t)
  names : (f.resolve t).fields.map Field.name = f.fields.map Field.name
  lookup : ∀ name, (f.resolve t).field? name = (f.field? name).map (Field.resolve t)
  settled : (f.resolve t).resolve t = f.resolve t

structure DataTable.Resolved (t : MappingTable) (d : DataTable) : Prop where
  rest : d.resolve t = { d with columns := (d.resolve t).columns }
  columns : (d.resolve t).columns = d.columns.map (Column.resolve t)
  names : (d.resolve t).columns.map Column.name = d.columns.map Column.name
  lookup : ∀ name, (d.resolve t).column? name = (d.column? name).map (Column.resolve t)
  settled : (d.resolve t).resolve t = d.resolve t

section

variable (mappings : List Mapping)

theorem Field.resolved_ofList (f : Field) :
    f.Resolved mappings (MappingTable.ofList mappings) where
  shown := f.resolve_eq mappings
  unchanged := f.isOverridden_eq_false_iff mappings
  same := by
    intro unchanged
    obtain ⟨label, options⟩ := (f.isOverridden_eq_false_iff mappings).mp unchanged
    rw [f.resolve_eq, label, options]
    rfl
  settled := f.resolve_resolve mappings

theorem Column.resolved_ofList (c : Column) :
    c.Resolved mappings (MappingTable.ofList mappings) where
  shown := c.resolve_eq mappings
  unchanged := c.isOverridden_eq_false_iff mappings
  same := by
    intro unchanged
    have label := (c.isOverridden_eq_false_iff mappings).mp unchanged
    rw [c.resolve_eq, label]
    rfl
  settled := c.resolve_resolve mappings

theorem Form.resolved_ofList (f : Form) : f.Resolved (MappingTable.ofList mappings) where
  rest := rfl
  fields := rfl
  names := map_name_present (Field.name_resolve mappings) f.fields
  lookup := find?_present (Field.name_resolve mappings) f.fields
  settled := by
    have fields := map_present_present (Field.resolve_resolve mappings) f.fields
    exact congrArg (fun fields => { f with fields }) fields

theorem DataTable.resolved_ofList (d : DataTable) :
    d.Resolved (MappingTable.ofList mappings) where
  rest := rfl
  columns := rfl
  names := map_name_present (Column.name_resolve mappings) d.columns
  lookup := find?_present (Column.name_resolve mappings) d.columns
  settled := by
    have columns := map_present_present (Column.resolve_resolve mappings) d.columns
    exact congrArg (fun columns => { d with columns }) columns

/-- Under the table of any mappings, a field differs from itself at most in the label and the
options, a column in the label, a form in its fields and a data table in its columns; looking an
element up commutes with resolving it, and what has been resolved stays as it is. -/
theorem elements_resolved :
    (∀ f : Field, f.Resolved mappings (MappingTable.ofList mappings)) ∧
      (∀ c : Column, c.Resolved mappings (MappingTable.ofList mappings)) ∧
      (∀ f : Form, f.Resolved (MappingTable.ofList mappings)) ∧
      ∀ d : DataTable, d.Resolved (MappingTable.ofList mappings) :=
  ⟨Field.resolved_ofList mappings, Column.resolved_ofList mappings, Form.resolved_ofList mappings,
    DataTable.resolved_ofList mappings⟩

end

end FeatureSpec
