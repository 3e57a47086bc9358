import FeatureSpec.Compile.Feature
/-!
The violations of a document, read off its tree in the order in which the compiler comes to them,
whatever a compilation does about them.
-/
namespace FeatureSpec

namespace Xml

mutual

def Node.within : Node → List Element
  | .text _ => []
  | .element tag attrs content => ⟨tag, attrs, content⟩ :: Node.withinAll content

def Node.withinAll : List Node → List Element
  | [] => []
  | n :: rest => n.within ++ Node.withinAll rest

end

/-- An element and every element in it. -/
def Element.tree (e : Element) : List Element := e :: Node.withinAll e.content

theorem tree_subset_within {n : Node} {e : Element} (h : n.element? = some e) :
    e.tree ⊆ n.within := by
  cases n with
  | text s => cases h
  | element tag attrs content =>
    cases h
    exact List.Subset.refl _

theorem within_subset_withinAll {n : Node} {content : List Node} (h : n ∈ content) :
    n.within ⊆ Node.withinAll content := by
  induction content with
  | nil => cases h
  | cons first rest ih =>
    rw [Node.withinAll]
    cases h with
    | head => exact List.subset_append_left _ _
    | tail _ later => exact List.subset_append_of_subset_right _ (ih later)

theorem children_tree_subset {e child : Element} (h : child ∈ e.children) :
    child.tree ⊆ e.tree := by
  obtain ⟨n, member, same⟩ := List.mem_filterMap.mp h
  intro d inside
  exact .tail _ (within_subset_withinAll member (tree_subset_within same inside))

end Xml

namespace Compile

open Xml Payload Text

def digitCount (value : String) : Nat := value.toList.countP fun c => (digitValue? c).isSome

/-- The numbers in a tree are no longer than those that are read. -/
def ShortNumbers (e : Element) : Prop :=
  ∀ d ∈ e.tree, ∀ name ∈ ["PageSize", "Rows"], ∀ value ∈ attr? d name,
    digitCount value ≤ Number.integerDigitLimit

theorem shortNumbers_child {e child : Element} (short : ShortNumbers e)
    (h : child ∈ e.children) : ShortNumbers child :=
  fun d inside => short d (children_tree_subset h inside)

theorem shortNumbers_named {e child : Element} {tag : String} (short : ShortNumbers e)
    (h : child ∈ e.named tag) : ShortNumbers child :=
  shortNumbers_child short (List.mem_filter.mp h).1

theorem shortNumbers_first {e child : Element} {tag : String} (short : ShortNumbers e)
    (h : e.first? tag = some child) : ShortNumbers child :=
  shortNumbers_child short (List.mem_of_find?_eq_some h)

namespace Violations

/-- A required attribute is at fault when it is missing or empty. -/
def ofRequired (e : Element) (name element : String) : List Violation :=
  if attr? e name = none ∨ attr? e name = some "" then [.missing e.tag element name] else []

/-- An attribute with a word is at fault when no word of its set is the same, blanks around it and
its case aside. -/
def ofChoice {α : Type} [Choice α] (e : Element) (name element : String) (fallback : α) :
    List Violation :=
  match attr? e name with
  | none => []
  | some word =>
    if word = "" ∨ ∃ a ∈ Choice.all (α := α), lower (Choice.word a) = lower (trim word) then []
    else [.unknownWord (Choice.title α) word element name (Choice.word fallback)]

def inQuery (parent : String) (e : Element) : List Violation :=
  ofRequired e "Id" s!"{parent}/Query" ++
    ofChoice e "Type" (place parent "Query" (attr e "Id")) QueryKind.select

def inActionQuery (parent : String) (e : Element) : List Violation :=
  ofRequired e "Id" s!"{parent}/ActionQuery" ++
    ofChoice e "Type" (place parent "ActionQuery" (attr e "Id")) ActionKind.insert

def inBackend (e : Element) : List Violation :=
  (e.named "Query").flatMap (inQuery "Feature/Backend") ++
    (e.named "ActionQuery").flatMap (inActionQuery "Feature/Backend")

def inColumn (parent : String) (e : Element) : List Violation :=
  let here := place parent "Column" (attr e "Name")
  ofRequired e "Name" s!"{parent}/Column" ++
    (ofChoice e "Type" here ColumnType.text ++ ofChoice e "Align" here Alignment.left)

def inDataTable (parent : String) (e : Element) : List Violation :=
  ofRequired e "Id" s!"{parent}/DataTable" ++
    (e.named "Column").flatMap (inColumn (place parent "DataTable" (attr e "Id")))

def inField (parent : String) (e : Element) : List Violation :=
  ofRequired e "Name" s!"{parent}/Field" ++
    ofChoice e "Type" (place parent "Field" (attr e "Name")) FieldType.text

def inButton (parent : String) (e : Element) : List Violation :=
  ofChoice e "Type" s!"{parent}/Button" ButtonType.submit ++
    ofChoice e "Style" s!"{parent}/Button" ButtonStyle.primary

def inMessage (parent : String) (e : Element) : List Violation :=
  ofChoice e "Type" s!"{parent}/Message" MessageType.info

def inForm (parent : String) (e : Element) : List Violation :=
  let here := place parent "Form" (attr e "Id")
  ofRequired e "Id" s!"{parent}/Form" ++
    (ofChoice e "Mode" here FormMode.create ++
      ((e.named "Field").flatMap (inField here) ++
        ((e.named "Button").flatMap (inButton here) ++
          (e.named "Message").flatMap (inMessage here))))

def inFrontend (e : Element) : List Violation :=
  (e.named "DataTable").flatMap (inDataTable "Feature/Frontend") ++
    (e.named "Form").flatMap (inForm "Feature/Frontend")

def inListQuery (parent : String) (e : Element) : List Violation :=
  ofChoice e "Type" s!"{parent}/ListQuery" QueryKind.select

def inMapping (e : Element) : List Violation :=
  ofRequired e "Name" s!"Feature/{e.tag}" ++
    (e.first? "ListQuery").toList.flatMap (inListQuery (place "Feature" e.tag (attr e "Name")))

/-- Only the first section of a kind counts; mappings of either tag are taken in order. -/
def inFeature (root : Element) : List Violation :=
  ofRequired root "Name" "Feature" ++
    ((root.first? "Backend").toList.flatMap inBackend ++
      ((root.first? "Frontend").toList.flatMap inFrontend ++
        (root.children.filter isMapping).flatMap inMapping))

end Violations
end Compile
end FeatureSpec
