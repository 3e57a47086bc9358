import FeatureSpec.Proofs.LegibleFeature
import FeatureSpec.Proofs.Placeholders
/-!
The parameters of compiled queries. They are the placeholders of the text of an element, and of the
text that is stored without the blanks around it.
-/
namespace FeatureSpec

namespace Compile

open Xml

/-- A stored text and its parameters are those of this element. -/
structure ReadFrom (e : Element) (sql : String) (parameters : List Parameter) : Prop where
  stored : sql = Text.trim (String.ofList e.chars)
  ofElement : parameters = Placeholder.parameters (String.ofList e.chars)
  ofStored : parameters = Placeholder.parameters sql

def inSection (root : Element) (sectionTag tag : String) : List Element :=
  (root.first? sectionTag).toList.flatMap (·.named tag)

/-- Every query of a feature belongs to an element of the document, in order. -/
structure QueriesRead (root : Element) (f : Feature) : Prop where
  queries : List.Forall₂ (fun e (q : Query) => ReadFrom e q.sql q.parameters)
    (inSection root "Backend" "Query") f.backend.queries
  actionQueries : List.Forall₂ (fun e (q : ActionQuery) => ReadFrom e q.sql q.parameters)
    (inSection root "Backend" "ActionQuery") f.backend.actionQueries
  listQueries : List.Forall₂ (fun e (m : Mapping) =>
      Option.Rel (fun child (q : ListQuery) => ReadFrom child q.sql q.parameters)
        (e.first? "ListQuery") m.listQuery)
    (root.children.filter isMapping) f.mappings

theorem readFrom_body (e : Element) :
    ReadFrom e (body e) (Placeholder.parameters (body e)) := by
  have trimmed : body e = Text.trim (String.ofList e.chars) := by
    rw [body, Text.trim, String.toList_ofList]
  refine ⟨trimmed, ?_, rfl⟩
  rw [trimmed, Placeholder.parameters_trim]

section

variable {α β : Type}

theorem returns_map {x : Visit α} {g : α → β} {P : α → Prop} {Q : β → Prop} (h : Returns x P)
    (weaken : ∀ a, P a → Q (g a)) : Returns (g <$> x) Q :=
  returns_bind h fun a held => returns_pure (weaken a held)

theorem returns_each_related {R : α → β → Prop} {f : α → Visit β} {items : List α}
    (h : ∀ a ∈ items, Returns (f a) (R a)) :
    Returns (Visit.each f items) (List.Forall₂ R items) := by
  induction items with
  | nil => exact returns_pure .nil
  | cons a rest ih =>
    refine returns_bind (h a (.head _)) fun b first => ?_
    refine returns_bind (ih fun c later => h c (.tail _ later)) fun bs others => ?_
    exact returns_pure (.cons first others)

end

theorem returns_query (parent : String) (e : Element) :
    Returns (query parent e) fun q => ReadFrom e q.sql q.parameters := by
  refine returns_after fun id => returns_after fun kind => returns_pure ?_
  dsimp only
  exact readFrom_body e

theorem returns_actionQuery (parent : String) (e : Element) :
    Returns (actionQuery parent e) fun q => ReadFrom e q.sql q.parameters := by
  refine returns_after fun id => returns_after fun kind => returns_pure ?_
  dsimp only
  exact readFrom_body e

theorem returns_listQuery (parent : String) (e : Element) :
    Returns (listQuery parent e) fun q => ReadFrom e q.sql q.parameters := by
  refine returns_after fun kind => returns_pure ?_
  dsimp only
  exact readFrom_body e

theorem returns_backend (e : Element) :
    Returns (backend e) fun b =>
      List.Forall₂ (fun e (q : Query) => ReadFrom e q.sql q.parameters)
        (e.named "Query") b.queries ∧
      List.Forall₂ (fun e (q : ActionQuery) => ReadFrom e q.sql q.parameters)
        (e.named "ActionQuery") b.actionQueries := by
  refine returns_bind (returns_each_related fun q _ => returns_query _ q) fun queries first => ?_
  refine returns_bind (returns_each_related fun a _ => returns_actionQuery _ a)
    fun actions second => ?_
  exact returns_pure ⟨first, second⟩

theorem returns_mapping_listQuery (e : Element) :
    Returns (mapping e) fun m =>
      Option.Rel (fun child (q : ListQuery) => ReadFrom child q.sql q.parameters)
        (e.first? "ListQuery") m.listQuery := by
  refine returns_after fun name => ?_
  have listQuery : Returns
      (section? none (fun child => some <$> listQuery (place "Feature" e.tag name) child)
        (e.first? "ListQuery"))
      (Option.Rel (fun child (q : ListQuery) => ReadFrom child q.sql q.parameters)
        (e.first? "ListQuery")) := by
    cases e.first? "ListQuery" with
    | none => exact returns_pure .none
    | some child => exact returns_map (returns_listQuery _ child) fun q read => .some read
  refine returns_bind listQuery fun q read => ?_
  dsimp only
  split
  · exact returns_after fun _ => returns_after fun _ => returns_pure read
  · exact returns_after fun _ => returns_pure read

theorem returns_feature_queries (root : Element) :
    Returns (feature root) (QueriesRead root) := by
  have sections : Returns (section? {} backend (root.first? "Backend")) fun b =>
      List.Forall₂ (fun e (q : Query) => ReadFrom e q.sql q.parameters)
        (inSection root "Backend" "Query") b.queries ∧
      List.Forall₂ (fun e (q : ActionQuery) => ReadFrom e q.sql q.parameters)
        (inSection root "Backend" "ActionQuery") b.actionQueries := by
    unfold inSection
    cases root.first? "Backend" with
    | none => exact returns_pure ⟨.nil, .nil⟩
    | some e =>
      simp only [Option.toList_some, List.flatMap_singleton]
      exact returns_backend e
  refine returns_after fun name => ?_
  refine returns_bind sections fun b read => returns_after fun frontend => ?_
  refine returns_bind (returns_each_related fun m _ => returns_mapping_listQuery m)
    fun ms also => ?_
  exact returns_pure ⟨read.1, read.2, also⟩

theorem queriesRead_of_compileTree {options : Document.Options} {root : Element} {f : Feature}
    (returned : (Document.compileTree options root).outcome = .ok f) : QueriesRead root f :=
  holds_of_compileTree (returns_feature_queries root) returned

end Compile

namespace Placeholder

/-- The names of a text are those of the placeholders that stand in it, in order, and of the parts
that a reader takes from left to right; a parameter has nothing but its name. Blanks around a text
do not matter, so that the parameters of a compiled query are those of its element and of what is
stored of it. -/
theorem placeholders_listed (text : String) :
    Lists text (names text) ∧
      names text = (((parts text.toList).filterMap Part.name?).eraseDups).map String.ofList ∧
      parameters text = (names text).map (fun name =>
        { name, type := none, required := false, validation := none }) ∧
      names (Text.trim text) = names text ∧
      parameters (Text.trim text) = parameters text ∧
      ∀ (options : Document.Options) (root : Xml.Element) (f : Feature),
        (Document.compileTree options root).outcome = .ok f → Compile.QueriesRead root f := by
  refine ⟨lists_names text, ?_, rfl, names_trim text, parameters_trim text, ?_⟩
  · rw [← occurrences_eq_parts, names]
  · intro options root f returned
    exact Compile.queriesRead_of_compileTree returned

end Placeholder
end FeatureSpec
