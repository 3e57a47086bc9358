import FeatureSpec.Xml.Event
import FeatureSpec.Xml.Namespace
import FeatureSpec.Xml.Node
/-!
The tree of a document: one root element, with nothing but written spaces around it.
-/
namespace FeatureSpec.Xml.Tree

/-- An element that is still open, its content in reverse. -/
structure Frame where
  name : String
  tag : String
  attrs : Entries String
  scope : Scope
  content : List Node := []
  deriving Repr

/-- The open elements, the innermost first, and the root once it is closed. -/
structure State where
  frames : List Frame := []
  root : Option Element := none
  deriving Repr

def scopeOf : List Frame → Scope
  | frame :: _ => frame.scope
  | [] => Scope.outermost

def attach (frames : List Frame) (e : Element) : State :=
  match frames with
  | [] => { root := some e }
  | frame :: rest =>
    let content := .element e.tag e.attrs e.content :: frame.content
    { frames := { frame with content } :: rest }

def step? (s : State) : Event → Option State
  | .text written cs =>
    match s.frames with
    | [] => if written && cs.all isSpace then some s else none
    | frame :: rest =>
      some { s with
        frames := { frame with content := .text (String.ofList cs) :: frame.content } :: rest }
  | .start name attrs => do
    if s.frames.isEmpty && s.root.isSome then none
    else
      let scope ← (scopeOf s.frames).extend? attrs
      let frame : Frame :=
        { name, tag := ← scope.elementName? name, attrs := ← scope.attributes? attrs, scope }
      return { s with frames := frame :: s.frames }
  | .stop name =>
    match s.frames with
    | frame :: rest =>
      if frame.name == name then some (attach rest ⟨frame.tag, frame.attrs, frame.content.reverse⟩)
      else none
    | [] => none

def ofEvents? (events : List Event) : Option Element := do
  let s ← events.foldlM step? {}
  if s.frames.isEmpty then s.root else none

end FeatureSpec.Xml.Tree
