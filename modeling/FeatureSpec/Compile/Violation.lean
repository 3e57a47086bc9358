import FeatureSpec.Failure
import FeatureSpec.Log.Record
/-!
Violations: what a strict compilation refuses in a document and a lenient one passes over.
-/
namespace FeatureSpec.Compile

def sourceName (unnamed : String) (source : Option String) : String :=
  match source with
  | some s => if s = "" then unnamed else s
  | none => unnamed

inductive Violation where
  | missing (tag element attr : String)
  /-- An attribute has a word that its set does not have; `fallback` is used instead. -/
  | unknownWord (title word element attr fallback : String)
  deriving DecidableEq, Repr

namespace Violation

def element : Violation → String
  | .missing _ element _ => element
  | .unknownWord _ _ element _ _ => element

def attr : Violation → String
  | .missing _ _ attr => attr
  | .unknownWord _ _ _ attr _ => attr

def fault : Violation → DocumentFault
  | .missing tag _ _ => .missingAttribute tag
  | .unknownWord title word _ _ _ => .unknownWord title word

def failure (source : Option String) (v : Violation) : Failure :=
  .inDocument v.fault ⟨source, some v.element, some v.attr⟩

def record? (source : Option String) (v : Violation) : Option Log.Record :=
  let place := sourceName "<spec>" source
  match v with
  | .missing .. => none
  | .unknownWord title word element _ fallback =>
    some <| Log.note Log.warning .compiler
      s!"{place}: unknown {title} '{word}' at {element}, using '{fallback}'"

end Violation
end FeatureSpec.Compile
