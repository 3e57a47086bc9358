import FeatureSpec.Compile.Violation
import FeatureSpec.Logged
/-!
Visits: how the compiler goes through a document. A visit knows whether violations are fatal and
what the document is called; it logs on its way and ends at the first failure.
-/
namespace FeatureSpec

structure Document.Options where
  strict : Bool := false
  source : Option String := none
  deriving DecidableEq, Repr

namespace Compile

def Visit (α : Type) := Document.Options → Logged α

namespace Visit

variable {α β : Type}

instance : Monad Visit where
  pure a := fun _ => pure a
  bind x f := fun options => x options >>= fun a => f a options

def fail (f : Failure) : Visit α := fun _ => Logged.fail f

def debug (message : Option String → String) : Visit Unit := fun options =>
  Logged.log (Log.note Log.debug .compiler (message options.source))

/-- Comes upon a violation, which ends a strict visit and may leave a record in a lenient one. -/
def violate (v : Violation) : Visit Unit := fun options =>
  if options.strict then Logged.fail (v.failure options.source)
  else ⟨(v.record? options.source).toList, .ok ()⟩

def each (f : α → Visit β) : List α → Visit (List β)
  | [] => pure []
  | a :: rest => do
    let b ← f a
    return b :: (← each f rest)

theorem bind_apply (x : Visit α) (f : α → Visit β) (options : Document.Options) :
    (x >>= f) options = x options >>= fun a => f a options := rfl

end Visit
end Compile
end FeatureSpec
