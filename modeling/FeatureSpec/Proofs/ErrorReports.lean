import FeatureSpec.Proofs.LiveOperation
import FeatureSpec.Proofs.LoadCourse
/-!
Which loads the error hook hears of. Every request of a load that fails is reported once, before
the load is over; what the store refuses after all requests went well is not.
-/
namespace FeatureSpec

namespace Trace

def errorCalls (t : Trace) : List Event := (t.calls.filter (·.1 = .onError)).map Prod.snd

@[simp] theorem errorCalls_nil : errorCalls [] = [] := rfl

@[simp] theorem errorCalls_record (r : Log.Record) (t : Trace) :
    errorCalls (.record r :: t) = errorCalls t := rfl

end Trace

open Trace

section Silence

variable {α β : Type}

namespace Client

end Client

end Silence

section Hearing

variable {α β : Type} {w : World} {past : Trace}

namespace Gateway

end Gateway

end Hearing

section Replies

variable {α : Type} {w : World} {past : Trace}

namespace Gateway

end Gateway

end Replies

namespace Session

end Session
end FeatureSpec
