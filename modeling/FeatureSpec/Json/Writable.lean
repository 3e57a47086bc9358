import FeatureSpec.Failure
import FeatureSpec.Json.Basic
/-!
Values that cannot be written because of a number in them: an integer of too many digits or, where
only finite numbers may be, another one. Values may nest to any depth.
-/
namespace FeatureSpec.Json

mutual

def fault? (check : Json → Option ValueFault) : Json → Option ValueFault
  | .array items => itemFault? check items
  | .object members => memberFault? check members
  | v => check v

def itemFault? (check : Json → Option ValueFault) : List Json → Option ValueFault
  | [] => none
  | v :: rest => (fault? check v).or (itemFault? check rest)

def memberFault? (check : Json → Option ValueFault) : List (String × Json) → Option ValueFault
  | [] => none
  | (_, v) :: rest => (fault? check v).or (memberFault? check rest)

end

def digitFault? : Json → Option ValueFault
  | .int n =>
    if Nat.pow 10 Number.integerDigitLimit ≤ n.natAbs then some .tooManyDigitsToShow else none
  | _ => none

def numberFault? : Json → Option ValueFault
  | .float x => if x.isFinite then none else some .notJsonNumber
  | v => digitFault? v

def unshowable? (v : Json) : Option ValueFault := v.fault? digitFault?

/-- Why a value cannot be the body of a request, which holds finite numbers only. -/
def unwritable? (v : Json) : Option ValueFault := v.fault? numberFault?

theorem memberFault?_eq_none_iff {check : Json → Option ValueFault}
    {members : List (String × Json)} :
    memberFault? check members = none ↔ ∀ kv ∈ members, fault? check kv.2 = none := by
  induction members with
  | nil => simp [memberFault?]
  | cons kv rest ih => simp [memberFault?, ih]

end FeatureSpec.Json
