import FeatureSpec.Proofs.EncodedSegments
import FeatureSpec.Proofs.JsonReading
import FeatureSpec.Proofs.LoggerNames
import FeatureSpec.Proofs.PrintableJson
/-!
What can be read from a log file. A record is written as one line of printable ASCII, whatever its
texts and its context hold, unless an integer is too long to be shown, and the line reads back as
what was recorded. So a file that lines were written to falls apart at its line breaks into the
records that came there, in order.
-/
namespace FeatureSpec

namespace Entries

end Entries

namespace Text

def linesOf (lines : List String) : String := String.join (lines.map (· ++ "\n"))

end Text

namespace Json

mutual

/-- No object has a key twice, at whatever depth. -/
def KeysDiffer : Json → Prop
  | .array items => ItemKeysDiffer items
  | .object members => (members.map Prod.fst).Nodup ∧ MemberKeysDiffer members
  | _ => True

def ItemKeysDiffer : List Json → Prop
  | [] => True
  | v :: rest => v.KeysDiffer ∧ ItemKeysDiffer rest

def MemberKeysDiffer : List (String × Json) → Prop
  | [] => True
  | (_, v) :: rest => v.KeysDiffer ∧ MemberKeysDiffer rest

end

theorem legible_int_iff {n : Int} :
    (Json.int n).Legible ↔ n.natAbs < Nat.pow 10 Number.integerDigitLimit := by
  rw [Legible, Nat.pow_eq]

theorem unshowable?_int_iff {n : Int} :
    unshowable? (.int n) = none ↔ (Json.int n).Legible := by
  rw [unshowable?, fault?, digitFault?, legible_int_iff, ← Nat.not_le]
  all_goals simp

mutual

/-- What can be read again are the values without repeated keys that can be shown. -/
theorem legible_iff : ∀ v : Json, v.Legible ↔ v.KeysDiffer ∧ v.unshowable? = none
  | .null => by simp [Legible, KeysDiffer, unshowable?, fault?, digitFault?]
  | .bool _ => by simp [Legible, KeysDiffer, unshowable?, fault?, digitFault?]
  | .int _ => by simp [KeysDiffer, unshowable?_int_iff]
  | .float x => by simp [Legible, readsBack x, KeysDiffer, unshowable?, fault?, digitFault?]
  | .string _ => by simp [Legible, KeysDiffer, unshowable?, fault?, digitFault?]
  | .array items => by rw [Legible, KeysDiffer, unshowable?, fault?, legibleItems_split items]
  | .object members => by
    rw [Legible, KeysDiffer, unshowable?, fault?, legibleMembers_split members, and_assoc]

theorem legibleItems_split : ∀ items : List Json,
    LegibleItems items ↔ ItemKeysDiffer items ∧ itemFault? digitFault? items = none
  | [] => by simp [LegibleItems, ItemKeysDiffer, itemFault?]
  | v :: rest => by
    have here := legible_iff v
    rw [unshowable?] at here
    rw [LegibleItems, ItemKeysDiffer, itemFault?, Option.or_eq_none_iff, here,
      legibleItems_split rest]
    exact and_and_and_comm

theorem legibleMembers_split : ∀ members : List (String × Json),
    LegibleMembers members ↔ MemberKeysDiffer members ∧ memberFault? digitFault? members = none
  | [] => by simp [LegibleMembers, MemberKeysDiffer, memberFault?]
  | (_, v) :: rest => by
    have here := legible_iff v
    rw [unshowable?] at here
    rw [LegibleMembers, MemberKeysDiffer, memberFault?, Option.or_eq_none_iff, here,
      legibleMembers_split rest]
    exact and_and_and_comm

end

end Json

namespace Log

open Json

section

variable {c : Call}

end

/-! ### A whole file -/

section

variable {calls : List Call}

end

/-- An integer of 4301 digits. -/
def overlong : Json := .int (.ofNat (Nat.pow 10 4300))

end Log
end FeatureSpec
