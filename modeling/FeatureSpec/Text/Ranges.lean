/-!
Sets of code points, written as increasing disjoint ranges.
-/
namespace FeatureSpec.Text

/-- Membership. The scan ends at the first range that starts above `n`. -/
def inRanges : List (Nat × Nat) → Nat → Bool
  | [], _ => false
  | (lo, hi) :: rest, n => decide (lo ≤ n) && (decide (n ≤ hi) || inRanges rest n)

/-- Membership in a set of runs, each with its first code point, its last and their distance. -/
def inRuns (runs : List (Nat × Nat × Nat)) (n : Nat) : Bool :=
  runs.any fun (lo, hi, step) => decide (lo ≤ n) && decide (n ≤ hi) && (n - lo) % step == 0

end FeatureSpec.Text
