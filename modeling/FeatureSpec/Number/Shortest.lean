import FeatureSpec.Number.Decimal
/-!
The decimal text of a double: the fewest digits that read back as the same double, and of
those the nearest; positional notation for decimal exponents from -4 to 15, an exponent of at
least two digits otherwise.
-/
namespace FeatureSpec.Binary64

/-- The decimal exponent of the first digit of `num / den`, found among the neighbours of an
estimate from the binary exponent. -/
def leadingExponent (num den : Nat) : Int :=
  let estimate := ((Nat.log2 num : Int) - (Nat.log2 den : Int)) * 30103 / 100000
  let reaches (k : Int) : Bool :=
    let (n, d) := scale 10 num den k
    decide (d ≤ n)
  if reaches (estimate + 1) then estimate + 1
  else if reaches estimate then estimate
  else estimate - 1

/-- The two neighbours of `num / den` on the grid `10 ^ grid`, the nearer one first and of two
equally near ones the even one. -/
def neighbours (num den : Nat) (grid : Int) : List Nat :=
  let (n, d) := scale 10 num den grid
  let q := n / d
  let r := n % d
  if 2 * r < d ∨ (2 * r = d ∧ q % 2 = 0) then [q, q + 1] else [q + 1, q]

def exactDecimal (m : Nat) (e : Int) : Decimal :=
  if 0 ≤ e then ⟨false, m * Nat.pow 2 e.toNat, 0⟩
  else ⟨false, m * Nat.pow 5 (-e).toNat, e⟩

/-- The first decimal of at most 17 digits, fewest first, that reads back as the magnitude;
the exact decimal reads back in any case. -/
def shortest (m : Nat) (e : Int) : Decimal :=
  let (num, den) := ratio m e
  let lead := leadingExponent num den
  let target := ofSignificand false m e
  let candidates := (List.range 17).flatMap fun (i : Nat) =>
    let grid := lead - (i : Int)
    (neighbours num den grid).map fun q => (⟨false, q, grid⟩ : Decimal)
  ((candidates.find? fun d => d.toBinary64 == target).getD (exactDecimal m e)).normalize

def positional (ds : List Char) (point : Int) : List Char :=
  if point ≤ 0 then '0' :: '.' :: List.replicate (-point).toNat '0' ++ ds
  else
    let k := point.toNat
    if ds.length ≤ k then ds ++ List.replicate (k - ds.length) '0' ++ ['.', '0']
    else ds.take k ++ '.' :: ds.drop k

def exponentChars (exponent : Int) : List Char :=
  let digits := Nat.toDigits 10 exponent.natAbs
  let padded := if digits.length < 2 then '0' :: digits else digits
  'e' :: (if exponent < 0 then '-' else '+') :: padded

def scientific (ds : List Char) (exponent : Int) : List Char :=
  let fraction := if 1 < ds.length then '.' :: ds.drop 1 else []
  ds.take 1 ++ fraction ++ exponentChars exponent

def magnitudeText (m : Nat) (e : Int) : List Char :=
  let d := shortest m e
  let ds := Nat.toDigits 10 d.digits
  let lead := d.exponent + (ds.length : Int) - 1
  if -4 ≤ lead ∧ lead < 16 then positional ds (lead + 1) else scientific ds lead

def text : Binary64 → String
  | .finite negative m e _ =>
    let magnitude := if m = 0 then ['0', '.', '0'] else magnitudeText m e
    String.ofList (if negative then '-' :: magnitude else magnitude)
  | .infinite negative => if negative then "-inf" else "inf"
  | .nan => "nan"

end FeatureSpec.Binary64
