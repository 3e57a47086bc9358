import FeatureSpec.Host.LowerTable
import FeatureSpec.Host.Mark
/-!
Host names in lower case. A capital sigma at the end of a word has a small letter of its own.
-/
namespace FeatureSpec.Host

def isCased (c : Char) : Bool := Text.inRanges casedRanges c.toNat

def isCaseless (c : Char) : Bool := isNonspacing c || Text.inRanges caselessRanges c.toNat

def smallLetters (c : Char) : List Char :=
  let n := c.toNat
  if n < 0x80 then [c.toLower]
  else if n = 0x130 then ['i', Char.ofNat 0x307]
  else
    match capitalRanges.find? fun (lo, hi, step, _) => lo ≤ n && n ≤ hi && (n - lo) % step == 0 with
    | some (lo, _, _, small) => [Char.ofNat (small + (n - lo))]
    | none => [c]

def endsWord (before after : List Char) : Bool :=
  (before.dropWhile isCaseless).head?.any isCased &&
    !(after.dropWhile isCaseless).head?.any isCased

/-- The rest of a text in lower case; what stands before it is given in reverse. -/
def lowerAfter (before : List Char) : List Char → List Char
  | [] => []
  | c :: rest =>
    let small := if c = 'Σ' then [if endsWord before rest then 'ς' else 'σ'] else smallLetters c
    small ++ lowerAfter (c :: before) rest

def lower (cs : List Char) : List Char := lowerAfter [] cs

end FeatureSpec.Host
