import FeatureSpec.Host.Mark
import FeatureSpec.Host.ScriptTable
/-!
Labels that hold letters of scripts written from right to left.
-/
namespace FeatureSpec.Host

inductive Direction where
  | left
  | right
  | number
  | arabicNumber
  | attached
  | neutral
  deriving DecidableEq, Repr

/-- Marks without room of their own that count as letters from left to right. -/
def leftwardMarks : List Nat := [0xCBF, 0xCC6, 0x11A07, 0x11A08, 0x11C3F]

def directionOf (c : Char) : Direction :=
  let n := c.toNat
  if c.isDigit || (0x6F0 ≤ n && n ≤ 0x6F9) then .number
  else if (0x660 ≤ n && n ≤ 0x669) || (0x10D30 ≤ n && n ≤ 0x10D39) then .arabicNumber
  else if isNonspacing c && !leftwardMarks.contains n then .attached
  else if Text.inRanges rightToLeftRanges n then .right
  else if Text.inRanges neutralRanges n then .neutral
  else .left

/-- A label with anything that is written from right to left starts with such a letter, holds none
of the other direction, keeps to one kind of digits, and ends in a letter or digit, marks aside. -/
def keepsDirection (label : List Char) : Bool :=
  let ds := label.map directionOf
  if ds.contains .right || ds.contains .arabicNumber then
    let last := (ds.reverse.dropWhile (· == .attached)).head?
    ds.head? == some .right && !ds.contains .left &&
      !(ds.contains .number && ds.contains .arabicNumber) && last != some .neutral
  else true

end FeatureSpec.Host
