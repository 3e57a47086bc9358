import FeatureSpec.Text.Ranges
import FeatureSpec.Text.WidthTable
/-!
The columns that a text takes in a terminal. A joiner and the character after it share the columns
of what stands before them, and the picture sign widens some characters that take one column.
-/
namespace FeatureSpec.Text

def charWidth (c : Char) : Nat :=
  let n := c.toNat
  if n < 0x20 || (0x7F ≤ n && n < 0xA0) || inRanges attachedRanges n then 0
  else if inRanges wideRanges n then 2
  else 1

/-- Makes one sign of the characters beside it. -/
def joiner : Char := '\u200D'

/-- Asks for the character before it as a picture. -/
def pictureSign : Char := '\uFE0F'

def pictureExtra : Option Char → Nat
  | some c => if inRanges pictureRanges c.toNat then 1 else 0
  | none => 0

/-- The columns of what is left of a text, given the last character that took any. After a joiner
one character is passed over. -/
def columnsAfter (joined : Bool) (last : Option Char) : List Char → Nat
  | [] => 0
  | c :: rest =>
    if joined then columnsAfter false last rest
    else if c = joiner then columnsAfter true last rest
    else if c = pictureSign then pictureExtra last + columnsAfter false none rest
    else if charWidth c = 0 then columnsAfter false last rest
    else charWidth c + columnsAfter false (some c) rest

def columns (cs : List Char) : Nat := columnsAfter false none cs

def width (s : String) : Nat := columns s.toList

end FeatureSpec.Text
