import FeatureSpec.Host.Mark
import FeatureSpec.Host.ScriptTable
/-!
Characters that a label may hold only beside certain others: joiners, a dot between letters, numeral
signs, and the digits of two kinds that look alike.
-/
namespace FeatureSpec.Host

def followsVirama (before : List Char) : Bool :=
  before.head?.any fun c => combiningClass c == virama

def isTransparent (c : Char) : Bool :=
  (isNonspacing c && c.toNat != 0x1171E) || c.toNat == 0x1E94B

def breaksJoin (before after : List Char) : Bool :=
  ((before.dropWhile isTransparent).head?.any fun c => Text.inRanges joinsNextRanges c.toNat) &&
    (after.dropWhile isTransparent).head?.any fun c => Text.inRanges joinsPreviousRanges c.toNat

def isArabicDigit (c : Char) : Bool := 0x660 ≤ c.toNat && c.toNat ≤ 0x669

def isPersianDigit (c : Char) : Bool := 0x6F0 ≤ c.toNat && c.toNat ≤ 0x6F9

def fitsContext (before : List Char) (c : Char) (after : List Char) : Bool :=
  if isArabicDigit c then !(before ++ after).any isPersianDigit
  else if isPersianDigit c then !(before ++ after).any isArabicDigit
  else
    match c.toNat with
    | 0x200C => followsVirama before || breaksJoin before after
    | 0x200D => followsVirama before
    | 0xB7 => before.head? == some 'l' && after.head? == some 'l'
    | 0x375 => after.head?.any fun d => Text.inRanges greekRanges d.toNat
    | 0x5F3 | 0x5F4 => before.head?.any fun d => Text.inRanges hebrewRanges d.toNat
    | 0x30FB => (before ++ after).any fun d => Text.inRanges japaneseRanges d.toNat
    | _ => false

end FeatureSpec.Host
