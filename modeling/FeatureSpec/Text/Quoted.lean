import FeatureSpec.Text.Digit
import FeatureSpec.Text.HiddenTable
import FeatureSpec.Text.Ranges
/-!
Texts in quotes, as messages show them. The quote is an apostrophe, unless the text holds an
apostrophe and no quotation mark. The quote and the backslash are escaped, and so is every
character without a glyph of its own.
-/
namespace FeatureSpec.Text

def isPrintable (c : Char) : Bool := !inRanges hiddenRanges c.toNat

def quoteFor (cs : List Char) : Char :=
  if cs.contains '\'' && !cs.contains '"' then '"' else '\''

def quotedChar (quote c : Char) : List Char :=
  if c == quote || c == '\\' then ['\\', c]
  else if c == '\n' then ['\\', 'n']
  else if c == '\r' then ['\\', 'r']
  else if c == '\t' then ['\\', 't']
  else if isPrintable c then [c]
  else if c.toNat < 0x100 then '\\' :: 'x' :: hex 2 c.toNat
  else if c.toNat < 0x10000 then '\\' :: 'u' :: hex 4 c.toNat
  else '\\' :: 'U' :: hex 8 c.toNat

def quoted (s : String) : String :=
  let quote := quoteFor s.toList
  String.ofList (quote :: s.toList.flatMap (quotedChar quote) ++ [quote])

end FeatureSpec.Text
