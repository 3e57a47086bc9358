/-!
Letter case, as far as a comparison with an ASCII word can tell: besides the ASCII letters,
two characters have an ASCII letter in their full lower case, and ten have a full upper case
made of ASCII letters alone. All other characters stay as they are.
-/
namespace FeatureSpec.Text

/-- Full lower case of a character that has an ASCII letter in it; other characters stay. -/
def lowerChar (c : Char) : List Char :=
  if c.toNat == 0x130 then ['i', Char.ofNat 0x307]
  else if c.toNat == 0x212A then ['k']
  else [c.toLower]

/-- Full upper case of a character where that is ASCII; other characters stay. -/
def upperChar (c : Char) : List Char :=
  match c.toNat with
  | 0xDF => ['S', 'S']
  | 0x131 => ['I']
  | 0x17F => ['S']
  | 0xFB00 => ['F', 'F']
  | 0xFB01 => ['F', 'I']
  | 0xFB02 => ['F', 'L']
  | 0xFB03 => ['F', 'F', 'I']
  | 0xFB04 => ['F', 'F', 'L']
  | 0xFB05 => ['S', 'T']
  | 0xFB06 => ['S', 'T']
  | _ => [c.toUpper]

def lower (s : String) : String := String.ofList (s.toList.flatMap lowerChar)

def upper (s : String) : String := String.ofList (s.toList.flatMap upperChar)

end FeatureSpec.Text
