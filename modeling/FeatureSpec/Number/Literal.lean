import FeatureSpec.Number.Decimal
import FeatureSpec.Text.Blank
import FeatureSpec.Text.Digit
/-!
Number literals. A decimal literal is an optional sign, digits with an optional point, and an
optional exponent; a loose literal may also be framed by white space, use the decimal digits of any
script, single underscores between digits, and the words for infinity and "not a number".
-/
namespace FeatureSpec.Number

open Text

def integerDigitLimit : Nat := 4300

def limitText : String :=
  s!"Exceeds the limit ({integerDigitLimit} digits) for integer string conversion"

def limitAdvice : String := "; use sys.set_int_max_str_digits() to increase the limit"

def digitLimitMessage (count : Nat) : String :=
  s!"{limitText}: value has {count} digits{limitAdvice}"

def shownLimitMessage : String := limitText ++ limitAdvice

def spanDigits (cs : List Char) : List Char × List Char := cs.span Char.isDigit

def natOfDigits (cs : List Char) : Nat := ofDigits 10 (cs.map fun c => c.toNat - 48)

def signed (negative : Bool) (n : Nat) : Int := if negative then -(n : Int) else (n : Int)

def spanSign : List Char → Bool × List Char
  | '-' :: rest => (true, rest)
  | '+' :: rest => (false, rest)
  | cs => (false, cs)

def exponentPart? : List Char → Option Int
  | [] => some 0
  | c :: rest =>
    if c == 'e' || c == 'E' then
      let (negative, digits) := spanSign rest
      if digits.isEmpty || !digits.all Char.isDigit then none
      else some (signed negative (natOfDigits digits))
    else none

def decimalOf (negative : Bool) (whole fraction : List Char) (exponent : Int) : Decimal :=
  ⟨negative, natOfDigits (whole ++ fraction), exponent - (fraction.length : Int)⟩

/-- An unsigned decimal literal; a digit must stand before or after the point. -/
def decimalMagnitude? (negative : Bool) (cs : List Char) : Option Decimal :=
  let (whole, rest) := spanDigits cs
  match rest with
  | '.' :: rest =>
    let (fraction, rest) := spanDigits rest
    if whole.isEmpty && fraction.isEmpty then none
    else (exponentPart? rest).map (decimalOf negative whole fraction)
  | rest =>
    if whole.isEmpty then none else (exponentPart? rest).map (decimalOf negative whole [])

/-- Removes single underscores that stand between two digits; any other one is refused. -/
def dropUnderscores? : Option Char → List Char → Option (List Char)
  | _, [] => some []
  | before, '_' :: rest =>
    match before, rest with
    | some b, d :: _ =>
      if b.isDigit && d.isDigit then dropUnderscores? (some '_') rest else none
    | _, _ => none
  | _, c :: rest => (dropUnderscores? (some c) rest).map (c :: ·)

def asciiDigits (cs : List Char) : List Char :=
  cs.map fun c => match digitValue? c with
    | some d => Char.ofNat (48 + d)
    | none => c

def looseChars? (s : String) : Option (List Char) :=
  dropUnderscores? none (asciiDigits (trimBy isWhiteSpace s.toList))

def looseInt? (s : String) : Option Int := do
  let cs ← looseChars? s
  let (negative, digits) := spanSign cs
  if digits.isEmpty || !digits.all Char.isDigit || integerDigitLimit < digits.length then none
  else some (signed negative (natOfDigits digits))

def looseFloat? (s : String) : Option Binary64 := do
  let cs ← looseChars? s
  let (negative, rest) := spanSign cs
  let word := String.ofList (rest.map Char.toLower)
  if word == "inf" || word == "infinity" then some (.infinite negative)
  else if word == "nan" then some .nan
  else (decimalMagnitude? negative rest).map Decimal.toBinary64

end FeatureSpec.Number
