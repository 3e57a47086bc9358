import FeatureSpec.Json.Reader
import FeatureSpec.Octets
/-!
JSON in octets. The first octets tell UTF-8, UTF-16 and UTF-32 apart, with or without a byte
order mark.
-/
namespace FeatureSpec.Json

def ofUnits16? : List Nat → Option (List Char)
  | [] => some []
  | u :: rest =>
    if isHighSurrogate u then
      match rest with
      | v :: rest => do
        if isLowSurrogate v then return pairChar u v :: (← ofUnits16? rest) else none
      | [] => none
    else if isLowSurrogate u then none
    else do return Char.ofNat u :: (← ofUnits16? rest)

def ofUnits32? (bigEndian : Bool) : Octets → Option (List Char)
  | [] => some []
  | a :: b :: c :: d :: rest => do
    let digits := [a, b, c, d].map UInt8.toNat
    let n := Text.ofDigits 256 (if bigEndian then digits else digits.reverse)
    if n.isValidChar then return Char.ofNat n :: (← ofUnits32? bigEndian rest) else none
  | _ => none

def utf16? (bigEndian : Bool) (os : Octets) : Option (List Char) :=
  (os.units16? bigEndian).bind ofUnits16?

/-- The characters of a text in octets. Without a mark, zeros among the first octets show the
width and the order of the units. -/
def charsOfOctets? (os : Octets) : Option (List Char) :=
  match os with
  | 0x00 :: 0x00 :: 0xFE :: 0xFF :: rest => ofUnits32? true rest
  | 0xFF :: 0xFE :: 0x00 :: 0x00 :: rest => ofUnits32? false rest
  | 0xFE :: 0xFF :: rest => utf16? true rest
  | 0xFF :: 0xFE :: rest => utf16? false rest
  | 0xEF :: 0xBB :: 0xBF :: rest => (Octets.utf8? rest).map String.toList
  | a :: b :: c :: d :: _ =>
    if a = 0 then (if b = 0 then ofUnits32? true os else utf16? true os)
    else if b = 0 then (if c = 0 ∧ d = 0 then ofUnits32? false os else utf16? false os)
    else os.utf8?.map String.toList
  | [0, _] => utf16? true os
  | [_, 0] => utf16? false os
  | _ => os.utf8?.map String.toList

def readOctets (os : Octets) : Except Fault Json :=
  match charsOfOctets? os with
  | some cs => readChars cs
  | none => .error .malformed

end FeatureSpec.Json
