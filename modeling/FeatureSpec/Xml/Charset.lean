import FeatureSpec.Octets
import FeatureSpec.Text.Digit
import FeatureSpec.Xml.Character
import FeatureSpec.Xml.CharsetTable
/-!
How the octets of a document stand for characters.
-/
namespace FeatureSpec.Xml

open Text

inductive Fault where
  | malformed
  | wideCharset
  | undefinedCharset
  deriving DecidableEq, Repr

inductive Charset where
  | utf8
  | utf16 (bigEndian : Bool)
  | latin1
  /-- One octet for each character; some octets may stand for none. -/
  | eightBit (char? : UInt8 → Option Char)

namespace Charset

def ascii : Charset := .eightBit fun o => if o < 128 then some (Char.ofNat o.toNat) else none

def alphabet : Charset → Alphabet
  | utf16 _ | latin1 => .extended
  | utf8 | eightBit _ => .standard

/-- The characters in groups of four hexadecimal digits; U+FFFD marks a gap. -/
def tableChars : List Char → List (Option Char)
  | a :: b :: c :: d :: rest =>
    let code := ofDigits 16 ([a, b, c, d].filterMap hexDigit?)
    (if code = 0xFFFD then none else some (Char.ofNat code)) :: tableChars rest
  | _ => []

def withUpperHalf (table : String) : Charset :=
  let upper := (tableChars table.toList).toArray
  .eightBit fun o =>
    if o < 128 then some (Char.ofNat o.toNat) else (upper[o.toNat - 128]?).join

/-- A name in normal form: lower case, and one underscore for every run of characters other
than letters, digits and dots, where such a run stands between two of those. -/
def normalName (name : String) : String :=
  let rec go (started pending : Bool) : List Char → List Char
    | [] => []
    | c :: rest =>
      if c.isAlphanum || c == '.' then
        (if pending && started then ['_'] else []) ++ c.toLower :: go true false rest
      else go started true rest
  String.ofList (go false false name.toList)

def known? (name : String) : Option (Except Fault Charset) :=
  if asciiSets.contains name then some (.ok ascii)
  else if tildelessSets.contains name then
    some (.ok (.eightBit fun o =>
      if o < 128 && o != 126 then some (Char.ofNat o.toNat) else none))
  else if wideSets.contains name then some (.error .wideCharset)
  else if undefinedSets.contains name then some (.error .undefinedCharset)
  else (eightBitSets.find? fun set => set.1.contains name).map fun set =>
    .ok (withUpperHalf set.2)

/-- The set that a document names other than by one of the names that need no table. Dots may
stand for underscores in most names. -/
def named (name : String) : Except Fault Charset :=
  let normal := normalName name
  let undotted := String.ofList (normal.toList.map fun c => if c == '.' then '_' else c)
  match known? normal with
  | some result => result
  | none =>
    if dotlessSets.contains undotted then .error .malformed
    else (known? undotted).getD (.error .malformed)

def ofUnits16? : List Nat → Option (List Char)
  | [] => some []
  | u :: rest =>
    if 0xD800 ≤ u && u < 0xDC00 then
      match rest with
      | v :: rest => do
        return Char.ofNat (0x10000 + (u - 0xD800) * 0x400 + v % 0x400) :: (← ofUnits16? rest)
      | [] => none
    else if 0xDC00 ≤ u && u < 0xE000 then none
    else do return Char.ofNat u :: (← ofUnits16? rest)

def decode? : Charset → Octets → Option (List Char)
  | .utf8, os => os.utf8?.map String.toList
  | .utf16 bigEndian, os => (os.units16? bigEndian).bind ofUnits16?
  | .latin1, os => some (os.map fun o => Char.ofNat o.toNat)
  | .eightBit char?, os => os.mapM char?

end Charset
end FeatureSpec.Xml
