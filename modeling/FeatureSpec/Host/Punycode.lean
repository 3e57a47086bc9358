/-!
Labels in ASCII. The ASCII characters of a label come first. After a hyphen follow digits of base 36
that tell, for every other character in the order of code points, how many places later it is
inserted; how long a number goes on adapts to the numbers before it.
-/
namespace FeatureSpec.Host.Punycode

def digitChar (d : Nat) : Char :=
  if d < 26 then Char.ofNat (97 + d) else Char.ofNat (48 + (d - 26))

def digitValue? (c : Char) : Option Nat :=
  if 'a' ≤ c && c ≤ 'z' then some (c.toNat - 97)
  else if 'A' ≤ c && c ≤ 'Z' then some (c.toNat - 65)
  else if c.isDigit then some (c.toNat - 48 + 26)
  else none

/-- A number ends at the first digit below the threshold of its place. -/
def threshold (bias place : Nat) : Nat := max 1 (min 26 (36 * (place + 1) - bias))

theorem threshold_pos (bias place : Nat) : 1 ≤ threshold bias place := Nat.le_max_left ..

def scaled (delta bias : Nat) : Nat × Nat :=
  if 455 < delta then scaled (delta / 35) (bias + 36) else (delta, bias)
termination_by delta
decreasing_by exact Nat.div_lt_self (by omega) (by omega)

def adapted (delta : Nat) (isFirst : Bool) (size : Nat) : Nat :=
  let delta := if isFirst then delta / 700 else delta / 2
  let (delta, bias) := scaled (delta + delta / size) 0
  bias + 36 * delta / (delta + 38)

def digitsFrom (bias place n : Nat) : List Char :=
  let t := threshold bias place
  if n < t then [digitChar n]
  else digitChar (t + (n - t) % (36 - t)) :: digitsFrom bias (place + 1) ((n - t) / (36 - t))
termination_by n
decreasing_by
  have h := threshold_pos bias place
  exact Nat.lt_of_le_of_lt (Nat.div_le_self _ _) (by omega)

/-- Characters written so far, what is to be told next, and the digits in reverse. -/
structure Encoding where
  size : Nat
  delta : Nat := 0
  bias : Nat := 72
  isFirst : Bool := true
  digits : List Char := []

namespace Encoding

def pass (m : Char) (s : Encoding) (c : Char) : Encoding :=
  if c < m then { s with delta := s.delta + 1 }
  else if c = m then
    { size := s.size + 1
      delta := 0
      bias := adapted s.delta s.isFirst (s.size + 1)
      isFirst := false
      digits := (digitsFrom s.bias 0 s.delta).reverse ++ s.digits }
  else s

def writeAll (text : List Char) (next : Nat) (s : Encoding) : List Char → Encoding
  | [] => s
  | m :: rest =>
    let s := { s with delta := s.delta + (m.toNat - next) * (s.size + 1) }
    let s := text.foldl (pass m) s
    writeAll text (m.toNat + 1) { s with delta := s.delta + 1 } rest

end Encoding

def encode (text : List Char) : List Char :=
  let basic := text.filter fun c => c.toNat < 0x80
  let others := (text.filter fun c => 0x80 ≤ c.toNat).mergeSort.eraseDups
  let s := Encoding.writeAll text 0x80 { size := basic.length } others
  (if basic.isEmpty then [] else basic ++ ['-']) ++ s.digits.reverse

structure Decoding where
  text : List Char
  position : Nat := 0
  code : Nat := 0x80
  bias : Nat := 72
  isFirst : Bool := true
  place : Nat := 0
  weight : Nat := 1
  delta : Nat := 0

namespace Decoding

def insert? (s : Decoding) (delta : Nat) : Option Decoding :=
  let size := s.text.length + 1
  let code := s.code + (s.position + delta) / size
  let position := (s.position + delta) % size
  if code.isValidChar then
    some
      { text := s.text.insertIdx position (Char.ofNat code)
        position := position + 1
        code
        bias := adapted delta s.isFirst size
        isFirst := false }
  else none

def readAll? (s : Decoding) : List Char → Option (List Char)
  | [] => if s.place = 0 then some s.text else none
  | c :: rest => do
    let d ← digitValue? c
    let t := threshold s.bias s.place
    let delta := s.delta + d * s.weight
    if d < t then readAll? (← s.insert? delta) rest
    else
      readAll? { s with place := s.place + 1, weight := s.weight * (36 - t), delta } rest

end Decoding

def decode? (cs : List Char) : Option (List Char) :=
  match cs.reverse.span (· != '-') with
  | (digits, _ :: basic) => Decoding.readAll? { text := basic.reverse } digits.reverse
  | (digits, []) => Decoding.readAll? { text := [] } digits.reverse

end FeatureSpec.Host.Punycode
