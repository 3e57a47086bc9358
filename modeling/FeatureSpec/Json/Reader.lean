import FeatureSpec.Json.Basic
import FeatureSpec.Number.Literal
/-!
Reading JSON text. Beyond the standard, the words `NaN`, `Infinity` and `-Infinity` are
numbers; of several members with one key the last one counts, at the place of the first. An
integer literal stays an integer, one with a point or an exponent is a floating-point number.
Values may nest to any depth. All texts are of Unicode scalar values, so the escape of a surrogate
that has no other one next to it is malformed.
-/
namespace FeatureSpec.Json

open Text Number

inductive Fault where
  | malformed
  | tooManyDigits (count : Nat)
  deriving DecidableEq, Repr

def isSpace (c : Char) : Bool := c == ' ' || c == '\n' || c == '\r' || c == '\t'

def skipSpace (cs : List Char) : List Char := cs.dropWhile isSpace

def unit? (a b c d : Char) : Option Nat := do
  return ofDigits 16 [← hexDigit? a, ← hexDigit? b, ← hexDigit? c, ← hexDigit? d]

def shortEscape? : Char → Option Char
  | '"' => some '"'
  | '\\' => some '\\'
  | '/' => some '/'
  | 'b' => some '\x08'
  | 'f' => some '\x0c'
  | 'n' => some '\n'
  | 'r' => some '\r'
  | 't' => some '\t'
  | _ => none

def isHighSurrogate (n : Nat) : Bool := 0xD800 ≤ n && n ≤ 0xDBFF

def isLowSurrogate (n : Nat) : Bool := 0xDC00 ≤ n && n ≤ 0xDFFF

def pairChar (high low : Nat) : Char :=
  Char.ofNat (0x10000 + (high - 0xD800) * 0x400 + (low - 0xDC00))

/-- The rest of a string after its opening quote, and what follows the closing one. A high
surrogate is pending until the escape after it, which has to be a low one; a low surrogate
stands nowhere else. -/
def stringBody : Option Nat → List Char → Option (List Char × List Char)
  | pending, '\\' :: 'u' :: a :: b :: c :: d :: rest => do
    let n ← unit? a b c d
    match pending with
    | some high =>
      if isLowSurrogate n then
        let (body, rest) ← stringBody none rest
        return (pairChar high n :: body, rest)
      else none
    | none =>
      if isHighSurrogate n then stringBody (some n) rest
      else if isLowSurrogate n then none
      else
        let (body, rest) ← stringBody none rest
        return (Char.ofNat n :: body, rest)
  | some _, _ => none
  | none, [] => none
  | none, '"' :: rest => some ([], rest)
  | none, '\\' :: c :: rest => do
    let c ← shortEscape? c
    let (body, rest) ← stringBody none rest
    return (c :: body, rest)
  | none, c :: rest =>
    if c.toNat < 0x20 then none
    else (stringBody none rest).map fun (body, rest) => (c :: body, rest)

def wholeDigits? (cs : List Char) : Option (List Char × List Char) :=
  match cs with
  | '0' :: rest => some (['0'], rest)
  | c :: _ => if c.isDigit then some (spanDigits cs) else none
  | [] => none

def fractionDigits (cs : List Char) : List Char × List Char :=
  match cs with
  | '.' :: rest =>
    let (digits, rest') := spanDigits rest
    if digits.isEmpty then ([], cs) else (digits, rest')
  | _ => ([], cs)

def exponent? (cs : List Char) : Option Int × List Char :=
  match cs with
  | c :: rest =>
    if c == 'e' || c == 'E' then
      let (negative, digitsAndRest) := spanSign rest
      let (digits, rest') := spanDigits digitsAndRest
      if digits.isEmpty then (none, cs) else (some (signed negative (natOfDigits digits)), rest')
    else (none, cs)
  | [] => (none, cs)

def numberBody (negative : Bool) (cs : List Char) : Except Fault (Json × List Char) :=
  match wholeDigits? cs with
  | none => .error .malformed
  | some (whole, rest) =>
    let (fraction, rest) := fractionDigits rest
    let (exponent, rest) := exponent? rest
    if fraction.isEmpty && exponent.isNone then
      if integerDigitLimit < whole.length then .error (.tooManyDigits whole.length)
      else .ok (.int (signed negative (natOfDigits whole)), rest)
    else .ok (.float (decimalOf negative whole fraction (exponent.getD 0)).toBinary64, rest)

def scalar (cs : List Char) : Except Fault (Json × List Char) :=
  match cs with
  | 'n' :: 'u' :: 'l' :: 'l' :: rest => .ok (.null, rest)
  | 't' :: 'r' :: 'u' :: 'e' :: rest => .ok (.bool true, rest)
  | 'f' :: 'a' :: 'l' :: 's' :: 'e' :: rest => .ok (.bool false, rest)
  | 'N' :: 'a' :: 'N' :: rest => .ok (.float .nan, rest)
  | 'I' :: 'n' :: 'f' :: 'i' :: 'n' :: 'i' :: 't' :: 'y' :: rest =>
    .ok (.float (.infinite false), rest)
  | '-' :: 'I' :: 'n' :: 'f' :: 'i' :: 'n' :: 'i' :: 't' :: 'y' :: rest =>
    .ok (.float (.infinite true), rest)
  | '-' :: rest => numberBody true rest
  | cs => numberBody false cs

def stringToken (cs : List Char) : Except Fault (String × List Char) :=
  match stringBody none cs with
  | some (body, rest) => .ok (String.ofList body, rest)
  | none => .error .malformed

mutual

/-- One value at the front. Every nesting level and every further item takes one from `fuel`. -/
def value : Nat → List Char → Except Fault (Json × List Char)
  | 0, _ => .error .malformed
  | fuel + 1, cs =>
    match cs with
    | '"' :: rest => do
      let (s, rest) ← stringToken rest
      return (.string s, rest)
    | '[' :: rest =>
      match skipSpace rest with
      | ']' :: rest => .ok (.array [], rest)
      | rest => do
        let (items, rest) ← elements fuel rest
        return (.array items, rest)
    | '{' :: rest =>
      match skipSpace rest with
      | '}' :: rest => .ok (.object [], rest)
      | rest => do
        let (members, rest) ← members fuel rest
        return (.object (Entries.ofList members), rest)
    | cs => scalar cs

def elements : Nat → List Char → Except Fault (List Json × List Char)
  | 0, _ => .error .malformed
  | fuel + 1, cs => do
    let (item, rest) ← value fuel cs
    match skipSpace rest with
    | ']' :: rest => return ([item], rest)
    | ',' :: rest => do
      let (items, rest) ← elements fuel (skipSpace rest)
      return (item :: items, rest)
    | _ => .error .malformed

def members : Nat → List Char → Except Fault (List (String × Json) × List Char)
  | 0, _ => .error .malformed
  | fuel + 1, cs =>
    match cs with
    | '"' :: rest => do
      let (key, rest) ← stringToken rest
      match skipSpace rest with
      | ':' :: rest => do
        let (item, rest) ← value fuel (skipSpace rest)
        match skipSpace rest with
        | '}' :: rest => return ([(key, item)], rest)
        | ',' :: rest => do
          let (items, rest) ← members fuel (skipSpace rest)
          return ((key, item) :: items, rest)
        | _ => .error .malformed
      | _ => .error .malformed
    | _ => .error .malformed

end

def readChars (cs : List Char) : Except Fault Json := do
  let (v, rest) ← value (2 * cs.length + 2) (skipSpace cs)
  if (skipSpace rest).isEmpty then return v else .error .malformed

def read (text : String) : Except Fault Json := readChars text.toList

end FeatureSpec.Json
