import FeatureSpec.Text.Digit
import FeatureSpec.Xml.Character
/-!
References to characters and to entities, and the values of attributes as they are written.
-/
namespace FeatureSpec.Xml

open Text

inductive Reference where
  | code (c : Char)
  | entity (name : String)
  deriving DecidableEq, Repr

namespace Reference

def predefined? (name : String) : Option Char :=
  match name with
  | "lt" => some '<'
  | "gt" => some '>'
  | "amp" => some '&'
  | "quot" => some '"'
  | "apos" => some '\''
  | _ => none

def code? (base : Nat) (digit? : Char → Option Nat) (cs : List Char) :
    Option (Char × List Char) := do
  let (digits, rest) := cs.span fun c => (digit? c).isSome
  match digits, rest with
  | _ :: _, ';' :: rest =>
    let n := ofDigits base (digits.filterMap digit?)
    if isCharCode n then some (Char.ofNat n, rest) else none
  | _, _ => none

def scan? (a : Alphabet) (cs : List Char) : Option (Reference × List Char) :=
  match cs with
  | '#' :: 'x' :: rest => (code? 16 hexDigit? rest).map fun (c, rest) => (.code c, rest)
  | '#' :: rest => (code? 10 asciiDigit? rest).map fun (c, rest) => (.code c, rest)
  | _ => do
    let (name, rest) ← name? a cs
    match rest with
    | ';' :: rest => some (.entity (String.ofList name), rest)
    | _ => none

end Reference

inductive Piece where
  | char (c : Char)
  | reference (r : Reference)
  deriving DecidableEq, Repr

namespace Piece

def scanWith (a : Alphabet) : Nat → List Char → Option (List Piece)
  | _, [] => some []
  | 0, _ :: _ => none
  | fuel + 1, c :: rest =>
    if c = '<' then none
    else if c = '&' then do
      let (r, rest) ← Reference.scan? a rest
      return .reference r :: (← scanWith a fuel rest)
    else (scanWith a fuel rest).map (.char c :: ·)

def scan? (a : Alphabet) (cs : List Char) : Option (List Piece) := scanWith a cs.length cs

end Piece
end FeatureSpec.Xml
