import FeatureSpec.Number.Literal
import FeatureSpec.Toml.Basic
/-!
The smallest parts of a TOML document: blanks, comments, strings, keys, numbers and dates, each
read from the front of the text.
-/
namespace FeatureSpec.Toml

open Text Number

def malformed {α : Type} : Except Fault α := .error .malformed

def isSpace (c : Char) : Bool := c == ' ' || c == '\t'

def skipSpace (cs : List Char) : List Char := cs.dropWhile isSpace

def isControl (c : Char) : Bool := (c.toNat < 0x20 && c != '\t') || c.toNat == 0x7F

def skipComment (cs : List Char) : Except Fault (List Char) :=
  match cs with
  | '#' :: rest =>
    let (comment, rest) := rest.span (· != '\n')
    if comment.any isControl then malformed else .ok rest
  | cs => .ok cs

def skipLines : Nat → List Char → Except Fault (List Char)
  | 0, cs => .ok cs
  | fuel + 1, cs =>
    match cs.dropWhile fun c => isSpace c || c == '\n' with
    | '#' :: rest => do skipLines fuel (← skipComment ('#' :: rest))
    | rest => .ok rest

/-! ### Strings -/

def literal : List Char → Except Fault (List Char × List Char)
  | [] => malformed
  | '\'' :: rest => .ok ([], rest)
  | c :: rest => do
    if isControl c then malformed
    else
      let (body, rest) ← literal rest
      return (c :: body, rest)

def literalLines : List Char → Except Fault (List Char × List Char)
  | [] => malformed
  | '\'' :: '\'' :: '\'' :: rest => .ok ([], rest)
  | c :: rest => do
    if isControl c && c != '\n' then malformed
    else
      let (body, rest) ← literalLines rest
      return (c :: body, rest)

def shortEscape? : Char → Option Char
  | 'b' => some '\x08'
  | 't' => some '\t'
  | 'n' => some '\n'
  | 'f' => some '\x0c'
  | 'r' => some '\r'
  | '"' => some '"'
  | '\\' => some '\\'
  | _ => none

def codedChar? (digits : List Char) : Option Char := do
  let n := ofDigits 16 (← digits.mapM hexDigit?)
  if n.isValidChar then return Char.ofNat n else none

def escape : List Char → Except Fault (Char × List Char)
  | 'u' :: a :: b :: c :: d :: rest =>
    match codedChar? [a, b, c, d] with
    | some x => .ok (x, rest)
    | none => malformed
  | 'U' :: a :: b :: c :: d :: e :: f :: g :: h :: rest =>
    match codedChar? [a, b, c, d, e, f, g, h] with
    | some x => .ok (x, rest)
    | none => malformed
  | c :: rest =>
    match shortEscape? c with
    | some x => .ok (x, rest)
    | none => malformed
  | [] => malformed

/-- A string after its opening quote; `fuel` exceeds its length. -/
def basic : Nat → List Char → Except Fault (List Char × List Char)
  | 0, _ => malformed
  | fuel + 1, cs =>
    match cs with
    | [] => malformed
    | '"' :: rest => .ok ([], rest)
    | '\\' :: rest => do
      let (x, rest) ← escape rest
      let (body, rest) ← basic fuel rest
      return (x :: body, rest)
    | c :: rest => do
      if isControl c then malformed
      else
        let (body, rest) ← basic fuel rest
        return (c :: body, rest)

/-- What follows a backslash that joins lines: nothing but blanks up to the end of the line, and
any blanks and line breaks after it. A backslash elsewhere joins nothing. -/
def joinedLine? (cs : List Char) : Option (List Char) :=
  match cs with
  | [] => none
  | c :: _ =>
    if isSpace c || c == '\n' then
      match skipSpace cs with
      | [] => some []
      | '\n' :: rest => some (rest.dropWhile fun c => isSpace c || c == '\n')
      | _ => none
    else none

/-- A string of several lines after its opening quotes, up to three closing ones; `fuel` exceeds
its length. -/
def basicLines : Nat → List Char → Except Fault (List Char × List Char)
  | 0, _ => malformed
  | fuel + 1, cs =>
    match cs with
    | [] => malformed
    | '"' :: '"' :: '"' :: rest => .ok ([], rest)
    | '\\' :: rest =>
      match joinedLine? rest with
      | some rest => basicLines fuel rest
      | none => do
        let (x, rest) ← escape rest
        let (body, rest) ← basicLines fuel rest
        return (x :: body, rest)
    | c :: rest => do
      if isControl c && c != '\n' then malformed
      else
        let (body, rest) ← basicLines fuel rest
        return (c :: body, rest)

/-- A line break right after the opening quotes does not count. -/
def dropBreak : List Char → List Char
  | '\n' :: rest => rest
  | cs => cs

/-- At most two more quotes at the end of a string of several lines belong to it. -/
def extraQuotes (quote : Char) (body : List Char) (cs : List Char) : String × List Char :=
  let extra := (cs.take 2).takeWhile (· == quote)
  (String.ofList (body ++ extra), cs.drop extra.length)

def stringToken (cs : List Char) : Except Fault (String × List Char) :=
  match cs with
  | '"' :: '"' :: '"' :: rest => do
    let (body, rest) ← basicLines (rest.length + 1) (dropBreak rest)
    return extraQuotes '"' body rest
  | '\'' :: '\'' :: '\'' :: rest => do
    let (body, rest) ← literalLines (dropBreak rest)
    return extraQuotes '\'' body rest
  | '"' :: rest => do
    let (body, rest) ← basic (rest.length + 1) rest
    return (String.ofList body, rest)
  | '\'' :: rest => do
    let (body, rest) ← literal rest
    return (String.ofList body, rest)
  | _ => malformed

/-! ### Keys -/

def isBareKeyChar (c : Char) : Bool := c.isAlphanum || c == '-' || c == '_'

def startsKey (c : Char) : Bool := isBareKeyChar c || c == '"' || c == '\''

def keyName (cs : List Char) : Except Fault (String × List Char) :=
  match cs with
  | '"' :: rest => do
    let (body, rest) ← basic (rest.length + 1) rest
    return (String.ofList body, rest)
  | '\'' :: rest => do
    let (body, rest) ← literal rest
    return (String.ofList body, rest)
  | cs =>
    let (name, rest) := cs.span isBareKeyChar
    if name.isEmpty then malformed else .ok (String.ofList name, rest)

def keyNames : Nat → List Char → Except Fault (Key × List Char)
  | 0, _ => malformed
  | fuel + 1, cs => do
    let (name, rest) ← keyName cs
    match skipSpace rest with
    | '.' :: rest => do
      let (key, rest) ← keyNames fuel (skipSpace rest)
      return (name :: key, rest)
    | rest => return ([name], rest)

def keyToken (cs : List Char) : Except Fault (Key × List Char) := keyNames (cs.length + 1) cs

/-! ### Numbers -/

def moreDigits (isDigit : Char → Bool) : List Char → List Char × List Char
  | [] => ([], [])
  | '_' :: d :: rest =>
    if isDigit d then
      let (ds, rest) := moreDigits isDigit rest
      (d :: ds, rest)
    else ([], '_' :: d :: rest)
  | d :: rest =>
    if isDigit d then
      let (ds, rest) := moreDigits isDigit rest
      (d :: ds, rest)
    else ([], d :: rest)

def digits? (isDigit : Char → Bool) : List Char → Option (List Char × List Char)
  | [] => none
  | d :: rest =>
    if isDigit d then
      let (ds, rest) := moreDigits isDigit rest
      some (d :: ds, rest)
    else none

def basedInteger? (base : Nat) (cs : List Char) : Option (Toml × List Char) := do
  let isDigit (c : Char) : Bool :=
    match hexDigit? c with
    | some d => d < base
    | none => false
  let (ds, rest) ← digits? isDigit cs
  return (.int (ofDigits base (ds.filterMap hexDigit?)), rest)

def based? (cs : List Char) : Option (Toml × List Char) :=
  match cs with
  | '0' :: 'x' :: rest => basedInteger? 16 rest
  | '0' :: 'o' :: rest => basedInteger? 8 rest
  | '0' :: 'b' :: rest => basedInteger? 2 rest
  | _ => none

def wholeDigits? (cs : List Char) : Option (List Char × List Char) :=
  match cs with
  | '0' :: rest => some (['0'], rest)
  | cs => digits? Char.isDigit cs

def fractionDigits (cs : List Char) : List Char × List Char :=
  match cs with
  | '.' :: rest => (digits? Char.isDigit rest).getD ([], cs)
  | _ => ([], cs)

def exponent? (cs : List Char) : Option Int × List Char :=
  match cs with
  | c :: rest =>
    if c == 'e' || c == 'E' then
      let (negative, rest) := spanSign rest
      match digits? Char.isDigit rest with
      | some (ds, rest) => (some (signed negative (natOfDigits ds)), rest)
      | none => (none, cs)
    else (none, cs)
  | [] => (none, cs)

/-- A decimal number; one without fraction and exponent is an integer. -/
def decimal? (cs : List Char) : Option (Except Fault (Toml × List Char)) := do
  let (negative, rest) := spanSign cs
  let (whole, rest) ← wholeDigits? rest
  let (fraction, rest) := fractionDigits rest
  let (exponent, rest) := exponent? rest
  if fraction.isEmpty && exponent.isNone then
    if integerDigitLimit < whole.length then some (.error (.tooManyDigits whole.length))
    else some (.ok (.int (signed negative (natOfDigits whole)), rest))
  else
    some (.ok (.float (decimalOf negative whole fraction (exponent.getD 0)).toBinary64, rest))

def specialFloat? (cs : List Char) : Option (Toml × List Char) :=
  let (negative, rest) := spanSign cs
  match rest with
  | 'i' :: 'n' :: 'f' :: rest => some (.float (.infinite negative), rest)
  | 'n' :: 'a' :: 'n' :: rest => some (.float .nan, rest)
  | _ => none

def moment? (cs : List Char) : Option (Except Fault (Toml × List Char)) :=
  match Date.span? cs with
  | some (d, rest) =>
    if d.isValid then
      let (m, rest) := Moment.ofDate d rest
      some (.ok (.moment m, rest))
    else some malformed
  | none => (Time.span? cs).map fun (t, rest) => .ok (.moment (.time t), rest)

def numberToken (cs : List Char) : Except Fault (Toml × List Char) :=
  match moment? cs with
  | some token => token
  | none =>
    match based? cs with
    | some found => .ok found
    | none =>
      match decimal? cs with
      | some token => token
      | none =>
        match specialFloat? cs with
        | some found => .ok found
        | none => malformed

end FeatureSpec.Toml
