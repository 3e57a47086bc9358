import FeatureSpec.Json.Basic
import FeatureSpec.Number.Shortest
import FeatureSpec.Text.Digit
/-!
Writing JSON text, on one line or indented, in ASCII or in all of Unicode. Values may nest to any
depth.
-/
namespace FeatureSpec.Json

open Text

structure Style where
  ascii : Bool
  /-- Spaces for each nesting level; without it everything stands on one line. -/
  indent : Option Nat
  deriving DecidableEq, Repr

def unitEscape (n : Nat) : List Char := '\\' :: 'u' :: hex 4 n

def codeEscape (n : Nat) : List Char :=
  if n < 0x10000 then unitEscape n
  else unitEscape (0xD800 + (n - 0x10000) / 0x400) ++ unitEscape (0xDC00 + (n - 0x10000) % 0x400)

def escapeChar (ascii : Bool) (c : Char) : List Char :=
  if c == '"' then ['\\', '"']
  else if c == '\\' then ['\\', '\\']
  else if c == '\n' then ['\\', 'n']
  else if c == '\r' then ['\\', 'r']
  else if c == '\t' then ['\\', 't']
  else if c == '\x08' then ['\\', 'b']
  else if c == '\x0c' then ['\\', 'f']
  else if c.toNat < 0x20 then codeEscape c.toNat
  else if ascii && 0x7E < c.toNat then codeEscape c.toNat
  else [c]

def quotedChars (ascii : Bool) (s : String) : List Char :=
  '"' :: s.toList.flatMap (escapeChar ascii) ++ ['"']

def floatChars : Binary64 → List Char
  | .nan => ['N', 'a', 'N']
  | .infinite false => ['I', 'n', 'f', 'i', 'n', 'i', 't', 'y']
  | .infinite true => ['-', 'I', 'n', 'f', 'i', 'n', 'i', 't', 'y']
  | x => x.text.toList

def intChars (n : Int) : List Char :=
  if n < 0 then '-' :: Nat.toDigits 10 n.natAbs else Nat.toDigits 10 n.natAbs

def lineBreak (style : Style) (level : Nat) : List Char :=
  match style.indent with
  | none => []
  | some width => '\n' :: List.replicate (width * level) ' '

def separator (style : Style) (level : Nat) : List Char :=
  match style.indent with
  | none => [',', ' ']
  | some _ => ',' :: lineBreak style level

mutual

def chars (style : Style) (level : Nat) : Json → List Char
  | .null => ['n', 'u', 'l', 'l']
  | .bool true => ['t', 'r', 'u', 'e']
  | .bool false => ['f', 'a', 'l', 's', 'e']
  | .int n => intChars n
  | .float x => floatChars x
  | .string s => quotedChars style.ascii s
  | .array [] => ['[', ']']
  | .array (v :: rest) =>
    '[' :: lineBreak style (level + 1) ++ chars style (level + 1) v ++
      itemChars style (level + 1) rest ++ lineBreak style level ++ [']']
  | .object [] => ['{', '}']
  | .object ((k, v) :: rest) =>
    '{' :: lineBreak style (level + 1) ++ quotedChars style.ascii k ++ [':', ' '] ++
      chars style (level + 1) v ++ memberChars style (level + 1) rest ++
      lineBreak style level ++ ['}']

def itemChars (style : Style) (level : Nat) : List Json → List Char
  | [] => []
  | v :: rest => separator style level ++ chars style level v ++ itemChars style level rest

def memberChars (style : Style) (level : Nat) : List (String × Json) → List Char
  | [] => []
  | (k, v) :: rest =>
    separator style level ++ quotedChars style.ascii k ++ [':', ' '] ++ chars style level v ++
      memberChars style level rest

end

def write (style : Style) (v : Json) : String := String.ofList (chars style 0 v)

end FeatureSpec.Json
