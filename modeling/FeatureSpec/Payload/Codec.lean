import FeatureSpec.Json.Basic
import FeatureSpec.Number.IntegerText
import FeatureSpec.Payload.Checked
/-!
Two-way descriptions of values: how a payload is read, with every fault reported, and how a
value is written. Reading is lenient for flags and integers, which may come as texts and as
numbers of the other kind; writing gives the one plain form.
-/
namespace FeatureSpec.Payload

open Text Number

structure Codec (α : Type) where
  decode : Json → Checked α
  encode : α → Json

class Choice (α : Type) where
  /-- The name of the set, as messages give it. -/
  title : String
  all : List α
  word : α → String

namespace Choice

variable {α : Type} [Choice α]

def ofWord? (s : String) : Option α := all.find? fun a => word a == s

variable (α) in
def words : List String := (all (α := α)).map word

end Choice

def trueWords : List String := ["1", "on", "t", "true", "y", "yes"]

def falseWords : List String := ["0", "off", "f", "false", "n", "no"]

def flagOfInt (n : Int) (input : Json) : Checked Bool :=
  if n = 0 then .ok false else if n = 1 then .ok true else Checked.fault .unreadableFlag input

/-- The range of integers that a floating-point number may stand for, ends excluded. -/
def fitsWord (n : Int) : Bool := -Int.pow 2 63 < n && n < Int.pow 2 63

def decodeFlag : Json → Checked Bool
  | .bool b => .ok b
  | .string s =>
    let word := String.ofList (s.toList.map Char.toLower)
    if trueWords.contains word then .ok true
    else if falseWords.contains word then .ok false
    else Checked.fault .unreadableFlag (.string s)
  | .int n =>
    if -Int.pow 2 63 ≤ n ∧ n < Int.pow 2 63 then flagOfInt n (.int n)
    else Checked.fault .notFlag (.int n)
  | .float x =>
    match x.toInt? with
    | some n =>
      if fitsWord n then flagOfInt n (.float x) else Checked.fault .notFlag (.float x)
    | none => Checked.fault .notFlag (.float x)
  | v => Checked.fault .notFlag v

def decodeInteger : Json → Checked Int
  | .int n => .ok n
  | .bool b => .ok (if b then 1 else 0)
  | .float x =>
    if !x.isFinite then Checked.fault .notFinite (.float x)
    else match x.toInt? with
      | some n => if fitsWord n then .ok n else Checked.fault .oversizedInteger (.float x)
      | none => Checked.fault .fractionalInteger (.float x)
  | .string s =>
    match IntegerText.read s with
    | .ok n => .ok n
    | .error .oversized => Checked.fault .oversizedInteger (.string s)
    | .error .unreadable => Checked.fault .unreadableInteger (.string s)
  | v => Checked.fault .notInteger v

mutual

def finiteOnly : Json → Json
  | .float x => if x.isFinite then .float x else .null
  | .array items => .array (finiteItems items)
  | .object members => .object (finiteMembers members)
  | v => v

def finiteItems : List Json → List Json
  | [] => []
  | v :: rest => finiteOnly v :: finiteItems rest

def finiteMembers : List (String × Json) → List (String × Json)
  | [] => []
  | (k, v) :: rest => (k, finiteOnly v) :: finiteMembers rest

end

namespace Codec

variable {α : Type}

def text : Codec String where
  decode
    | .string s => .ok s
    | v => Checked.fault .notText v
  encode := .string

def flag : Codec Bool where
  decode := decodeFlag
  encode := .bool

def integer : Codec Int where
  decode := decodeInteger
  encode := .int

def choice [Choice α] : Codec α where
  decode
    | .string s =>
      match Choice.ofWord? s with
      | some a => .ok a
      | none => Checked.fault (.unknownChoice (Choice.words α)) (.string s)
    | v => Checked.fault (.unknownChoice (Choice.words α)) v
  encode a := .string (Choice.word a)

def nullable (codec : Codec α) : Codec (Option α) where
  decode
    | .null => .ok none
    | v => (codec.decode v).map some
  encode
    | none => .null
    | some a => codec.encode a

def list (codec : Codec α) : Codec (List α) where
  decode
    | .array items => Checked.each codec.decode 0 items
    | v => Checked.fault .notList v
  encode items := .array (items.map codec.encode)

def entries (codec : Codec α) : Codec (Entries α) where
  decode
    | .object members => Checked.eachEntry codec.decode members
    | v => Checked.fault .notMapping v
  encode m := .object (m.map fun kv => (kv.1, codec.encode kv.2))

/-- Any value at all; numbers that are not finite are written as null. -/
def anything : Codec Json where
  decode := .ok
  encode := finiteOnly

end Codec
end FeatureSpec.Payload
