import FeatureSpec.Json.Writer
import FeatureSpec.Text.Quoted
/-!
JSON values as messages show them: `None`, `True` and `False`, texts inside lists and objects
in quotes, a text on its own as it is.
-/
namespace FeatureSpec.Json

open Text

mutual

def shown : Json → String
  | .null => "None"
  | .bool true => "True"
  | .bool false => "False"
  | .int n => String.ofList (intChars n)
  | .float x => x.text
  | .string s => quoted s
  | .array [] => "[]"
  | .array (v :: rest) => "[" ++ shown v ++ shownItems rest ++ "]"
  | .object [] => "\x7b\x7d"
  | .object ((k, v) :: rest) =>
    "\x7b" ++ quoted k ++ ": " ++ shown v ++ shownMembers rest ++ "\x7d"

def shownItems : List Json → String
  | [] => ""
  | v :: rest => ", " ++ shown v ++ shownItems rest

def shownMembers : List (String × Json) → String
  | [] => ""
  | (k, v) :: rest => ", " ++ quoted k ++ ": " ++ shown v ++ shownMembers rest

end

def display : Json → String
  | .string s => s
  | v => shown v

end FeatureSpec.Json
