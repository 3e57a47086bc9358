import FeatureSpec.Json.Writer
import FeatureSpec.Text.Quoted
import FeatureSpec.Toml.Moment
/-!
Values of TOML, and tables of them: a key leads into tables, and into the last table of a list
of tables.
-/
namespace FeatureSpec

inductive Toml where
  | bool (b : Bool)
  | int (n : Int)
  | float (x : Binary64)
  | string (s : String)
  | moment (m : Toml.Moment)
  | array (items : List Toml)
  | table (entries : List (String × Toml))
  deriving Inhabited, Repr

namespace Toml

/-- The names that lead from a table to a value below it. -/
abbrev Key := List String

inductive Fault where
  | malformed
  | tooManyDigits (count : Nat)
  deriving DecidableEq, Repr

mutual

def shown : Toml → String
  | .bool true => "True"
  | .bool false => "False"
  | .int n => String.ofList (Json.intChars n)
  | .float x => x.text
  | .string s => Text.quoted s
  | .moment m => m.shown
  | .array [] => "[]"
  | .array (v :: rest) => "[" ++ shown v ++ shownItems rest ++ "]"
  | .table [] => "\x7b\x7d"
  | .table ((k, v) :: rest) =>
    "\x7b" ++ Text.quoted k ++ ": " ++ shown v ++ shownEntries rest ++ "\x7d"

def shownItems : List Toml → String
  | [] => ""
  | v :: rest => ", " ++ shown v ++ shownItems rest

def shownEntries : List (String × Toml) → String
  | [] => ""
  | (k, v) :: rest => ", " ++ Text.quoted k ++ ": " ++ shown v ++ shownEntries rest

end

mutual

def integers : Toml → List Int
  | .int n => [n]
  | .array items => integersOfItems items
  | .table entries => integersOfEntries entries
  | _ => []

def integersOfItems : List Toml → List Int
  | [] => []
  | v :: rest => integers v ++ integersOfItems rest

def integersOfEntries : List (String × Toml) → List Int
  | [] => []
  | (_, v) :: rest => integers v ++ integersOfEntries rest

end

/-- Changes the table that a key leads to, which is made on the way if it is not there. There is
no way through any other value; through a list of tables only where `intoLists` is set. -/
def within (intoLists : Bool) (change : Entries Toml → Option (Entries Toml)) :
    Key → Entries Toml → Option (Entries Toml)
  | [], t => change t
  | name :: key, t =>
    match t.get? name with
    | none => (within intoLists change key []).map fun u => t.put name (.table u)
    | some (.table u) => (within intoLists change key u).map fun u => t.put name (.table u)
    | some (.array items) =>
      match items.getLast? with
      | some (.table u) =>
        if intoLists then
          (within intoLists change key u).map fun u =>
            t.put name (.array (items.dropLast ++ [.table u]))
        else none
      | _ => none
    | some _ => none

def addEntry (name : String) (v : Toml) (t : Entries Toml) : Option (Entries Toml) :=
  if t.contains name then none else some (t.put name v)

def addTable (name : String) (t : Entries Toml) : Option (Entries Toml) :=
  match t.get? name with
  | none => some (t.put name (.array [.table []]))
  | some (.array items) => some (t.put name (.array (items ++ [.table []])))
  | some _ => none

end Toml
end FeatureSpec
