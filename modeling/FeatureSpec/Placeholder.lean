import FeatureSpec.Model.Query
import FeatureSpec.Text.Case
import FeatureSpec.Text.Word
/-!
Named placeholders of query texts: a colon and the word characters after it. A colon without a
word character after it stands for itself.
-/
namespace FeatureSpec.Placeholder

open Text

/-- The name of every placeholder, in order, repetitions included. -/
def occurrences : List Char → List (List Char)
  | [] => []
  | c :: rest =>
    if c = ':' ∧ (rest.head?.any isWord) = true then rest.takeWhile isWord :: occurrences rest
    else occurrences rest

def names (text : String) : List String :=
  ((occurrences text.toList).eraseDups).map String.ofList

def parameters (text : String) : List Parameter := (names text).map fun name => { name }

def remark (mark : Char) : List Char → List Char
  | [] => []
  | c :: rest =>
    (if c = ':' ∧ (rest.head?.any isWord) = true then mark else c) :: remark mark rest

/-- What a driver writes in place of the colon, where it is something else. -/
def driverMark? (driver : String) : Option Char :=
  if ["sqlserver", "mssql"].contains (lower driver) then some '@' else none

def convert (driver text : String) : String :=
  match driverMark? driver with
  | some mark => String.ofList (remark mark text.toList)
  | none => text

end FeatureSpec.Placeholder
