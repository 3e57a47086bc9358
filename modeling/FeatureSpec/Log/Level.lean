import FeatureSpec.Failure
import FeatureSpec.Log.Record
import FeatureSpec.Text.Case
/-!
Levels by name.
-/
namespace FeatureSpec.Log

def levelWords : List (String × Level) :=
  [("CRITICAL", critical), ("FATAL", critical), ("ERROR", error), ("WARN", warning),
    ("WARNING", warning), ("INFO", info), ("DEBUG", debug), ("NOTSET", 0)]

/-- The level of a name in upper or lower case; a word without a level stands for plain
information. -/
def parseLevel (name : String) : Level :=
  (Entries.get? levelWords (Text.upper name)).getD info

/-- The level that a setup asks for: a number, or a name in capitals. -/
def levelOf : Json → Except Failure Level
  | .int n => .ok n
  | .bool b => .ok (if b then 1 else 0)
  | .string name =>
    match Entries.get? levelWords name with
    | some level => .ok level
    | none => .error (.value (.unknownLevel name))
  | _ => .error .notLevel

end FeatureSpec.Log
