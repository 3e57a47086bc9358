import FeatureSpec.Json.Writable
import FeatureSpec.Json.Writer
import FeatureSpec.Log.Record
import FeatureSpec.Log.Timestamp
/-!
The lines that records are written as: one JSON object for a file, and a short text for a
terminal.
-/
namespace FeatureSpec.Log

/-- When and where a record was made. A number of a line has few enough digits to be shown. -/
structure Stamp where
  time : Timestamp := .epoch
  file : String
  line : Int
  short : line.natAbs < Nat.pow 10 Number.integerDigitLimit := by
    exact Nat.le_of_ble_eq_true (by decide +kernel)
  deriving DecidableEq, Repr

/-- At the start of the epoch, in no file. -/
def Stamp.nowhere : Stamp := { file := "", line := 0 }

structure Entry where
  level : Level
  logger : String
  message : String
  context : Json := .null
  stamp : Stamp
  trouble : Option (String × String) := none
  deriving DecidableEq, Repr

def Record.entry (r : Record) (stamp : Stamp) : Entry where
  level := r.level
  logger := r.part.logger
  message := r.message
  context := .object (r.context.map fun (key, text) => (key, .string text))
  stamp := stamp

@[simp] theorem level_entry (r : Record) (stamp : Stamp) : (r.entry stamp).level = r.level := rfl

namespace Entry

def source (e : Entry) : List (String × Json) :=
  if warning ≤ e.level then
    [("source", .object [("file", .string e.stamp.file), ("line", .int e.stamp.line)])]
  else []

def members (e : Entry) : List (String × Json) :=
  [("timestamp", .string e.stamp.time.text), ("level", .string (levelName e.level)),
    ("logger", .string e.logger), ("message", .string e.message)] ++
  (if e.context.isTruthy then [("context", e.context)] else []) ++
  e.source ++
  (e.trouble.map fun (kind, message) =>
    ("exception", Json.object [("type", .string kind), ("message", .string message)])).toList

def jsonLine (e : Entry) : String := Json.write ⟨true, none⟩ (.object e.members)

/-- The line for a file. There is none if the context holds an integer that cannot be shown. -/
def fileLine (e : Entry) : Except Failure String :=
  match Json.unshowable? (.object e.members) with
  | some fault => .error (.value fault)
  | none => .ok e.jsonLine

/-- The line for a terminal. Plain information goes without the name of its level. -/
def consoleLine (e : Entry) : String :=
  let level := if e.level = info then "" else s!" {levelName e.level}:"
  s!"[{e.stamp.time.clock}]{level} {e.message}"

def lines (e : Entry) : Except Failure (String × String) := do
  let line ← e.fileLine
  e.stamp.time.checkClock
  return (line, e.consoleLine)

end Entry
end FeatureSpec.Log
