import FeatureSpec.Log.Output
/-!
Loggers, which are known by name. A record comes to the handlers of its own logger and of those
above it; of the loggers of the library only the top one has handlers. What no handler takes is
shown as its message alone, from warnings upwards.
-/
namespace FeatureSpec.Log

def topLogger : String := "xfeature"

/-- The loggers above one, the nearest first, by its name read from the end. What stands before a dot
is one if there is such a logger; if there is none, a dot right before that dot does not count. -/
def loggersAbove (loggers : List String) : List Char → List String
  | '.' :: c :: rest =>
    let name := String.ofList (c :: rest).reverse
    if loggers.contains name then name :: loggersAbove loggers (c :: rest)
    else loggersAbove loggers rest
  | _ :: rest => loggersAbove loggers rest
  | [] => []

def reachesTop (loggers : List String) (name : String) : Bool :=
  name == topLogger || (loggersAbove loggers name.toList.reverse).contains topLogger

structure Call where
  level : Level
  logger : String
  message : String
  context : Entries Json := []
  /-- Context that is first in rank. -/
  more : Entries Json := []
  stamp : Stamp
  deriving DecidableEq, Repr

namespace Call

def merged (c : Call) : Entries Json := (c.context.merge c.more).filter fun kv => !kv.2.isNull

def entry (c : Call) : Entry where
  level := c.level
  logger := c.logger
  message := c.message
  context := .object c.merged
  stamp := c.stamp

end Call

structure Desk where
  files : FileTree := {}
  loggers : List String := []
  setup : Option Setup := none

namespace Desk

/-- Sets logging up. If the log file cannot be opened, there is none. -/
def setUp (d : Desk) (s : Setup) (directory : Option Path) : Desk × Except Failure Unit :=
  let loggers := topLogger :: d.loggers
  match s.prepare directory d.files with
  | .ok files => ({ files, loggers, setup := some s }, .ok ())
  | .error f => ({ d with loggers, setup := some { s with file := none } }, .error f)

/-- Takes a call, and gives what it writes to the terminal. A call that is let through fails if its
level has no name that can be shown. -/
def log (d : Desk) (c : Call) : Desk × Except Failure String :=
  let d := { d with loggers := c.logger :: d.loggers }
  let setup := if reachesTop d.loggers c.logger then d.setup else none
  let admitted := match setup with
    | some s => s.admits c.level
    | none => decide (warning ≤ c.level)
  match admitted, Json.unshowable? (.int c.level), setup with
  | false, _, _ => (d, .ok "")
  | true, some fault, _ => (d, .error (.value fault))
  | true, none, none => (d, .ok (c.message ++ "\n"))
  | true, none, some s =>
    let (shown, files) := s.emit c.entry d.files
    ({ d with files }, .ok shown)

def logAll (d : Desk) (calls : List Call) : Desk := calls.foldl (fun d c => (d.log c).1) d

end Desk
end FeatureSpec.Log
