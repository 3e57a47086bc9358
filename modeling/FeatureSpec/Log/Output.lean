import FeatureSpec.Files.Tree
import FeatureSpec.Log.Line
/-!
Where records go: to the terminal, and to a file that is rolled over before it would reach a
size. A rolled file moves to number one and the older ones move up; the oldest one is dropped.
-/
namespace FeatureSpec.Log

structure LogFile where
  path : Path
  /-- The size that the file may not reach; without one it may grow. -/
  maxOctets : Int
  /-- How many rolled files are kept; with none the file is never rolled. -/
  backups : Int
  deriving DecidableEq, Repr

structure Setup where
  level : Level
  file : Option LogFile := none
  deriving DecidableEq, Repr

namespace LogFile

def name : String := "xfeature.log"

def rolled (f : LogFile) (number : Nat) : Path :=
  let last := f.path.parts.getLastD name
  { f.path with parts := f.path.parts.dropLast ++ [s!"{last}.{number}"] }

def move (t : FileTree) (source target : Path) : FileTree :=
  match t.place source, t.place target with
  | .ok (.inside a), .ok (.inside b) =>
    match t.file? a with
    | some content => ((t.erase a).put b content)
    | none => t
  | _, _ => t

def shiftUp (f : LogFile) : Nat → FileTree → FileTree
  | 0, t => t
  | 1, t => t
  | number + 1, t => shiftUp f number (move t (f.rolled number) (f.rolled (number + 1)))

def rollOver (f : LogFile) (t : FileTree) : FileTree :=
  if f.backups ≤ 0 then t
  else
    let t := move (f.shiftUp f.backups.toNat t) f.path (f.rolled 1)
    match t.place f.path with
    | .ok (.inside parts) => t.put parts []
    | _ => t

def content (f : LogFile) (t : FileTree) : Octets :=
  match t.lookup f.path with
  | .ok (.file os) => os
  | _ => []

def append (f : LogFile) (t : FileTree) (line : String) : FileTree :=
  let os := Octets.ofString (line ++ "\n")
  let full := 0 < f.maxOctets && f.maxOctets ≤ ((f.content t).length + os.length : Nat)
  let t := if full then f.rollOver t else t
  match t.place f.path with
  | .ok (.inside parts) => t.put parts (f.content t ++ os)
  | _ => t

/-- The files with the log file in place, which starts empty unless it is there. What lies outside
the tree is left alone. -/
def openIn (f : LogFile) (directory : Path) (t : FileTree) : Except Failure FileTree := do
  let t ← t.makeDirectory directory
  match t.lookup f.path with
  | .ok (.file _) => return t
  | .ok .directory => .error (.file .isDirectory)
  | .error _ =>
    match t.place f.path with
    | .ok (.inside parts) => return t.put parts []
    | _ => return t

end LogFile

namespace Setup

def make (level : Level) (directory : Option Path) (maxOctets : Int := 5242880)
    (backups : Int := 3) : Setup :=
  { level
    file := directory.map fun d =>
      { path := d.join (Path.ofString LogFile.name), maxOctets, backups } }

def prepare (s : Setup) (directory : Option Path) (t : FileTree) : Except Failure FileTree :=
  match s.file, directory with
  | some f, some d => f.openIn d t
  | _, _ => .ok t

/-- Whether a record is let through. Its level is above zero, and level zero of the setup leaves
the choice to the level of warnings. -/
def admits (s : Setup) (level : Level) : Bool :=
  decide (0 < level ∧ (if s.level = 0 then warning else s.level) ≤ level)

/-- What a record that comes to the handlers writes to the terminal, and the files after it. A record
without a line for the file is lost there; what the terminal shows of that is left open. -/
def emit (s : Setup) (e : Entry) (t : FileTree) : String × FileTree :=
  if s.admits e.level then
    (e.consoleLine ++ "\n",
      match s.file, e.fileLine with
      | some f, .ok line => f.append t line
      | _, _ => t)
  else ("", t)

def emitAll (s : Setup) : List Entry → FileTree → String × FileTree
  | [], t => ("", t)
  | e :: rest, t =>
    let (shown, t) := s.emit e t
    let (more, t) := emitAll s rest t
    (shown ++ more, t)

end Setup
end FeatureSpec.Log
