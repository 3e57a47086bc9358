import FeatureSpec.Gateway.Run
import FeatureSpec.Log.Output
import FeatureSpec.Text.Escape
/-!
What a command works in: files, logging, two streams of text, and the world that answers
requests. A command ends by itself, with an exit code, or by a failure that it does not handle.
-/
namespace FeatureSpec.Command

structure Terminal where
  files : FileTree
  setup : Log.Setup := { level := Log.warning }
  out : String := ""
  err : String := ""
  trace : Trace := []

structure Surroundings where
  env : Entries String
  world : World
  stamp : Log.Stamp

inductive Stop where
  | exit (code : Nat)
  | crash (f : Failure)
  deriving DecidableEq, Repr

abbrev Act := ReaderT Surroundings (ExceptT Stop (StateM Terminal))

namespace Act

def say (line : String) : Act Unit :=
  modify fun t => { t with out := t.out ++ Text.withoutEscapes line ++ "\n" }

def complain (line : String) : Act Unit :=
  modify fun t => { t with err := t.err ++ Text.withoutEscapes line ++ "\n" }

def exit {α : Type} (code : Nat) : Act α := throw (.exit code)

def crash {α : Type} (f : Failure) : Act α := throw (.crash f)

def emit (records : List Log.Record) : Act Unit := do
  let s ← read
  modify fun t =>
    let entries := records.map (·.entry s.stamp)
    let (shown, files) := t.setup.emitAll entries t.files
    { t with err := t.err ++ shown, files }

def logged {α : Type} (x : Logged α) : Act (Except Failure α) := do
  emit x.records
  return x.outcome

def recordsOf (trace : Trace) : List Log.Record :=
  trace.filterMap fun
    | .record r => some r
    | _ => none

def performed {α : Type} (x : Run α) : Act (Except Failure α) := do
  let s ← read
  let r := x s.world (← get).trace
  modify fun t => { t with trace := t.trace ++ r.trace }
  emit (recordsOf r.trace)
  return r.outcome

def expect {α : Type} (handled : Failure → Bool) (r : Except Failure α) : Act α :=
  match r with
  | .ok a => pure a
  | .error f =>
    if handled f then do
      complain s!"Error: {f.message}"
      exit 1
    else crash f

def setUpLogging (level : Log.Level) (directory : Option Path) : Act Unit := do
  let setup := Log.Setup.make level directory
  match setup.prepare directory (← get).files with
  | .ok files => modify fun t => { t with setup, files }
  | .error f => do
    modify fun t => { t with setup := { setup with file := none } }
    crash f

end Act
end FeatureSpec.Command
