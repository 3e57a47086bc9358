import FeatureSpec.Command.Run
import Std.Time.DateTime.Timestamp
/-!
The program `xfeature`. It works on the files below the working directory, and writes what has
become of them there. It has no connection to a network, so every request to a backend fails.
-/
namespace FeatureSpec.Command

def settingNames : List String :=
  ["XFEATURE_API_URL", "XFEATURE_API_TIMEOUT", "XFEATURE_SPEC_DIR", "XFEATURE_LOG_LEVEL"]

def environment : IO (Entries String) :=
  settingNames.filterMapM fun name => do
    return (← IO.getEnv name).map fun value => (name, value)

/-- How deep below the working directory files are looked for. -/
def depthLimit : Nat := 32

def addEntry : Nat → List String → FileTree → IO.FS.DirEntry → IO FileTree
  | 0, _, t, _ => return t
  | depth + 1, above, t, entry => do
    let parts := above ++ [entry.fileName]
    try
      if ← entry.path.isDir then
        let inner ← entry.path.readDir
        inner.foldlM (addEntry depth parts) { t with made := t.made ++ [parts] }
      else
        let content ← IO.FS.readBinFile entry.path
        return t.put parts content.toList
    catch _ => return t

def filesHere : IO FileTree := do
  let directory ← IO.currentDir
  let entries ← directory.readDir
  entries.foldlM (addEntry depthLimit []) { base := Path.ofString directory.toString }

def writeChanges (before after : FileTree) : IO Unit := do
  for parts in after.made do
    if !before.made.contains parts then IO.FS.createDirAll (Path.joined parts)
  for (parts, content) in after.files do
    if before.file? parts != some content then
      IO.FS.writeBinFile (Path.joined parts) (ByteArray.mk content.toArray)

/-- What a program without a network knows of its surroundings. -/
def surroundings : IO Surroundings := do
  let now ← Std.Time.Timestamp.now
  let micros : Int := now.toNanosecondsSinceUnixEpoch.val / 1000
  return {
    env := ← environment
    world := { transport := fun _ _ => .failed "no network" }
    stamp := { Log.Stamp.nowhere with time := ⟨micros⟩, file := "xfeature" } }

end FeatureSpec.Command

def main (args : List String) : IO UInt32 := do
  let files ← FeatureSpec.Command.filesHere
  let outcome := FeatureSpec.Command.run (← FeatureSpec.Command.surroundings) files args
  FeatureSpec.Command.writeChanges files outcome.terminal.files
  IO.print outcome.terminal.out
  IO.eprint outcome.terminal.err
  match outcome.crash with
  | some f => IO.eprintln s!"{f.name}: {f.message}"
  | none => if outcome.code = 2 then IO.eprintln "Usage: xfeature [OPTIONS] COMMAND [ARGS]..."
  return outcome.code.toUInt32
