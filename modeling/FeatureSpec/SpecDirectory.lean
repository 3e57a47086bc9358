import FeatureSpec.Digest.Md5
import FeatureSpec.Document
import FeatureSpec.Files.Tree
import FeatureSpec.Model.Reply
import FeatureSpec.Text.Case
/-!
Directories of feature files. A feature is found by its name, which is the name of its file
without the suffix.
-/
namespace FeatureSpec.SpecDirectory

def suffix : String := ".xml"

def filePath (directory : Path) (name : String) : Path :=
  directory.join (Path.ofString (name ++ suffix))

def isFeatureName (name : String) : Bool := Text.lower (Path.suffix name) == suffix

def missing (name : String) (path : Path) : Failure :=
  .notFound "feature" name s!"Feature file not found: {path.text}"

def compileFile (t : FileTree) (strict : Bool) (path : Path) : Logged Feature := do
  let os ← Logged.ofExcept (t.read path)
  Document.compileOctets { strict, source := some path.text } os

def load (t : FileTree) (strict : Bool) (directory : Path) (name : String) : Logged Feature := do
  let path := filePath directory name
  if t.isFile path then
    Logged.log (Log.note Log.debug .loader s!"Loading feature {name} from {path.text}")
    compileFile t strict path
  else Logged.fail (missing name path)

/-- The names of the feature files that lie in a directory itself, sorted. -/
def names (t : FileTree) (directory : Path) : List String :=
  let found := (t.below directory).filterMap fun f =>
    match f.1 with
    | [name] => if isFeatureName name then some (Path.stem name) else none
    | _ => none
  found.mergeSort fun a b => decide (a ≤ b)

/-- The feature files at any depth below a directory, by their parts from there, in the order of
paths. -/
def files (t : FileTree) (directory : Path) : List (List String × Octets) :=
  ((t.below directory).filter fun f => isFeatureName (f.1.getLastD "")).mergeSort
    fun f g => Path.partsLe f.1 g.1

def checksums (t : FileTree) (directory : Path) : List (String × String) :=
  (files t directory).map fun f => (Path.joined f.1, Md5.hexDigest f.2)

def fileChecksum (t : FileTree) (path : Path) : Except Failure String :=
  (t.read path).map Md5.hexDigest

def checksum (t : FileTree) (directory : Path) (name : String) : Except Failure Checksum := do
  let path := filePath directory name
  if t.isFile path then
    return { feature := name, checksum := ← fileChecksum t path }
  else .error (missing name path)

end FeatureSpec.SpecDirectory
