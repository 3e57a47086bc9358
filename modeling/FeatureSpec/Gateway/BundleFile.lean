import FeatureSpec.Files.Tree
import FeatureSpec.Json.Reader
import FeatureSpec.Model.Reply
/-!
Bundles in files, as JSON in UTF-8. A byte order mark makes a file malformed.
-/
namespace FeatureSpec.Bundle

def invalid (path : Path) : Failure := .config (.bundle path.text) none

def ofText (path : Path) (text : String) : Except Failure Bundle :=
  match Json.read text with
  | .error .malformed => .error (invalid path)
  | .error (.tooManyDigits count) => .error (.value (.tooManyDigits count))
  | .ok v => (codec.decode v).mapError fun _ => invalid path

/-- The bundle of a file. A file that cannot be read is invalid; one that is no text is not. -/
def ofFile (t : FileTree) (path : Path) : Except Failure Bundle :=
  match t.read path with
  | .error (.file _) => .error (invalid path)
  | .error f => .error f
  | .ok os =>
    match os.utf8? with
    | none => .error .undecodable
    | some text => ofText path text

end FeatureSpec.Bundle
