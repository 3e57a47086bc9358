import FeatureSpec.Files.Path
import FeatureSpec.Log.Record
import FeatureSpec.Number.Binary64
/-!
The configuration: where the backend is, where feature files lie and how they are compiled, and
what is logged.
-/
namespace FeatureSpec

structure Config where
  baseUrl : String := "http://localhost:8080/api/v1"
  /-- How long a request may take, in seconds. -/
  timeout : Binary64 := .ofInt 30
  specDirectory : Path := { parts := ["specs", "xfeature"] }
  strict : Bool := false
  level : Log.Level := Log.info
  logDirectory : Option Path := none
  source : Option Path := none
  deriving DecidableEq, Repr

namespace Config

def fileName : String := "xfeature.toml"

end Config
end FeatureSpec
