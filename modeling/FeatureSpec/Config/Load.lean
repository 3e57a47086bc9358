import FeatureSpec.Config.Basic
import FeatureSpec.Files.Tree
import FeatureSpec.Logged
import FeatureSpec.Text.Case
import FeatureSpec.Text.Lines
import FeatureSpec.Toml.Document
/-!
Loading the configuration. Of every setting the environment comes first, if it gives a text that
is not empty; then the file; then the default. A wrong value in the file is refused even where
the environment has another one.
-/
namespace FeatureSpec.Config

def wrongType (key : String) (v : Toml) : Failure :=
  let limit : Nat := Nat.pow 10 Number.integerDigitLimit
  if v.integers.any fun n => limit ≤ n.natAbs then .value .tooManyDigitsToShow
  else .config (.wrongType key v.shown) none

def table (data : Entries Toml) (name : String) : Except Failure (Entries Toml) :=
  match data.get? name with
  | none => .ok []
  | some (.table t) => .ok t
  | some _ => .error (.config (.notTable name) none)

def textSetting (t : Entries Toml) (key : String) : Except Failure (Option String) :=
  match t.get? key with
  | none => .ok none
  | some (.string s) => .ok (some s)
  | some v => .error (wrongType key v)

def flagSetting (t : Entries Toml) (key : String) : Except Failure (Option Bool) :=
  match t.get? key with
  | none => .ok none
  | some (.bool b) => .ok (some b)
  | some v => .error (wrongType key v)

/-- A setting that is a number; an integer has to be in the range of doubles. -/
def numberSetting (t : Entries Toml) (key : String) : Except Failure (Option Binary64) :=
  match t.get? key with
  | none => .ok none
  | some (.float x) => .ok (some x)
  | some (.int n) =>
    let x := Binary64.ofInt n
    if x.isFinite then .ok (some x) else .error .overflow
  | some v => .error (wrongType key v)

def levelOf (name : String) : Except Failure Log.Level :=
  match Log.namedLevels.find? fun level => Log.levelName level == Text.upper name with
  | some level => .ok level
  | none => .error (.config (.unknownLevel name) none)

def pathOf? (s : String) : Option Path := if s = "" then none else some (Path.ofString s)

/-- The configuration of a file. Of several wrong settings the first one in this order is
reported. -/
def ofTable (source : Path) (data : Entries Toml) : Except Failure Config := do
  let api ← table data "api"
  let specs ← table data "specs"
  let logging ← table data "logging"
  let logDirectory ← textSetting logging "directory"
  let baseUrl ← textSetting api "base_url"
  let timeout ← numberSetting api "timeout"
  let directory ← textSetting specs "directory"
  let strict ← flagSetting specs "strict"
  let levelName ← textSetting logging "level"
  let level ← levelName.mapM levelOf
  let absent : Config := {}
  return {
    baseUrl := baseUrl.getD absent.baseUrl
    timeout := timeout.getD absent.timeout
    specDirectory := (directory.map Path.ofString).getD absent.specDirectory
    strict := strict.getD absent.strict
    level := level.getD absent.level
    logDirectory := logDirectory.bind pathOf?
    source := some source }

def ofText (source : Path) (text : String) : Except Failure Config :=
  match Toml.readChars (Text.normalizeLines text.toList) with
  | .error .malformed => .error (.config (.malformed source.text) none)
  | .error (.tooManyDigits count) => .error (.value (.tooManyDigits count))
  | .ok data => ofTable source data

def ofOctets (source : Path) (os : Octets) : Except Failure Config :=
  match os.utf8? with
  | none => .error .undecodable
  | some text => ofText source text

def setting? (env : Entries String) (name : String) : Option String :=
  (env.get? name).filter (· ≠ "")

def timeoutOf (text : String) : Except Failure Binary64 :=
  match Number.looseFloat? text with
  | some x => .ok x
  | none => .error (.config (.timeoutText text) none)

def override (env : Entries String) (c : Config) : Except Failure Config := do
  let timeout ← (setting? env "XFEATURE_API_TIMEOUT").mapM timeoutOf
  let level ← (setting? env "XFEATURE_LOG_LEVEL").mapM levelOf
  let directory := (setting? env "XFEATURE_SPEC_DIR").map Path.ofString
  return { c with
    baseUrl := (setting? env "XFEATURE_API_URL").getD c.baseUrl
    timeout := timeout.getD c.timeout
    specDirectory := directory.getD c.specDirectory
    level := level.getD c.level }

def ofFile (t : FileTree) (path : Path) : Logged Config := do
  if t.isFile path then
    let os ← Logged.ofExcept (t.read path)
    let c ← Logged.ofExcept (ofOctets path os)
    Logged.log (Log.note Log.debug .config s!"Loaded configuration from {path.text}")
    return c
  else return {}

def load (t : FileTree) (env : Entries String) (path : Option Path) : Logged Config := do
  let c ← ofFile t (path.getD (t.base.join (Path.ofString fileName)))
  Logged.ofExcept (override env c)

end FeatureSpec.Config
