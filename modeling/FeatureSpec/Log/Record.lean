import FeatureSpec.Entries
/-!
Log records: a level, the part of the library that speaks, a message, and context.
-/
namespace FeatureSpec.Log

abbrev Level := Int

def debug : Level := 10
def info : Level := 20
def warning : Level := 30
def error : Level := 40
def critical : Level := 50

def levelName (level : Level) : String :=
  if level = 0 then "NOTSET"
  else if level = debug then "DEBUG"
  else if level = info then "INFO"
  else if level = warning then "WARNING"
  else if level = error then "ERROR"
  else if level = critical then "CRITICAL"
  else s!"Level {level}"

def namedLevels : List Level := [debug, info, warning, error, critical]

inductive Part where
  | compiler
  | loader
  | client
  | gateway
  | mappings
  | machine
  | store
  | config
  deriving DecidableEq, Repr

namespace Part

def logger : Part → String
  | .compiler => "xfeature.core.parser"
  | .loader => "xfeature.core.loader"
  | .client => "xfeature.runtime.client"
  | .gateway => "xfeature.runtime.gateway"
  | .mappings => "xfeature.runtime.mappings"
  | .machine => "xfeature.runtime.state"
  | .store => "xfeature.runtime.store"
  | .config => "xfeature.config"

end Part

/-- What a part of the library logs. What else it knows are texts. -/
structure Record where
  level : Level
  part : Part
  message : String
  context : Entries String := []
  deriving DecidableEq, Repr

def note (level : Level) (part : Part) (message : String) : Record := { level, part, message }

end FeatureSpec.Log
