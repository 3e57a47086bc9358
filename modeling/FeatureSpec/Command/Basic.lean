import FeatureSpec.Command.Words
import FeatureSpec.Files.Path
import FeatureSpec.Number.IntegerText
/-!
The commands of the command line, and how its words are read. Of an option given more than once
the last one counts.
-/
namespace FeatureSpec

structure Command.Target where
  name : String
  strict : Option Bool := none
  config : Option Path := none
  deriving DecidableEq, Repr

structure Command.Origin where
  baseUrl : Option String := none
  bundle : Option Path := none
  config : Option Path := none
  deriving DecidableEq, Repr

inductive Command where
  | compile (target : Command.Target) (indent : Int)
  | check (target : Command.Target)
  | params (sql : String) (driver : Option String)
  | inspect (target : Command.Target)
  | features (config : Option Path)
  | checksum (path : Option Path) (config : Option Path)
  | load (feature : String) (origin : Command.Origin)
  | query (feature id : String) (params : List String) (origin : Command.Origin)
  deriving DecidableEq, Repr

namespace Command

inductive Setting where
  | version
  | verbose
  | logDirectory (path : String)
  | strict (b : Bool)
  | indent (text : String)
  | config (path : String)
  | driver (name : String)
  | baseUrl (url : String)
  | bundle (path : String)
  | param (text : String)
  deriving DecidableEq, Repr

/-- The options before the command. Those that ask for help, or that set up completion in a shell,
are left out, so that they count as unknown. -/
def generalOptions : Spellings Setting :=
  [("--version", .plain .version), ("--verbose", .plain .verbose), ("-v", .plain .verbose),
    ("--log-dir", .valued .logDirectory)]

def configOption : Spellings Setting := [("--config", .valued .config)]

def targetOptions : Spellings Setting :=
  configOption ++ [("--strict", .plain (.strict true)), ("--lenient", .plain (.strict false))]

def originOptions : Spellings Setting :=
  configOption ++ [("--api-url", .valued .baseUrl), ("--mock", .valued .bundle)]

/-- The options after the command, again without the one that asks for help. -/
def optionsOf : String → Option (Spellings Setting)
  | "compile" => some (targetOptions ++ [("--indent", .valued .indent)])
  | "check" => some targetOptions
  | "params" => some [("--driver", .valued .driver), ("-d", .valued .driver)]
  | "inspect" => some targetOptions
  | "features" => some configOption
  | "checksum" => some configOption
  | "load" => some originOptions
  | "query" =>
    some (originOptions ++ [("--param", .valued .param), ("-p", .valued .param)])
  | _ => none

def lastOf {α : Type} (get : Setting → Option α) (given : List Setting) : Option α :=
  (given.filterMap get).getLast?

def strictOf : Setting → Option Bool
  | .strict b => some b
  | _ => none

def configOf : Setting → Option String
  | .config path => some path
  | _ => none

def driverOf : Setting → Option String
  | .driver name => some name
  | _ => none

def indentOf : Setting → Option String
  | .indent text => some text
  | _ => none

def baseUrlOf : Setting → Option String
  | .baseUrl url => some url
  | _ => none

def bundleOf : Setting → Option String
  | .bundle path => some path
  | _ => none

def paramOf : Setting → Option String
  | .param text => some text
  | _ => none

def logDirectoryOf : Setting → Option String
  | .logDirectory path => some path
  | _ => none

def path? : Option String → Option (Option Path)
  | none => some none
  | some text => if text.toList.contains '\x00' then none else some (some (Path.ofString text))

def config? (given : List Setting) : Option (Option Path) := path? (lastOf configOf given)

def target? (given : List Setting) (name : String) : Option Target := do
  return { name, strict := lastOf strictOf given, config := ← config? given }

def origin? (given : List Setting) : Option Origin := do
  return {
    baseUrl := lastOf baseUrlOf given
    bundle := ← path? (lastOf bundleOf given)
    config := ← config? given }

def indentation? (given : List Setting) : Option Int :=
  match lastOf indentOf given with
  | some text => (Number.IntegerText.read text).toOption
  | none => some 2

def make? (name : String) (given : List Setting) (words : List String) : Option Command := do
  match name, words with
  | "compile", [target] => return .compile (← target? given target) (← indentation? given)
  | "check", [target] => return .check (← target? given target)
  | "params", [sql] => return .params sql (lastOf driverOf given)
  | "inspect", [target] => return .inspect (← target? given target)
  | "features", [] => return .features (← config? given)
  | "checksum", [] => return .checksum none (← config? given)
  | "checksum", [path] => return .checksum (← path? (some path)) (← config? given)
  | "load", [feature] => return .load feature (← origin? given)
  | "query", [feature, id] =>
    return .query feature id (given.filterMap paramOf) (← origin? given)
  | _, _ => none

def ofWords? (name : String) (words : List String) : Option Command := do
  let known ← optionsOf name
  let (given, words) ← scan known true words
  make? name given words

inductive Opening where
  | version
  | command (verbose : Bool) (logDirectory : Option Path) (name : String) (words : List String)
  | misuse
  deriving DecidableEq, Repr

/-- The general part of a command line. What looks like an option in place of a command is read
once more as one. -/
def opening (args : List String) : Opening :=
  match scan generalOptions false args with
  | none => .misuse
  | some (given, words) =>
    if given.contains .version then .version
    else
      match words with
      | [] => .misuse
      | name :: rest =>
        if (optionsOf name).isSome then
          match path? (lastOf logDirectoryOf given) with
          | some directory => .command (given.contains .verbose) directory name rest
          | none => .misuse
        else
          match scan generalOptions false words with
          | some (again, _) => if again.contains .version then .version else .misuse
          | none => .misuse

end Command
end FeatureSpec
