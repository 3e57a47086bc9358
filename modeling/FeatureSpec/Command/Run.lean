import FeatureSpec.Command.Basic
import FeatureSpec.Command.Table
import FeatureSpec.Command.Terminal
import FeatureSpec.Config.Load
import FeatureSpec.Gateway.BundleFile
import FeatureSpec.Log.Level
import FeatureSpec.Model.Lookup
import FeatureSpec.Model.Problem
import FeatureSpec.Placeholder
import FeatureSpec.Session
import FeatureSpec.SpecDirectory
/-!
The commands at work.
-/
namespace FeatureSpec.Command

open Act

def version : String := "0.1.0"

structure Outcome where
  code : Nat
  crash : Option Failure := none
  terminal : Terminal

def loadConfig (path : Option Path) : Act Config := do
  let loaded := Config.load (← get).files (← read).env path
  expect Failure.isOwn (← logged loaded)

def isPath (target : String) : Bool :=
  (Text.lower target).endsWith SpecDirectory.suffix || target.toList.any fun c =>
    c == '/' || c == '\\'

def compiled (target : Target) : Act Feature := do
  let c ← loadConfig target.config
  let strict := target.strict.getD c.strict
  let files := (← get).files
  if isPath target.name then
    let path := Path.ofString target.name
    if files.isFile path then
      expect Failure.isOwn (← logged (SpecDirectory.compileFile files strict path))
    else do
      complain s!"Error: file not found: {path.text}"
      exit 1
  else
    expect Failure.isOwn (← logged (SpecDirectory.load files strict c.specDirectory target.name))

/-- The style of printed JSON: without indentation everything stands on one line, and a negative
one counts as none at all within lines of their own. What is no signed number of 64 bits is no
indentation. -/
def styleOf (indent : Int) : Except Failure Json.Style :=
  if -Int.pow 2 63 ≤ indent ∧ indent < Int.pow 2 63 then
    .ok { ascii := false, indent := if indent = 0 then none else some indent.toNat }
  else .error .overflow

def checkFeature (f : Feature) : Act Unit := do
  if f.problems.isEmpty then say s!"{f.name}: OK"
  else do
    for p in f.problems do
      complain s!"  - {p.message}"
    complain s!"{f.name}: {f.problems.length} problem(s) found"
    exit 1

def showParams (sql : String) (driver : Option String) : Act Unit := do
  for name in Placeholder.names sql do
    say name
  match driver with
  | some driver => if driver = "" then pure () else say (Placeholder.convert driver sql)
  | none => pure ()

def queryTable (f : Feature) : Table :=
  { title := "Queries"
    headings := ["Id", "Type", "Parameters"]
    rows :=
      (f.backend.queries.map fun q =>
        [q.id, Payload.Choice.word q.kind, ", ".intercalate q.parameterNames]) ++
      f.backend.actionQueries.map fun a =>
        [a.id, Payload.Choice.word a.kind, ", ".intercalate a.parameterNames] }

def elementTable (f : Feature) : Table :=
  { title := "Frontend"
    headings := ["Element", "Id", "Source", "Children"]
    rows :=
      (f.frontend.dataTables.map fun t =>
        ["DataTable", t.id, t.queryRef, toString t.columns.length]) ++
      f.frontend.forms.map fun form =>
        ["Form", form.id, form.actionRef.getD "", toString form.fields.length] }

def mappingTable (f : Feature) : Table :=
  { title := "Mappings"
    headings := ["Name", "Data type", "Label", "Options"]
    rows := f.mappings.map fun m =>
      [m.name, m.dataType, m.label,
        if m.listQuery.isSome then "list query" else toString m.optionItems.length] }

def screenWidth : Nat := 80

/-- The line above the tables. Marks set the name in bold type. Of the backslashes at the end of the
name every second one escapes the next, and one left over escapes the mark behind it, which then
shows. -/
def inspectionTitle (name version : String) : String :=
  let count := (name.toList.reverse.takeWhile (· == '\\')).length
  let kept := String.ofList (name.toList.take (name.length - count + count / 2))
  kept ++ (if count % 2 = 1 then "[/bold]" else "") ++ s!" version {version}"

def inspectFeature (f : Feature) : Act Unit := do
  let version := if f.version = "" then "-" else f.version
  for line in Text.wrap .fold screenWidth (Table.shown (inspectionTitle f.name version)) do
    say (String.ofList line)
  let tables := [queryTable f, elementTable f] ++
    (if f.mappings.isEmpty then [] else [mappingTable f])
  for line in tables.flatMap Table.lines do
    say line

def listFeatures (config : Option Path) : Act Unit := do
  let c ← loadConfig config
  let names := SpecDirectory.names (← get).files c.specDirectory
  if names.isEmpty then complain s!"No features in {c.specDirectory.text}"
  else
    for name in names do
      say name

def showChecksums (path : Option Path) (config : Option Path) : Act Unit := do
  let path ← match path with
    | some path => pure path
    | none => (·.specDirectory) <$> loadConfig config
  let files := (← get).files
  if files.isDirectory path then
    for (relative, digest) in SpecDirectory.checksums files path do
      say s!"{digest}  {relative}"
  else if files.isFile path then
    let digest ← expect (fun _ => false) (SpecDirectory.fileChecksum files path)
    say s!"{digest}  {path.text}"
  else do
    complain s!"Error: path not found: {path.text}"
    exit 1

/-- A parameter of a query as it is given: a key that is not empty, an equals sign and a value. -/
def paramOf? (text : String) : Option (String × Json) :=
  let (key, value) := text.toList.span (· != '=')
  match key, value with
  | [], _ => none
  | _, [] => none
  | key, _ :: value => some (String.ofList key, .string (String.ofList value))

def gatewayOf (c : Config) (bundle : Option Bundle) : Gateway :=
  match bundle with
  | some b => .canned b
  | none => .live (Client.make c.baseUrl (.fraction c.timeout) true)

def Origin.addressed (origin : Origin) (c : Config) : Config :=
  match origin.baseUrl with
  | some url => if url = "" then c else { c with baseUrl := url }
  | none => c

/-- Sets logging up under a configuration, whose log directory takes the place of the one given to
the program. -/
def logUnder (c : Config) : Act Unit := do
  match c.logDirectory with
  | some directory => setUpLogging (min (← get).setup.level c.level) (some directory)
  | none => pure ()

def sessionOn (handled : Failure → Bool) (feature : String) (origin : Origin) : Act Session := do
  let loaded := Config.load (← get).files (← read).env origin.config
  let c ← expect handled (← logged loaded)
  let c := origin.addressed c
  logUnder c
  let bundle ← match origin.bundle with
    | some path => some <$> expect handled (Bundle.ofFile (← get).files path)
    | none => pure none
  return { feature, gateway := gatewayOf c bundle }

def loadFeature (feature : String) (origin : Origin) : Act Unit := do
  let s ← sessionOn Failure.isOwn feature origin
  let s ← expect Failure.isOwn (← performed s.load)
  match s.error with
  | some f => do
    complain s!"{feature}: {s.state.name} ({f.message})"
    exit 1
  | none => do
    say s!"{feature}: {s.state.name} (revision {s.revision})"
    match s.definition? with
    | some d =>
      for (key, count) in d.stats.entries do
        say s!"  {key}: {count}"
    | none => pure ()

def runQuery (feature id : String) (texts : List String) (origin : Origin) : Act Unit := do
  match texts.mapM paramOf? with
  | none => exit 2
  | some given => do
    let handled (f : Failure) : Bool := f.isOwn || f.isLookup
    let s ← sessionOn handled feature origin
    let reply ← expect handled (← performed (s.executeQuery id (Entries.ofList given)))
    say (Json.write ⟨true, some 2⟩ (← expect handled (reply.write QueryReply.write)))

def execute : Command → Act Unit
  | .compile target indent => do
    let f ← compiled target
    let style ← expect (fun _ => false) (styleOf indent)
    say (Json.write style (Feature.codec.encode f))
  | .check target => do checkFeature (← compiled target)
  | .params sql driver => showParams sql driver
  | .inspect target => do inspectFeature (← compiled target)
  | .features config => listFeatures config
  | .checksum path config => showChecksums path config
  | .load feature origin => loadFeature feature origin
  | .query feature id texts origin => runQuery feature id texts origin

/-- A whole command line. Logging is set up before the words after the command are read. -/
def perform (args : List String) : Act Unit :=
  match opening args with
  | .misuse => exit 2
  | .version => say s!"xfeature {version}"
  | .command verbose directory name words => do
    setUpLogging (if verbose then Log.debug else Log.warning) directory
    match ofWords? name words with
    | none => exit 2
    | some c => execute c

def run (s : Surroundings) (files : FileTree) (args : List String) : Outcome :=
  let (result, terminal) := ((perform args).run s).run.run { files }
  match result with
  | .ok _ => { code := 0, terminal }
  | .error (.exit code) => { code, terminal }
  | .error (.crash f) => { code := 1, crash := some f, terminal }

end FeatureSpec.Command
