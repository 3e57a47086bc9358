import FeatureSpec.Config.Load
import FeatureSpec.Proofs.WholeDoubles
/-!
Which configurations are refused, and where each setting of the others comes from. What the file
and the environment say is put beside the loader as checks in the order in which it makes them, and
as values that it takes; the loader comes to the first failure of the checks, or to the values.
-/
namespace FeatureSpec.Config

/-! ### What the file says -/

def entriesOf (data : Entries Toml) (name : String) : Entries Toml :=
  match data.get? name with
  | some (.table entries) => entries
  | _ => []

def filed? (data : Entries Toml) (name key : String) : Option Toml := (entriesOf data name).get? key

def text? : Toml → Option String
  | .string s => some s
  | _ => none

def flag? : Toml → Option Bool
  | .bool b => some b
  | _ => none

/-- A number as a double; an integer is taken for the nearest one. -/
def number? : Toml → Option Binary64
  | .float x => some x
  | .int n => some (.ofInt n)
  | _ => none

def level? (name : String) : Option Log.Level :=
  Log.namedLevels.find? fun level => Log.levelName level == Text.upper name

def sections : List String := ["api", "specs", "logging"]

/-- A setting of the file, and why a value of it would be refused. -/
structure Setting where
  name : String
  key : String
  fault? : Toml → Option Failure

def textFault? (key : String) : Toml → Option Failure
  | .string _ => none
  | v => some (wrongType key v)

def flagFault? (key : String) : Toml → Option Failure
  | .bool _ => none
  | v => some (wrongType key v)

def numberFault? (key : String) : Toml → Option Failure
  | .float _ => none
  | .int n => if n.natAbs < Binary64.wholeLimit then none else some .overflow
  | v => some (wrongType key v)

def levelFault? (name : String) : Option Failure :=
  if (level? name).isSome then none else some (.config (.unknownLevel name) none)

/-- The settings of the file in the order in which they are checked. -/
def settings : List Setting :=
  [⟨"logging", "directory", textFault? "directory"⟩,
    ⟨"api", "base_url", textFault? "base_url"⟩,
    ⟨"api", "timeout", numberFault? "timeout"⟩,
    ⟨"specs", "directory", textFault? "directory"⟩,
    ⟨"specs", "strict", flagFault? "strict"⟩,
    ⟨"logging", "level", textFault? "level"⟩,
    ⟨"logging", "level", fun v => (text? v).bind levelFault?⟩]

def tableFault? (data : Entries Toml) (name : String) : Option Failure :=
  match data.get? name with
  | none | some (.table _) => none
  | some _ => some (.config (.notTable name) none)

def Setting.failure? (data : Entries Toml) (s : Setting) : Option Failure :=
  (filed? data s.name s.key).bind s.fault?

/-- The failure that a file leads to. -/
def fileFailure? (data : Entries Toml) : Option Failure :=
  (sections.findSome? (tableFault? data)).or (settings.findSome? (Setting.failure? data))

/-- The configuration of a file that leads to no failure. -/
def ofFiled (source : Option Path) (data : Entries Toml) : Config where
  baseUrl := ((filed? data "api" "base_url").bind text?).getD "http://localhost:8080/api/v1"
  timeout := ((filed? data "api" "timeout").bind number?).getD (.ofInt 30)
  specDirectory :=
    Path.ofString (((filed? data "specs" "directory").bind text?).getD "specs/xfeature")
  strict := ((filed? data "specs" "strict").bind flag?).getD false
  level := (((filed? data "logging" "level").bind text?).bind level?).getD Log.info
  logDirectory := ((filed? data "logging" "directory").bind text?).bind pathOf?
  source := source

/-! ### What the environment says -/

def timeoutFault? (text : String) : Option Failure :=
  if (Number.looseFloat? text).isSome then none else some (.config (.timeoutText text) none)

/-- The failure that an environment leads to. -/
def environmentFailure? (env : Entries String) : Option Failure :=
  ((setting? env "XFEATURE_API_TIMEOUT").bind timeoutFault?).or
    ((setting? env "XFEATURE_LOG_LEVEL").bind levelFault?)

/-- A configuration under an environment that leads to no failure. -/
def overridden (env : Entries String) (c : Config) : Config :=
  { c with
    baseUrl := (setting? env "XFEATURE_API_URL").getD c.baseUrl
    timeout := ((setting? env "XFEATURE_API_TIMEOUT").bind Number.looseFloat?).getD c.timeout
    specDirectory := ((setting? env "XFEATURE_SPEC_DIR").map Path.ofString).getD c.specDirectory
    level := ((setting? env "XFEATURE_LOG_LEVEL").bind level?).getD c.level }

/-! ### Failures in place of results -/

section

variable {α β : Type}

/-- The failure, if there is one, in place of the result. -/
def settle (failure? : Option Failure) (a : α) : Except Failure α :=
  match failure? with
  | none => .ok a
  | some f => .error f

theorem settle_bind {x : Except Failure α} {next : α → Except Failure β}
    {first later : Option Failure} {a : α} {b : β}
    (started : x = settle first a) (continued : next a = settle later b) :
    x >>= next = settle (first.or later) b := by
  subst started
  cases first with
  | none => exact continued
  | some f => rfl

theorem mapM_eq {read : α → Except Failure β} {fault? : α → Option Failure} {value? : α → Option β}
    (reads : ∀ a, some <$> read a = settle (fault? a) (value? a)) (given : Option α) :
    given.mapM read = settle (given.bind fault?) (given.bind value?) := by
  cases given with
  | none => rfl
  | some a => exact reads a

theorem findSome?_cons (f : α → Option β) (a : α) (rest : List α) :
    (a :: rest).findSome? f = (f a).or (rest.findSome? f) := by
  rw [List.findSome?]
  cases f a <;> rfl

theorem settle_eq_ok {failure? : Option Failure} {a b : α} :
    settle failure? a = .ok b ↔ failure? = none ∧ a = b := by
  cases failure? <;> simp [settle]

theorem settle_eq_error {failure? : Option Failure} {a : α} {f : Failure} :
    settle failure? a = .error f ↔ failure? = some f := by
  cases failure? <;> simp [settle]

end

/-! ### The loader comes to them -/

variable {data : Entries Toml} {env : Entries String}

theorem table_eq (data : Entries Toml) (name : String) :
    table data name = settle (tableFault? data name) (entriesOf data name) := by
  unfold table tableFault? entriesOf
  rcases data.get? name with _ | v
  · rfl
  · cases v <;> rfl

theorem textSetting_eq (name key : String) :
    textSetting (entriesOf data name) key =
      settle (Setting.failure? data ⟨name, key, textFault? key⟩)
        ((filed? data name key).bind text?) := by
  unfold textSetting Setting.failure? filed?
  rcases (entriesOf data name).get? key with _ | v
  · rfl
  · cases v <;> rfl

theorem flagSetting_eq (name key : String) :
    flagSetting (entriesOf data name) key =
      settle (Setting.failure? data ⟨name, key, flagFault? key⟩)
        ((filed? data name key).bind flag?) := by
  unfold flagSetting Setting.failure? filed?
  rcases (entriesOf data name).get? key with _ | v
  · rfl
  · cases v <;> rfl

theorem numberSetting_eq (name key : String) :
    numberSetting (entriesOf data name) key =
      settle (Setting.failure? data ⟨name, key, numberFault? key⟩)
        ((filed? data name key).bind number?) := by
  unfold numberSetting Setting.failure? filed?
  rcases (entriesOf data name).get? key with _ | v
  · rfl
  cases v with
  | int n =>
    simp only [Binary64.isFinite_ofInt_iff, Option.bind_some, numberFault?, number?]
    split <;> rfl
  | _ => rfl

theorem level?_eq_none_iff (name : String) :
    level? name = none ↔ Text.upper name ∉ ConfigFault.levelNames := by
  unfold level?
  generalize Text.upper name = word
  have named : Log.namedLevels.map Log.levelName = ConfigFault.levelNames := by decide
  simp [← named, List.find?_eq_none]

theorem levels_eq (name? : Option String) :
    name?.mapM levelOf = settle (name?.bind levelFault?) (name?.bind level?) := by
  apply mapM_eq
  intro name
  unfold levelOf levelFault? level?
  cases Log.namedLevels.find? fun level => Log.levelName level == Text.upper name <;> rfl

theorem timeouts_eq (text? : Option String) :
    text?.mapM timeoutOf = settle (text?.bind timeoutFault?) (text?.bind Number.looseFloat?) := by
  apply mapM_eq
  intro text
  unfold timeoutOf timeoutFault?
  cases Number.looseFloat? text <;> rfl

theorem specDirectory_eq (name? : Option String) :
    (name?.map Path.ofString).getD ({} : Config).specDirectory =
      Path.ofString (name?.getD "specs/xfeature") := by
  cases name? with
  | none => decide
  | some name => rfl

/-- A file comes to the first failure of its checks, or else to its settings. -/
theorem ofTable_eq (source : Path) (data : Entries Toml) :
    ofTable source data = settle (fileFailure? data) (ofFiled (some source) data) := by
  have order : fileFailure? data =
      (tableFault? data "api").or ((tableFault? data "specs").or ((tableFault? data "logging").or
        ((Setting.failure? data ⟨"logging", "directory", textFault? "directory"⟩).or
        ((Setting.failure? data ⟨"api", "base_url", textFault? "base_url"⟩).or
        ((Setting.failure? data ⟨"api", "timeout", numberFault? "timeout"⟩).or
        ((Setting.failure? data ⟨"specs", "directory", textFault? "directory"⟩).or
        ((Setting.failure? data ⟨"specs", "strict", flagFault? "strict"⟩).or
        ((Setting.failure? data ⟨"logging", "level", textFault? "level"⟩).or
        ((((filed? data "logging" "level").bind text?).bind levelFault?).or none))))))))) := by
    have nested : Setting.failure? data ⟨"logging", "level", fun v => (text? v).bind levelFault?⟩ =
        ((filed? data "logging" "level").bind text?).bind levelFault? :=
      (Option.bind_assoc _ _ _).symm
    simp only [fileFailure?, sections, settings, findSome?_cons, List.findSome?_nil,
      Option.or_assoc, Option.none_or, nested]
  rw [order]
  -- the tables first, then the settings as the loader reads them, each under its own check
  refine settle_bind (table_eq data "api") ?_
  refine settle_bind (table_eq data "specs") ?_
  refine settle_bind (table_eq data "logging") ?_
  refine settle_bind (textSetting_eq "logging" "directory") ?_
  refine settle_bind (textSetting_eq "api" "base_url") ?_
  refine settle_bind (numberSetting_eq "api" "timeout") ?_
  refine settle_bind (textSetting_eq "specs" "directory") ?_
  refine settle_bind (flagSetting_eq "specs" "strict") ?_
  refine settle_bind (textSetting_eq "logging" "level") ?_
  refine settle_bind (levels_eq _) ?_
  unfold ofFiled
  rw [← specDirectory_eq]
  rfl

theorem override_eq (env : Entries String) (c : Config) :
    override env c = settle (environmentFailure? env) (overridden env c) := by
  have order : environmentFailure? env =
      ((setting? env "XFEATURE_API_TIMEOUT").bind timeoutFault?).or
        (((setting? env "XFEATURE_LOG_LEVEL").bind levelFault?).or none) := by
    rw [Option.or_none, environmentFailure?]
  rw [order]
  refine settle_bind (timeouts_eq _) ?_
  refine settle_bind (levels_eq _) ?_
  rfl

def fileOf (t : FileTree) (path : Option Path) : Path :=
  path.getD (t.base.join (Path.ofString fileName))

/-- The table that a file holds; a file that is not there stands for an empty one. -/
inductive Given (t : FileTree) (file : Path) : Option Path → Entries Toml → Prop
  | missing (absent : t.isFile file = false) : Given t file none []
  | held {os : Octets} {text : String} {data : Entries Toml} (opened : t.read file = .ok os)
      (decoded : os.utf8? = some text)
      (parsed : Toml.readChars (Text.normalizeLines text.toList) = .ok data) :
      Given t file (some file) data

variable {t : FileTree} {file : Path} {path : Option Path} {source : Option Path} {os : Octets}

theorem isFile_of_read (opened : t.read file = .ok os) : t.isFile file = true := by
  unfold FileTree.read at opened
  unfold FileTree.isFile
  split at opened
  · cases opened
  · split at opened
    · rename_i found
      rw [found]
    · cases opened
    · cases opened

/-- A file that is there is read before the environment is looked at. -/
theorem load_of_read (opened : t.read (fileOf t path) = .ok os) :
    (load t env path).outcome = ofOctets (fileOf t path) os >>= override env := by
  have filed : (ofFile t (fileOf t path)).outcome = ofOctets (fileOf t path) os := by
    rw [ofFile, if_pos (isFile_of_read opened), opened, Logged.outcome_bind]
    change (Logged.ofExcept (ofOctets (fileOf t path) os) >>= _).outcome = _
    rw [Logged.outcome_bind]
    change ofOctets (fileOf t path) os >>= _ = _
    cases ofOctets (fileOf t path) os <;> rfl
  rw [load, Logged.outcome_bind]
  change (ofFile t (fileOf t path)).outcome >>= _ = _
  rw [filed]
  rfl

theorem load_of_missing (absent : t.isFile (fileOf t path) = false) :
    (load t env path).outcome = override env {} := by
  have standard : (ofFile t (fileOf t path)).outcome = .ok {} := by
    rw [ofFile, if_neg (Bool.eq_false_iff.mp absent)]
    rfl
  rw [load, Logged.outcome_bind]
  change (ofFile t (fileOf t path)).outcome >>= _ = _
  rw [standard]
  rfl

/-- The loader comes to the first failure of the file, else to that of the environment, else to
the settings. -/
theorem load_eq (given : Given t (fileOf t path) source data) :
    (load t env path).outcome =
      settle ((fileFailure? data).or (environmentFailure? env))
        (overridden env (ofFiled source data)) := by
  cases given with
  | missing absent =>
    have standard : ofFiled none [] = {} := by
      unfold ofFiled
      rw [← specDirectory_eq]
      rfl
    rw [load_of_missing absent, override_eq, standard]
    rfl
  | held opened decoded parsed =>
    rw [load_of_read opened, ofOctets, decoded]
    dsimp only
    rw [ofText, parsed]
    exact settle_bind (ofTable_eq _ data) (override_eq env _)

end FeatureSpec.Config
