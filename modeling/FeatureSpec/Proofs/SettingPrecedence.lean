import FeatureSpec.Proofs.EncodedSegments
import FeatureSpec.Proofs.WrongSettings
import Mathlib
/-!
Precedence of the settings: the environment comes before the file, and the file before the
defaults, for each setting alone. What is wrong in either is refused, and nothing else is looked at.
-/
namespace FeatureSpec.Config

/-- Where each setting of a configuration comes from. -/
structure Settled (source : Option Path) (data : Entries Toml) (env : Entries String)
    (c : Config) : Prop where
  baseUrl : c.baseUrl =
    ((setting? env "XFEATURE_API_URL").or ((filed? data "api" "base_url").bind text?)).getD
      "http://localhost:8080/api/v1"
  timeout : c.timeout =
    (((setting? env "XFEATURE_API_TIMEOUT").bind Number.looseFloat?).or
      ((filed? data "api" "timeout").bind number?)).getD (.ofInt 30)
  specDirectory : c.specDirectory = Path.ofString
    (((setting? env "XFEATURE_SPEC_DIR").or ((filed? data "specs" "directory").bind text?)).getD
      "specs/xfeature")
  level : Log.levelName c.level = Text.upper
    (((setting? env "XFEATURE_LOG_LEVEL").or ((filed? data "logging" "level").bind text?)).getD
      "INFO")
  strict : c.strict = ((filed? data "specs" "strict").bind flag?).getD false
  logDirectory : c.logDirectory =
    (((filed? data "logging" "directory").bind text?).filter (· ≠ "")).map Path.ofString
  source : c.source = source

/-- Two files that say the same about all settings. -/
structure Alike (data data' : Entries Toml) : Prop where
  tables : ∀ name ∈ sections,
    (∃ v, data.get? name = some v ∧ ∀ entries, v ≠ .table entries) ↔
      ∃ v, data'.get? name = some v ∧ ∀ entries, v ≠ .table entries
  values : ∀ s ∈ settings, filed? data s.name s.key = filed? data' s.name s.key

variable {t t' : FileTree} {env : Entries String} {path path' source : Option Path}
  {data data' : Entries Toml} {c : Config}

/-! ### Where settings come from -/

theorem levelName_of_level? {name : String} {level : Log.Level} (found : level? name = some level) :
    Log.levelName level = Text.upper name :=
  eq_of_beq (List.find?_some found :)

/-- Of two names, the first that is there gives the level, provided that each is that of one. -/
theorem level_of_names {first? second? : Option String}
    (first : ∀ name, first? = some name → level? name ≠ none)
    (second : ∀ name, second? = some name → level? name ≠ none) :
    Log.levelName ((first?.bind level?).getD ((second?.bind level?).getD Log.info)) =
      Text.upper ((first?.or second?).getD "INFO") := by
  cases first? with
  | some name =>
    obtain ⟨level, found⟩ := Option.ne_none_iff_exists'.mp (first name rfl)
    simp [found, levelName_of_level? found]
  | none =>
    cases second? with
    | some name =>
      obtain ⟨level, found⟩ := Option.ne_none_iff_exists'.mp (second name rfl)
      simp [found, levelName_of_level? found]
    | none => decide

theorem settled_overridden (right : ∀ f, ¬Wrong data env f) :
    Settled source data env (overridden env (ofFiled source data)) where
  baseUrl := Option.getD_or.symm
  timeout := Option.getD_or.symm
  specDirectory := by
    show ((setting? env "XFEATURE_SPEC_DIR").map Path.ofString).getD (Path.ofString _) = _
    rw [Option.getD_map, Option.getD_or]
  -- A level that is not known would have been refused, so the one that is chosen has a name.
  level := by
    apply level_of_names
    · intro name present unknown
      exact right _ (.givenNoLevel present ((level?_eq_none_iff name).mp unknown))
    · intro name present unknown
      obtain ⟨v, held, textual⟩ := Option.bind_eq_some_iff.mp present
      cases v with
      | string s =>
        obtain rfl := Option.some.inj textual
        exact right _ (.noLevel held ((level?_eq_none_iff s).mp unknown))
      | _ => cases textual
  strict := rfl
  logDirectory := by
    show ((filed? data "logging" "directory").bind text?).bind pathOf? = _
    cases (filed? data "logging" "directory").bind text? with
    | none => rfl
    | some s => by_cases empty : s = "" <;> simp [pathOf?, empty]
  source := rfl

/-! ### What is not looked at -/

theorem Alike.fileFailure?_eq (alike : Alike data data') :
    fileFailure? data = fileFailure? data' := by
  have tables : sections.filterMap (tableFault? data) = sections.filterMap (tableFault? data') := by
    apply List.filterMap_congr
    intro name known
    ext f
    rw [tableFault?_eq_some_iff, tableFault?_eq_some_iff, alike.tables name known]
  have values : settings.filterMap (Setting.failure? data) =
      settings.filterMap (Setting.failure? data') := by
    apply List.filterMap_congr
    intro s known
    rw [Setting.failure?, Setting.failure?, alike.values s known]
  simp only [fileFailure?, ← List.head?_filterMap, tables, values]

theorem Alike.ofFiled_eq (alike : Alike data data') : ofFiled source data = ofFiled source data' := by
  have texts {name key : String} (known : (name, key) ∈ textKeys) :
      filed? data name key = filed? data' name key :=
    alike.values _ (textSetting_known known)
  have timeout : filed? data "api" "timeout" = filed? data' "api" "timeout" :=
    alike.values _ timeout_known
  have strict : filed? data "specs" "strict" = filed? data' "specs" "strict" :=
    alike.values _ strict_known
  unfold ofFiled
  rw [timeout, strict, texts (show ("api", "base_url") ∈ textKeys by decide),
    texts (show ("specs", "directory") ∈ textKeys by decide),
    texts (show ("logging", "level") ∈ textKeys by decide),
    texts (show ("logging", "directory") ∈ textKeys by decide)]

theorem section_of_setting : ∀ s ∈ settings, s.name ∈ sections := by
  simp [settings, sections]

/-- An entry beside the tables of the settings makes no difference. -/
theorem alike_put_section {name : String} (other : name ∉ sections) (v : Toml) :
    Alike data (data.put name v) where
  tables := by
    intro known member
    have apart : name ≠ known := fun same => other (same ▸ member)
    rw [Entries.get?_put, if_neg apart]
  values := by
    intro s known
    have apart : name ≠ s.name := fun same => other (same ▸ section_of_setting s known)
    rw [filed?, filed?, entriesOf, entriesOf, Entries.get?_put, if_neg apart]

/-- A key in one of these tables that is no setting makes no difference. -/
theorem alike_put_key {name key : String} {entries : Entries Toml}
    (held : data.get? name = some (.table entries))
    (other : ∀ s ∈ settings, (s.name, s.key) ≠ (name, key)) (v : Toml) :
    Alike data (data.put name (.table (entries.put key v))) where
  tables := by
    intro known member
    rw [Entries.get?_put]
    by_cases here : name = known
    · subst here
      simp [held]
    · rw [if_neg here]
  values := by
    intro s known
    rw [filed?, filed?, entriesOf, entriesOf, Entries.get?_put]
    by_cases here : name = s.name
    · subst here
      have apart : key ≠ s.key := fun same => other s known (by rw [same])
      rw [if_pos rfl, held]
      exact ((Entries.get?_put entries key s.key v).trans (if_neg apart)).symm
    · rw [if_neg here]

/-! ### The settings as they are loaded -/

/-- A configuration is refused exactly if something is wrong in its file or in the environment. If
nothing is, each setting comes from the environment, else from the file, else from the defaults.
Files that say the same about the settings lead to the same. -/
theorem settings_precede (given : Given t (fileOf t path) source data)
    (ranged : ∀ n ∈ Toml.integersOfEntries data, n.natAbs < Binary64.wholeLimit) :
    ((∃ fault, (load t env path).outcome = .error (.config fault none)) ↔
        ∃ f, Wrong data env f) ∧
      ((∀ f, ¬Wrong data env f) →
        ∃ c, (load t env path).outcome = .ok c ∧ Settled source data env c) ∧
      ∀ {t' path' data'}, Given t' (fileOf t' path') source data' → Alike data data' →
        (load t' env path').outcome = (load t env path).outcome := by
  -- Integers in the range of doubles overflow nowhere, and can be told in a message.
  have narrow : ¬WideTimeout data := by
    rintro ⟨n, present, wide⟩
    have inside := ranged n (integers_of_filed? present n (.head _))
    omega
  rw [load_eq given]
  refine ⟨⟨?_, ?_⟩, ?_, ?_⟩
  · rintro ⟨fault, refused⟩
    rcases wrong_of_failure (settle_eq_error.mp refused) with wrong | ⟨-, wide⟩
    · exact ⟨_, wrong⟩
    · exact absurd wide narrow
  · rintro ⟨f, wrong⟩
    obtain ⟨g, came⟩ := Option.ne_none_iff_exists'.mp (failure_of_wrong wrong)
    rcases wrong_of_failure came with told | ⟨-, wide⟩
    · rcases wrong_cases told with ⟨fault, rfl⟩ | ⟨-, name, key, v, present, n, member, long⟩
      · exact ⟨fault, settle_eq_error.mpr came⟩
      · have inside := ranged n (integers_of_filed? present n member)
        exact absurd long (not_unwritable inside)
    · exact absurd wide narrow
  · intro right
    refine ⟨_, settle_eq_ok.mpr ⟨?_, rfl⟩, settled_overridden right⟩
    by_contra some
    obtain ⟨f, came⟩ := Option.ne_none_iff_exists'.mp some
    rcases wrong_of_failure came with wrong | ⟨-, wide⟩
    · exact right f wrong
    · exact narrow wide
  · intro t' path' data' given' alike
    rw [load_eq given', alike.fileFailure?_eq, alike.ofFiled_eq]

def sampleText : String :=
  "[api]\nbase_url = \"http://file/api\"\ntimeout = 5\nretries = 3\n" ++
    "[logging]\nlevel = \"debug\"\n[colors]\nred = true\n"

def sampleData : Entries Toml :=
  [("api", .table [("base_url", .string "http://file/api"), ("timeout", .int 5),
      ("retries", .int 3)]),
    ("logging", .table [("level", .string "debug")]),
    ("colors", .table [("red", .bool true)])]

def sampleTree : FileTree := { files := [([fileName], Octets.ofString sampleText)] }

theorem sampleTree_given :
    Given sampleTree (fileOf sampleTree none) (some (fileOf sampleTree none)) sampleData := by
  have parsed : Toml.readChars (Text.normalizeLines sampleText.toList) = .ok sampleData := by cbv
  exact .held rfl (Octets.utf8?_ofString sampleText) parsed

/-- An empty variable counts as none, and one with an unknown level is refused in spite of the
file. -/
theorem sample_settings :
    (∃ c, (load sampleTree [("XFEATURE_API_URL", ""), ("XFEATURE_API_TIMEOUT", "0.5")]
        none).outcome = .ok c ∧ c.baseUrl = "http://file/api" ∧
          c.timeout = .finite false (2 ^ 52) (-53) (by decide) ∧
          c.specDirectory = { parts := ["specs", "xfeature"] } ∧
          Log.levelName c.level = "DEBUG") ∧
      ∃ fault, (load sampleTree [("XFEATURE_LOG_LEVEL", "loud")] none).outcome =
        .error (.config fault none) := by
  have ranged : ∀ n ∈ Toml.integersOfEntries sampleData, n.natAbs < Binary64.wholeLimit := by
    decide +kernel
  constructor
  · have right (f : Failure) : ¬Wrong sampleData
        [("XFEATURE_API_URL", ""), ("XFEATURE_API_TIMEOUT", "0.5")] f := by
      intro wrong
      exact failure_of_wrong wrong (by decide +kernel)
    obtain ⟨c, loaded, settled⟩ := (settings_precede sampleTree_given ranged).2.1 right
    exact ⟨c, loaded, settled.baseUrl, settled.timeout.trans (by decide +kernel),
      settled.specDirectory.trans (by decide), settled.level.trans (by decide)⟩
  · exact (settings_precede sampleTree_given ranged).1.mpr ⟨_, .givenNoLevel rfl (by decide)⟩

end FeatureSpec.Config
