import FeatureSpec.Proofs.CompileCommand
import FeatureSpec.Proofs.GrownTrees
/-!
How `load` and `query` come by their session: the configuration is loaded, its log directory is set
up if it has one, and the bundle is read from the files that are there then. Unless the program was
given a log directory itself, what was in the files before is still there.
-/
namespace FeatureSpec.Command

open Act

/-- The terminal once the log directory of a configuration has taken the place of the one given to
the program. -/
def Terminal.logging (c : Config) (t : Terminal) : Except Failure Terminal :=
  match c.logDirectory with
  | none => .ok t
  | some directory =>
    let setup := Log.Setup.make (min t.setup.level c.level) (some directory)
    (setup.prepare (some directory) t.files).map fun files => { t with setup, files }

/-- The terminal of a session once its configuration is loaded and its logging is set up. -/
def equipped (s : Surroundings) (t : Terminal) (origin : Origin) : Except Failure Terminal :=
  let loaded := Config.load t.files s.env origin.config
  loaded.outcome.bind fun c => (t.recorded s loaded.records).logging c

section

variable {s : Surroundings} {t t' : Terminal} {origin : Origin} {path : Path}
  {handled : Failure → Bool} {feature : String} {α : Type}

/-! ### What is left on the terminal -/

theorem emitAll_files {setup : Log.Setup} (unfiled : setup.file = none) (entries : List Log.Entry)
    (files : FileTree) : (setup.emitAll entries files).2 = files := by
  induction entries with
  | nil => rfl
  | cons e rest ih =>
    have same : (setup.emit e files).2 = files := by
      unfold Log.Setup.emit
      rw [unfiled]
      split <;> rfl
    unfold Log.Setup.emitAll
    dsimp only
    rw [same, ih]

theorem logging_cases {c : Config} (ready : t.logging c = .ok t') :
    (c.logDirectory = none ∧ t' = t) ∨ ∃ directory files, c.logDirectory = some directory ∧
      (Log.Setup.make (min t.setup.level c.level) (some directory)).prepare (some directory)
        t.files = .ok files ∧
      t' = { t with
        setup := Log.Setup.make (min t.setup.level c.level) (some directory), files } := by
  unfold Terminal.logging at ready
  dsimp only at ready
  split at ready
  · rename_i undirected
    exact .inl ⟨undirected, (Except.ok.inj ready).symm⟩
  · rename_i directory directed
    rcases prepared : (Log.Setup.make (min t.setup.level c.level) (some directory)).prepare
        (some directory) t.files with f | files
    · rw [prepared] at ready
      cases ready
    · rw [prepared] at ready
      exact .inr ⟨directory, files, directed, prepared, (Except.ok.inj ready).symm⟩

theorem equipped_cases (ready : equipped s t origin = .ok t') :
    ∃ c, (Config.load t.files s.env origin.config).outcome = .ok c ∧
      (t.recorded s (Config.load t.files s.env origin.config).records).logging c = .ok t' := by
  unfold equipped at ready
  dsimp only at ready
  rcases loaded : (Config.load t.files s.env origin.config).outcome with f | c
  · rw [loaded] at ready
    cases ready
  · rw [loaded] at ready
    exact ⟨c, rfl, ready⟩

theorem out_of_equipped (ready : equipped s t origin = .ok t') : t'.out = t.out := by
  obtain ⟨c, -, logging⟩ := equipped_cases ready
  rcases logging_cases logging with ⟨-, rfl⟩ | ⟨directory, files, -, -, rfl⟩ <;> rfl

theorem grown_of_equipped (ready : equipped s t origin = .ok t') (unfiled : t.setup.file = none) :
    FileTree.Grown t.files t'.files := by
  obtain ⟨c, -, logging⟩ := equipped_cases ready
  have same : (t.recorded s (Config.load t.files s.env origin.config).records).files = t.files :=
    emitAll_files unfiled _ _
  rcases logging_cases logging with ⟨-, rfl⟩ | ⟨directory, files, -, prepared, rfl⟩
  · rw [same]
    exact .refl _
  · rw [same] at prepared
    exact FileTree.grown_prepare prepared

/-! ### The session -/

theorem logging_addressed (origin : Origin) (c : Config) :
    t.logging (origin.addressed c) = t.logging c := by
  have kept : (origin.addressed c).logDirectory = c.logDirectory ∧
      (origin.addressed c).level = c.level := by
    unfold Origin.addressed
    split
    · split <;> exact ⟨rfl, rfl⟩
    · exact ⟨rfl, rfl⟩
  rw [Terminal.logging, kept.1, kept.2]
  rfl

theorem course_logUnder {c : Config} (ready : t.logging c = .ok t') :
    (logUnder c).course s t = (.ok (), t') := by
  unfold logUnder
  rcases logging_cases ready with ⟨undirected, rfl⟩ | ⟨directory, files, directed, prepared, rfl⟩
  · rw [undirected]
    rfl
  · rw [directed]
    dsimp only
    rw [course_bind_ok course_get]
    unfold setUpLogging
    dsimp only
    rw [course_bind_ok course_get, prepared]
    rfl

/-- With a bundle, the address of a backend makes no difference. -/
theorem course_sessionOn (ready : equipped s t origin = .ok t')
    (given : origin.bundle = some path) :
    (sessionOn handled feature origin).course s t =
      (expect handled (Bundle.ofFile t'.files path) >>= fun b =>
        (pure { feature, gateway := .canned b } : Act Session)).course s t' := by
  obtain ⟨c, loaded, logging⟩ := equipped_cases ready
  rw [← logging_addressed origin] at logging
  unfold sessionOn
  rw [course_bind_ok course_get, course_bind_ok course_read]
  dsimp only
  rw [course_bind_ok (course_logged _), loaded, course_bind_ok (course_expect_ok _ _),
    course_bind_ok (course_logUnder logging), given]
  dsimp only
  -- The files are looked at again here: the log file is one of them by now.
  rw [course_bind_ok course_get]
  rcases Bundle.ofFile t'.files path with f | b
  · have failed : (some <$> expect handled (.error f : Except Failure Bundle)).course s t' =
        stopped handled f t' := by
      rw [map_eq_pure_bind]
      exact course_bind_stopped (course_expect_error handled f)
    rw [course_bind_stopped failed, course_bind_stopped (course_expect_error handled f)]
  · rfl

/-- The terminal after what occurred in a run has been written down. -/
def Terminal.witnessed (s : Surroundings) (trace : Trace) (t : Terminal) : Terminal :=
  Terminal.recorded s (recordsOf trace) { t with trace := t.trace ++ trace }

theorem course_performed {x : Run α} {trace : Trace} {outcome : Except Failure α}
    (ran : x s.world t.trace = ⟨trace, outcome⟩) :
    (performed x).course s t = (.ok outcome, t.witnessed s trace) := by
  have same : (performed x).course s t =
      (.ok (x s.world t.trace).outcome, t.witnessed s (x s.world t.trace).trace) := rfl
  rw [same, ran]

end

/-! ### From the words to the command -/

/-- A parameter is refused that has no equals sign or nothing in front of it. -/
def Unparted (text : String) : Prop := '=' ∉ text.toList ∨ text.toList.head? = some '='

instance (text : String) : Decidable (Unparted text) :=
  inferInstanceAs (Decidable ('=' ∉ text.toList ∨ text.toList.head? = some '='))

theorem paramOf?_eq_none_iff (text : String) : paramOf? text = none ↔ Unparted text := by
  unfold paramOf? Unparted
  rw [List.span_eq_takeWhile_dropWhile]
  generalize text.toList = cs
  cases cs with
  | nil => simp
  | cons c rest =>
    -- What stands before the sign is the key, so a sign in front leaves it empty.
    by_cases sign : c = '='
    · simp [sign]
    · have ended : rest.dropWhile (· != '=') = [] ↔ '=' ∉ rest := by
        rw [List.dropWhile_eq_nil_iff]
        exact ⟨fun all member => absurd rfl (bne_iff_ne.mp (all _ member)),
          fun unsigned x member => bne_iff_ne.mpr fun same => unsigned (same ▸ member)⟩
      rcases parted : rest.dropWhile (· != '=') with _ | ⟨d, more⟩
      · simp [sign, Ne.symm sign, parted, ended.mp parted]
      · have signed : '=' ∈ rest := by
          by_contra unsigned
          rw [ended.mpr unsigned] at parted
          cases parted
        simp [sign, parted, signed]

theorem mapM_eq_none_iff {α β : Type} {f : α → Option β} {xs : List α} :
    xs.mapM f = none ↔ ∃ x ∈ xs, f x = none := by
  induction xs with
  | nil => simp
  | cons x rest ih =>
    rw [List.mapM_cons]
    rcases first : f x with _ | y
    · simp [first]
    · rcases later : rest.mapM f with _ | ys
      · obtain ⟨a, member, failed⟩ := ih.mp later
        simp only [Option.bind_eq_bind, Option.bind_some, Option.bind_none, true_iff]
        exact ⟨a, List.mem_cons_of_mem x member, failed⟩
      · have none : ¬∃ a ∈ rest, f a = none := fun failed => by
          rw [ih.mpr failed] at later
          cases later
        simpa [first] using none

theorem params_refused_iff (texts : List String) :
    texts.mapM paramOf? = none ↔ ∃ text ∈ texts, Unparted text := by
  simp only [mapM_eq_none_iff, paramOf?_eq_none_iff]

theorem path?_of_clean {text : String} (clean : '\x00' ∉ text.toList) :
    path? (some text) = some (some (Path.ofString text)) := by
  unfold path?
  simp [clean]

/-- The words that give the parameters of a query and a bundle. -/
def paramWords (texts : List String) (path : String) : List String :=
  texts.flatMap (["--param", ·]) ++ ["--mock", path]

theorem scan_paramWords (texts : List String) (path : String) :
    scan (originOptions ++ [("--param", .valued .param), ("-p", .valued .param)]) true
      (paramWords texts path) = some (texts.map .param ++ [.bundle path], []) := by
  induction texts with
  | nil => rfl
  | cons text rest ih =>
    have step : scan (originOptions ++ [("--param", .valued .param), ("-p", .valued .param)]) true
        (paramWords (text :: rest) path) =
        (scan (originOptions ++ [("--param", .valued .param), ("-p", .valued .param)]) true
          (paramWords rest path)).map fun read => (.param text :: read.1, read.2) := rfl
    rw [step, ih]
    rfl

theorem origin?_of_params {texts : List String} {path : String} (clean : '\x00' ∉ path.toList) :
    origin? (texts.map .param ++ [.bundle path]) =
      some { bundle := some (Path.ofString path) } := by
  have none {α : Type} {get : Setting → Option α} (other : ∀ text, get (.param text) = none) :
      (texts.map Setting.param).filterMap get = [] := by
    simp [List.filterMap_map, other]
  have url : lastOf baseUrlOf (texts.map .param ++ [.bundle path]) = Option.none := by
    rw [lastOf, List.filterMap_append, none fun _ => rfl]
    rfl
  have config : lastOf configOf (texts.map .param ++ [.bundle path]) = Option.none := by
    rw [lastOf, List.filterMap_append, none fun _ => rfl]
    rfl
  have bundle : lastOf bundleOf (texts.map .param ++ [.bundle path]) = some path := by
    rw [lastOf, List.filterMap_append, none fun _ => rfl]
    rfl
  unfold origin? config?
  rw [url, config, bundle, path?_of_clean clean]
  rfl

/-- Every feature, query and parameters can be asked for, of every bundle. -/
theorem asks_query {feature id : String} (feature_dashless : feature.toList.head? ≠ some '-')
    (id_dashless : id.toList.head? ≠ some '-') (texts : List String) {path : String}
    (clean : '\x00' ∉ path.toList) :
    Asks ("query" :: feature :: id :: paramWords texts path) false none
      (.query feature id texts { bundle := some (Path.ofString path) }) := by
  refine ⟨"query", feature :: id :: paramWords texts path, rfl, ?_⟩
  show (scan (originOptions ++ [("--param", .valued .param), ("-p", .valued .param)]) true _).bind
    (fun read => make? "query" read.1 read.2) = _
  rw [scan_word feature_dashless (scan_word id_dashless (scan_paramWords texts path)),
    Option.bind_some]
  have given : (texts.map Setting.param ++ [Setting.bundle path]).filterMap paramOf = texts := by
    rw [List.filterMap_append, List.filterMap_map]
    simp [Function.comp_def, paramOf]
  show (origin? (texts.map .param ++ [.bundle path])).bind (fun origin => some (Command.query
    feature id ((texts.map Setting.param ++ [Setting.bundle path]).filterMap paramOf) origin)) = _
  rw [given, origin?_of_params clean]
  rfl

theorem asks_load {feature : String} (dashless : feature.toList.head? ≠ some '-') {path : String}
    (clean : '\x00' ∉ path.toList) :
    Asks ["load", feature, "--mock", path] false none
      (.load feature { bundle := some (Path.ofString path) }) := by
  have rest : scan originOptions true ["--mock", path] = some ([.bundle path], []) := rfl
  refine ⟨"load", [feature, "--mock", path], rfl, ?_⟩
  show (scan originOptions true _).bind (fun read => make? "load" read.1 read.2) = _
  rw [scan_word dashless rest, Option.bind_some]
  show (origin? [.bundle path]).bind (fun origin => some (Command.load feature origin)) = _
  have origin : origin? ([].map .param ++ [.bundle path]) =
      some { bundle := some (Path.ofString path) } := origin?_of_params clean
  rw [List.map_nil, List.nil_append] at origin
  rw [origin]
  rfl

end FeatureSpec.Command
