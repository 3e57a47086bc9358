import FeatureSpec.Proofs.CommandCourse
import FeatureSpec.Proofs.FeaturePaths
import FeatureSpec.Proofs.IntegerWords
import FeatureSpec.Proofs.LegibleFeature
import FeatureSpec.Proofs.PrintableJson
import FeatureSpec.Proofs.RoundTrip
/-!
What `compile` and `check` report of a compilation. The definition that is printed reads back as the
one that was compiled, however it is indented, and it does not matter whether a feature is given by
its name or by the path of its file.
-/
namespace FeatureSpec.Command

open Act Payload

/-! ### From the words to the command -/

/-- The command that a command line asks for, and what its general options are. -/
def Asks (args : List String) (verbose : Bool) (directory : Option Path) (c : Command) : Prop :=
  ∃ name words, opening args = .command verbose directory name words ∧
    ofWords? name words = some c

/-- The terminal once logging is set up. -/
def begun (verbose : Bool) (directory : Option Path) (files : FileTree) : Except Failure Terminal :=
  let setup := Log.Setup.make (if verbose then Log.debug else Log.warning) directory
  (setup.prepare directory files).map fun files => { files, setup }

/-- How a command line ends whose actions took this course. -/
def Outcome.ofCourse : Except Stop Unit × Terminal → Outcome
  | (.ok _, terminal) => { code := 0, terminal }
  | (.error (.exit code), terminal) => { code, terminal }
  | (.error (.crash f), terminal) => { code := 1, crash := some f, terminal }

section

variable {s : Surroundings} {files : FileTree} {args : List String} {verbose : Bool}
  {directory : Option Path} {t : Terminal} {c : Command}

theorem run_eq : run s files args = .ofCourse ((perform args).course s { files }) := by
  unfold run
  have same : ((perform args).run s).run.run { files } = (perform args).course s { files } := rfl
  rw [same]
  rcases (perform args).course s { files } with ⟨(_ | _) | _, _⟩ <;> rfl

theorem course_setUpLogging (ready : begun verbose directory files = .ok t) :
    (setUpLogging (if verbose then Log.debug else Log.warning) directory).course s { files } =
      (.ok (), t) := by
  unfold begun at ready
  dsimp only at ready
  unfold setUpLogging
  dsimp only
  rw [course_bind_ok course_get]
  cases prepared : (Log.Setup.make (if verbose then Log.debug else Log.warning) directory).prepare
      directory files with
  | error f =>
    rw [prepared] at ready
    cases ready
  | ok made =>
    rw [prepared] at ready
    cases ready
    rfl

theorem run_of_asks (asks : Asks args verbose directory c)
    (ready : begun verbose directory files = .ok t) :
    run s files args = .ofCourse ((execute c).course s t) := by
  obtain ⟨name, words, opened, given⟩ := asks
  rw [run_eq, perform, opened]
  dsimp only
  rw [course_bind_ok (course_setUpLogging ready), given]

end

theorem scan_word {σ : Type} {known : Spellings σ} {word : String} {rest words : List String}
    {given : List σ} (dashless : word.toList.head? ≠ some '-')
    (h : scan known true rest = some (given, words)) :
    scan known true (word :: rest) = some (given, word :: words) := by
  have other : word ≠ "--" := by
    rintro rfl
    exact dashless rfl
  have piece : pieceOf known word = .word := by
    unfold pieceOf
    split
    · rename_i same
      rw [same] at dashless
      exact absurd rfl dashless
    · rename_i same
      rw [same] at dashless
      exact absurd rfl dashless
    · rfl
  rw [scan, if_neg other, piece]
  simp [h]

theorem length_intChars_le {n : Int} (range : -(2 ^ 63) ≤ n ∧ n < 2 ^ 63) :
    (Json.intChars n).length ≤ 21 := by
  have digits : (Nat.toDigits 10 n.natAbs).length ≤ 20 :=
    (Nat.length_toDigits_le_iff (by decide) (by decide)).mpr (by omega)
  unfold Json.intChars
  split
  · exact Nat.succ_le_succ digits
  · exact Nat.le_succ_of_le digits

/-- Every indentation that a machine word can hold can be asked for. -/
theorem asks_of_indentation {name : String} (dashless : name.toList.head? ≠ some '-') {n : Int}
    (range : -(2 ^ 63) ≤ n ∧ n < 2 ^ 63) :
    Asks ["compile", name, "--indent", String.ofList (Json.intChars n)] false none
      (.compile { name } n) := by
  have read := Number.IntegerText.read_intChars
    (Nat.le_trans (length_intChars_le range) (by decide))
  have rest : scan (targetOptions ++ [("--indent", .valued .indent)]) true
      ["--indent", String.ofList (Json.intChars n)] =
      some ([.indent (String.ofList (Json.intChars n))], []) := rfl
  have indented : indentation? [.indent (String.ofList (Json.intChars n))] = some n := by
    show (Number.IntegerText.read (String.ofList (Json.intChars n))).toOption = some n
    rw [read]
    rfl
  refine ⟨"compile", [name, "--indent", String.ofList (Json.intChars n)], rfl, ?_⟩
  show (scan (targetOptions ++ [("--indent", .valued .indent)]) true _).bind
    (fun read => make? "compile" read.1 read.2) = _
  rw [scan_word dashless rest, Option.bind_some]
  show (target? [.indent (String.ofList (Json.intChars n))] name).bind (fun target =>
    (indentation? [.indent (String.ofList (Json.intChars n))]).bind fun indent =>
      some (Command.compile target indent)) = _
  rw [indented]
  rfl

/-! ### The course of a compilation -/

section

variable {s : Surroundings} {t : Terminal} {target : Target}

theorem course_of_returned {f : Feature} (h : compilation s t target = some (.ok f)) :
    ∃ t', (compiled target).course s t = (.ok f, t') ∧ t'.out = t.out := by
  unfold compilation at h
  split at h
  · cases h
  rename_i c loaded
  obtain ⟨x, found, returned⟩ := Option.map_eq_some_iff.mp h
  refine ⟨(configured s t target).recorded s x.records, ?_, rfl⟩
  rw [course_compiled_of_source loaded found, course_expect_logged_ok returned]

theorem course_of_failed {f : Failure} (h : compilation s t target = some (.error f)) :
    ∃ t', (compiled target).course s t = stopped Failure.isOwn f t' ∧ t'.out = t.out := by
  unfold compilation at h
  split at h
  · rename_i g failed
    cases h
    exact ⟨_, course_compiled_of_failed failed, rfl⟩
  · rename_i c loaded
    obtain ⟨x, found, failed⟩ := Option.map_eq_some_iff.mp h
    refine ⟨(configured s t target).recorded s x.records, ?_, rfl⟩
    rw [course_compiled_of_source loaded found, course_expect_logged_error failed]

theorem course_of_missing (h : compilation s t target = none) :
    ∃ t', (compiled target).course s t = (.error (.exit 1), t') ∧ t'.out = t.out := by
  unfold compilation at h
  split at h
  · cases h
  rename_i c loaded
  have missing := Option.map_eq_none_iff.mp h
  exact ⟨_, course_compiled_of_missing loaded missing, rfl⟩

/-- Whatever a target compiles to can be printed and read again. -/
theorem writes_of_returned {f : Feature} (h : compilation s t target = some (.ok f)) :
    WritesLegibly Feature.codec f := by
  have file {t : FileTree} {strict : Bool} {path : Path}
      (returned : (SpecDirectory.compileFile t strict path).outcome = .ok f) :
      WritesLegibly Feature.codec f := by
    obtain ⟨os, -, returned⟩ := Logged.ok_of_bind returned
    exact Compile.writes_of_compileOctets returned
  unfold compilation at h
  split at h
  · cases h
  obtain ⟨x, found, returned⟩ := Option.map_eq_some_iff.mp h
  unfold sourceOf at found
  dsimp only at found
  split at found
  · split at found
    · rw [← Option.some.inj found] at returned
      exact file returned
    · cases found
  · rw [← Option.some.inj found] at returned
    unfold SpecDirectory.load at returned
    dsimp only at returned
    split at returned
    · obtain ⟨-, -, returned⟩ := Logged.ok_of_bind returned
      exact file returned
    · cases returned

end

/-! ### The reports -/

def printed (indent : Int) (f : Feature) : Act Unit := do
  let style ← expect (fun _ => false) (styleOf indent)
  say (Json.write style (Feature.codec.encode f))

theorem execute_compile (target : Target) (indent : Int) :
    execute (.compile target indent) = (compiled target >>= printed indent) := rfl

theorem execute_check (target : Target) :
    execute (.check target) = (compiled target >>= checkFeature) := rfl

section

variable {s : Surroundings} {t : Terminal} {target : Target} {k : Feature → Act Unit}

theorem outcome_of_failed {f : Failure} (h : compilation s t target = some (.error f))
    (own : f.isOwn = true) :
    let o := Outcome.ofCourse ((compiled target >>= k).course s t)
    o.code = 1 ∧ o.crash = none ∧ o.terminal.out = t.out := by
  obtain ⟨t', course, out⟩ := course_of_failed h
  have reported : (stopped Failure.isOwn f t' : Except Stop Unit × Terminal) =
      (.error (.exit 1), t'.complained s!"Error: {f.message}") := if_pos own
  dsimp only
  rw [course_bind_stopped course, reported]
  exact ⟨rfl, rfl, out⟩

theorem outcome_of_missing (h : compilation s t target = none) :
    let o := Outcome.ofCourse ((compiled target >>= k).course s t)
    o.code = 1 ∧ o.crash = none ∧ o.terminal.out = t.out := by
  obtain ⟨t', course, out⟩ := course_of_missing h
  dsimp only
  rw [course_bind_stop course]
  exact ⟨rfl, rfl, out⟩

theorem outcome_of_printed {f : Feature} {indent : Int} {style : Json.Style}
    (h : compilation s t target = some (.ok f)) (styled : styleOf indent = .ok style) :
    let o := Outcome.ofCourse ((execute (.compile target indent)).course s t)
    o.code = 0 ∧ o.crash = none ∧
      o.terminal.out = t.out ++ Json.write style (Feature.codec.encode f) ++ "\n" := by
  obtain ⟨t', course, out⟩ := course_of_returned h
  dsimp only
  rw [execute_compile, course_bind_ok course, printed, styled,
    course_bind_ok (course_expect_ok _ style), course_say]
  refine ⟨rfl, rfl, ?_⟩
  show t'.out ++ Text.withoutEscapes (Json.write style (Feature.codec.encode f)) ++ "\n" = _
  rw [out, Json.withoutEscapes_write]

theorem course_complaints {α : Type} (line : α → String) (items : List α) (t : Terminal) :
    ∃ t', (forIn items PUnit.unit fun a _ => do
      complain (line a)
      pure (ForInStep.yield PUnit.unit) : Act PUnit).course s t = (.ok PUnit.unit, t') := by
  induction items generalizing t with
  | nil => exact ⟨t, rfl⟩
  | cons a rest ih =>
    have line : (do
        complain (line a)
        pure (ForInStep.yield PUnit.unit) : Act (ForInStep PUnit)).course s t =
          (.ok (.yield PUnit.unit), t.complained (line a)) := rfl
    rw [List.forIn_cons, course_bind_ok line]
    exact ih (t.complained _)

theorem outcome_of_checked (f : Feature) (t : Terminal) :
    let o := Outcome.ofCourse ((checkFeature f).course s t)
    o.crash = none ∧ o.code = if f.problems = [] then 0 else 1 := by
  dsimp only
  unfold checkFeature
  split
  · rename_i sound
    rw [if_pos (List.isEmpty_iff.mp sound)]
    exact ⟨rfl, rfl⟩
  · rename_i faulty
    obtain ⟨t', listed⟩ := course_complaints (s := s) (fun p : Problem => s!"  - {p.message}")
      f.problems t
    rw [if_neg (by simpa using faulty), course_bind_ok listed]
    exact ⟨rfl, rfl⟩

end

/-! ### Names and paths -/

def loaderRecord (name : String) (path : Path) : Log.Record :=
  Log.note Log.debug .loader s!"Loading feature {name} from {path.text}"

/-- The target with the path of the file that its name stands for. -/
def Target.located (c : Config) (target : Target) : Target :=
  { target with name := (SpecDirectory.filePath c.specDirectory target.name).text }

section

variable {s : Surroundings} {t : Terminal} {target : Target} {c : Config} {files : FileTree}

theorem isPath_of_name (plain : ∀ x ∈ target.name.toList, x ≠ '/' ∧ x ≠ '\\')
    (suffixless : (Text.lower target.name).endsWith SpecDirectory.suffix = false) :
    isPath target.name = false := by
  rw [isPath, suffixless, Bool.false_or]
  refine List.any_eq_false.mpr fun x member => ?_
  obtain ⟨slash, backslash⟩ := plain x member
  simp [slash, backslash]

/-- A name and the path of its file lead to one compilation; by its name the loader comes first. -/
theorem sourceOf_located (canonical : c.specDirectory.Canonical)
    (slashless : '/' ∉ target.name.toList) (named : isPath target.name = false)
    (present : files.isFile (SpecDirectory.filePath c.specDirectory target.name) = true) :
    ∃ x, sourceOf c files (target.located c) = some x ∧
      sourceOf c files target = some
        ⟨loaderRecord target.name (SpecDirectory.filePath c.specDirectory target.name) :: x.records,
          x.outcome⟩ := by
  have back : Path.ofString (SpecDirectory.filePath c.specDirectory target.name).text =
      SpecDirectory.filePath c.specDirectory target.name :=
    Path.ofString_text (SpecDirectory.canonical_filePath canonical)
  have taken : isPath (SpecDirectory.filePath c.specDirectory target.name).text = true :=
    SpecDirectory.isPath_filePath slashless
  refine ⟨SpecDirectory.compileFile files (target.strict.getD c.strict)
    (SpecDirectory.filePath c.specDirectory target.name), ?_, ?_⟩
  · simp only [sourceOf, Target.located, taken, back, present, if_true]
  · simp only [sourceOf, named, Bool.false_eq_true, if_false, SpecDirectory.load, present, if_true]
    rfl

end

/-- Terminals that show the same, but for a line on the error stream of the first. -/
structure Alike (line : String) (t t' : Terminal) : Prop where
  out : t.out = t'.out
  err : ∃ before after, t.err = before ++ line ++ after ∧ t'.err = before ++ after

/-- An action that goes on in the same way on terminals that are alike. -/
def Respects {α : Type} (s : Surroundings) (line : String) (act : Act α) : Prop :=
  ∀ t t', Alike line t t' →
    (act.course s t).1 = (act.course s t').1 ∧ Alike line (act.course s t).2 (act.course s t').2

section

variable {α β : Type} {s : Surroundings} {line : String}

theorem respects_pure (a : α) : Respects s line (pure a) := fun _ _ alike => ⟨rfl, alike⟩

theorem respects_exit (code : Nat) : Respects s line (exit code : Act α) :=
  fun _ _ alike => ⟨rfl, alike⟩

theorem respects_crash (f : Failure) : Respects s line (crash f : Act α) :=
  fun _ _ alike => ⟨rfl, alike⟩

theorem respects_say (text : String) : Respects s line (say text) := by
  intro t t' alike
  rw [course_say, course_say]
  exact ⟨rfl, by simp only [Terminal.said, alike.out], alike.err⟩

theorem respects_complain (text : String) : Respects s line (complain text) := by
  intro t t' alike
  obtain ⟨before, after, err, err'⟩ := alike.err
  rw [course_complain, course_complain]
  refine ⟨rfl, alike.out, before, after ++ Text.withoutEscapes text ++ "\n", ?_, ?_⟩
  · simp only [Terminal.complained, err, String.append_assoc]
  · simp only [Terminal.complained, err', String.append_assoc]

theorem respects_bind {x : Act α} {f : α → Act β} (first : Respects s line x)
    (rest : ∀ a, Respects s line (f a)) : Respects s line (x >>= f) := by
  intro t t' alike
  obtain ⟨same, alike⟩ := first t t' alike
  rw [course_bind, course_bind]
  rcases ended : x.course s t with ⟨result, left⟩
  rcases ended' : x.course s t' with ⟨result', left'⟩
  rw [ended, ended'] at same alike
  obtain rfl : result = result' := same
  cases result with
  | ok a => exact rest a left left' alike
  | error e => exact ⟨rfl, alike⟩

/-- Whoever only talks goes on in the same way. -/
theorem respects_of_talks {act : Act α} (talks : Talks act) : Respects s line act := by
  induction talks with
  | pure a => exact respects_pure a
  | say text => exact respects_say text
  | complain text => exact respects_complain text
  | exit code => exact respects_exit code
  | crash f => exact respects_crash f
  | bind _ _ first rest => exact respects_bind first rest

theorem talks_printed (indent : Int) (f : Feature) : Talks (printed indent f) :=
  .bind (talks_expect _ _) fun _ => .say _

theorem talks_checkFeature (f : Feature) : Talks (checkFeature f) := by
  unfold checkFeature
  split
  · exact .say _
  · exact .bind (talks_forIn fun p => .complain _) fun _ => .bind (.complain _) fun _ => .exit 1

end

/-- Two ends of a command line that are the same, but for a line on the error stream of the
first. -/
structure SameReport (line : String) (o o' : Outcome) : Prop where
  code : o.code = o'.code
  crash : o.crash = o'.crash
  terminal : Alike line o.terminal o'.terminal

theorem sameReport_ofCourse {line : String} {x x' : Except Stop Unit × Terminal}
    (same : x.1 = x'.1) (alike : Alike line x.2 x'.2) :
    SameReport line (.ofCourse x) (.ofCourse x') := by
  obtain ⟨result, t⟩ := x
  obtain ⟨result', t'⟩ := x'
  obtain rfl : result = result' := same
  rcases result with (_ | _) | _
  all_goals exact ⟨rfl, rfl, alike⟩

def loaderLine (s : Surroundings) (verbose : Bool) (name : String) (path : Path) : String :=
  if verbose then
    ((loaderRecord name path).entry s.stamp).consoleLine ++ "\n"
  else ""

section

variable {s : Surroundings} {t : Terminal} {target : Target} {c : Config}
  {k : Feature → Act Unit}

/-- Whether a feature is given by its name or by the path of its file, a command on the compiled
feature takes the same course. -/
theorem course_located (talks : ∀ f, Talks (k f))
    (loaded : (configuration s t target).outcome = .ok c)
    (plain : ∀ x ∈ target.name.toList, x ≠ '/' ∧ x ≠ '\\')
    (suffixless : (Text.lower target.name).endsWith SpecDirectory.suffix = false)
    (present : (configured s t target).files.isFile
      (SpecDirectory.filePath c.specDirectory target.name) = true) :
    let r := loaderRecord target.name (SpecDirectory.filePath c.specDirectory target.name)
    let named := (compiled target >>= k).course s t
    let located := (compiled (target.located c) >>= k).course s t
    (named.1 = located.1 ∧ Alike (t.shownOf s r) named.2 located.2) ∧
      (t.setup.admits Log.debug = false → named = located) := by
  intro r named located
  have slashless : '/' ∉ target.name.toList := fun member => (plain _ member).1 rfl
  obtain ⟨x, atPath, byName⟩ := sourceOf_located (Config.canonical_load loaded) slashless
    (isPath_of_name plain suffixless) present
  have loaded' : (configuration s t (target.located c)).outcome = .ok c := loaded
  let before := (configured s t target).recorded s (r :: x.records)
  let before' := (configured s t target).recorded s x.records
  have course : named = (expect Failure.isOwn x.outcome >>= k).course s before := by
    refine course_bind_congr k ?_
    rw [course_compiled_of_source loaded byName, course_bind_ok (course_logged _)]
  have course' : located = (expect Failure.isOwn x.outcome >>= k).course s before' := by
    refine course_bind_congr k ?_
    rw [course_compiled_of_source loaded' atPath, course_bind_ok (course_logged _)]
    rfl
  have alike : Alike (t.shownOf s r) before before' := by
    obtain ⟨more, err, err'⟩ :=
      Terminal.recorded_cons_err s (configured s t target) r x.records
    exact ⟨rfl, (configured s t target).err, more, err, err'⟩
  constructor
  · rw [course, course']
    exact respects_of_talks (.bind (talks_expect _ _) talks) before before' alike
  · intro quiet
    have same : before = before' := Terminal.recorded_cons_of_refused quiet
    rw [course, course', same]

end

/-- What `compile` reports of a compilation: the definition as one JSON text and a line break, or
nothing on the output. -/
def ReportsDefinition (compilation : Option (Except Failure Feature)) (o : Outcome) : Prop :=
  match compilation with
  | some (.ok d) => o.code = 0 ∧ o.crash = none ∧ ∃ text j, o.terminal.out = text ++ "\n" ∧
      Json.read text = .ok j ∧ Feature.codec.decode j = .ok d
  | some (.error f) => f.isOwn = true → o.code = 1 ∧ o.crash = none ∧ o.terminal.out = ""
  | none => o.code = 1 ∧ o.crash = none ∧ o.terminal.out = ""

def ReportsCheck (compilation : Option (Except Failure Feature)) (o : Outcome) : Prop :=
  match compilation with
  | some (.ok d) => o.crash = none ∧ o.code = if d.problems = [] then 0 else 1
  | some (.error f) => f.isOwn = true → o.code = 1 ∧ o.crash = none
  | none => o.code = 1 ∧ o.crash = none

section

variable {s : Surroundings} {files : FileTree} {args : List String} {verbose : Bool}
  {directory : Option Path} {t : Terminal} {target : Target}

theorem terminal_of_begun (ready : begun verbose directory files = .ok t) :
    t.out = "" ∧ t.setup.level = if verbose then Log.debug else Log.warning := by
  unfold begun at ready
  dsimp only at ready
  cases prepared : (Log.Setup.make (if verbose then Log.debug else Log.warning) directory).prepare
      directory files with
  | error f =>
    rw [prepared] at ready
    cases ready
  | ok made =>
    rw [prepared] at ready
    cases ready
    exact ⟨rfl, rfl⟩

theorem admits_debug (ready : begun verbose directory files = .ok t) :
    t.setup.admits Log.debug = verbose := by
  obtain ⟨-, level⟩ := terminal_of_begun ready
  rw [Log.Setup.admits, level]
  cases verbose <;> decide

theorem styleOf_of_range {indent : Int} (range : -(2 ^ 63) ≤ indent ∧ indent < 2 ^ 63) :
    ∃ style, styleOf indent = .ok style :=
  ⟨_, if_pos range⟩

theorem reportsDefinition {indent : Int}
    (asks : Asks args verbose directory (.compile target indent))
    (ready : begun verbose directory files = .ok t)
    (range : -(2 ^ 63) ≤ indent ∧ indent < 2 ^ 63) :
    ReportsDefinition (compilation s t target) (run s files args) := by
  obtain ⟨empty, -⟩ := terminal_of_begun ready
  rw [run_of_asks asks ready]
  unfold ReportsDefinition
  split
  case h_1 d returned =>
    obtain ⟨style, styled⟩ := styleOf_of_range range
    obtain ⟨code, crash, out⟩ := outcome_of_printed returned styled
    rw [empty, String.empty_append] at out
    exact ⟨code, crash, Json.write style (Feature.codec.encode d), Feature.codec.encode d, out,
      Json.read_write style (writes_of_returned returned), feature_restores d⟩
  case h_2 f failed =>
    intro own
    have ended := outcome_of_failed (k := printed indent) failed own
    rwa [empty] at ended
  case h_3 missing =>
    have ended := outcome_of_missing (k := printed indent) missing
    rwa [empty] at ended

theorem reportsCheck (asks : Asks args verbose directory (.check target))
    (ready : begun verbose directory files = .ok t) :
    ReportsCheck (compilation s t target) (run s files args) := by
  rw [run_of_asks asks ready]
  unfold ReportsCheck
  split
  case h_1 d returned =>
    obtain ⟨t', course, -⟩ := course_of_returned returned
    rw [execute_check, course_bind_ok course]
    exact outcome_of_checked d t'
  case h_2 f failed =>
    intro own
    obtain ⟨code, crash, -⟩ := outcome_of_failed (k := checkFeature) failed own
    exact ⟨code, crash⟩
  case h_3 missing =>
    obtain ⟨code, crash, -⟩ := outcome_of_missing (k := checkFeature) missing
    exact ⟨code, crash⟩

def OnCompiled (command : Target → Command) : Prop :=
  command = .check ∨ ∃ indent, command = fun target => .compile target indent

theorem execute_onCompiled {command : Target → Command} (on : OnCompiled command) :
    ∃ k : Feature → Act Unit, (∀ target, execute (command target) = (compiled target >>= k)) ∧
      ∀ f, Talks (k f) := by
  rcases on with rfl | ⟨indent, rfl⟩
  · exact ⟨checkFeature, execute_check, talks_checkFeature⟩
  · exact ⟨printed indent, fun target => execute_compile target indent, talks_printed indent⟩

theorem reports_located {c : Config} {command : Target → Command} {args' : List String}
    (ready : begun verbose directory files = .ok t)
    (loaded : (configuration s t target).outcome = .ok c)
    (plain : ∀ x ∈ target.name.toList, x ≠ '/' ∧ x ≠ '\\')
    (suffixless : (Text.lower target.name).endsWith SpecDirectory.suffix = false)
    (present : (configured s t target).files.isFile
      (SpecDirectory.filePath c.specDirectory target.name) = true)
    (on : OnCompiled command) (asks : Asks args verbose directory (command target))
    (asks' : Asks args' verbose directory (command (target.located c))) :
    SameReport (loaderLine s verbose target.name
        (SpecDirectory.filePath c.specDirectory target.name))
        (run s files args) (run s files args') ∧
      (verbose = false → run s files args = run s files args') := by
  have shown : t.setup.admits Log.debug = verbose := admits_debug ready
  obtain ⟨k, executed, talks⟩ := execute_onCompiled on
  obtain ⟨⟨same, alike⟩, equal⟩ := course_located talks loaded plain suffixless present
  have line : t.shownOf s (loaderRecord target.name
      (SpecDirectory.filePath c.specDirectory target.name)) =
      loaderLine s verbose target.name (SpecDirectory.filePath c.specDirectory target.name) := by
    show (if t.setup.admits Log.debug then _ else _) = _
    rw [shown]
    rfl
  rw [run_of_asks asks ready, run_of_asks asks' ready, executed, executed]
  constructor
  · rw [← line]
    exact sameReport_ofCourse same alike
  · rintro rfl
    rw [equal shown]

end

/-- What `compile` and `check` report is what the compilation comes to, for every indentation that
a machine word can hold. A name and the path of its file lead to the same report, but for a line of
the loader on the error stream where everything is shown. -/
theorem compile_and_check_report (s : Surroundings) (files : FileTree) (verbose : Bool)
    (directory : Option Path) (t : Terminal) (ready : begun verbose directory files = .ok t)
    (target : Target) :
    (∀ name : String, name.toList.head? ≠ some '-' →
      ∀ indent : Int, -(2 ^ 63) ≤ indent ∧ indent < 2 ^ 63 →
      Asks ["compile", name, "--indent", String.ofList (Json.intChars indent)] false none
        (.compile { name } indent)) ∧
    (∀ args indent, Asks args verbose directory (.compile target indent) →
      -(2 ^ 63) ≤ indent ∧ indent < 2 ^ 63 →
      ReportsDefinition (compilation s t target) (run s files args)) ∧
    (∀ args, Asks args verbose directory (.check target) →
      ReportsCheck (compilation s t target) (run s files args)) ∧
    ∀ c, (configuration s t target).outcome = .ok c →
      (∀ x ∈ target.name.toList, x ≠ '/' ∧ x ≠ '\\') →
      (Text.lower target.name).endsWith SpecDirectory.suffix = false →
      (configured s t target).files.isFile
        (SpecDirectory.filePath c.specDirectory target.name) = true →
      ∀ command, OnCompiled command →
      ∀ args, Asks args verbose directory (command target) →
      ∀ args', Asks args' verbose directory (command (target.located c)) →
      SameReport (loaderLine s verbose target.name
          (SpecDirectory.filePath c.specDirectory target.name))
          (run s files args) (run s files args') ∧
        (verbose = false → run s files args = run s files args') := by
  refine ⟨?asked, ?compile, ?check, ?located⟩
  case asked => exact fun name dashless indent range => asks_of_indentation dashless range
  case compile => exact fun args indent asks range => reportsDefinition asks ready range
  case check => exact fun args asks => reportsCheck asks ready
  case located =>
    intro c loaded plain suffixless present command on args asks args' asks'
    exact reports_located ready loaded plain suffixless present on asks asks'

def shelf : FileTree where
  files := [(["specs", "xfeature", "f.xml"], Octets.ofString "<Feature Name=\"F\"/>")]

/-- A query with a parameter, which a table refers to, a form that refers to nothing that there is,
and a mapping for its field. -/
def stocked : FileTree where
  files := [(["specs", "xfeature", "f.xml"], Octets.ofString <|
    "<Feature Name=\"F\"><Backend><Query Id=\"q\">:a</Query></Backend><Frontend>" ++
      "<DataTable Id=\"t\" QueryRef=\"q\"/><Form Id=\"g\" QueryRef=\"z\"><Field Name=\"a\"/></Form>" ++
      "</Frontend><Mapping Name=\"a\" Label=\"A\"/></Feature>")]

def stockedFeature : Feature where
  name := "F"
  backend := { queries := [{ id := "q", sql := ":a", parameters := [{ name := "a" }] }] }
  frontend :=
    { dataTables := [{ id := "t", queryRef := "q" }]
      forms := [{ id := "g", queryRef := some "z", fields := [{ name := "a" }] }] }
  mappings := [{ name := "a", label := "A" }]

/-- No variables are set, and no backend answers. -/
def alone : Surroundings where
  env := []
  world := { transport := fun _ _ => .failed "" }
  stamp := .nowhere

/-- A feature by its name and by its path, three spaces for each level. -/
theorem shelf_reports :
    ReportsDefinition (some (.ok stockedFeature))
      (run alone stocked ["compile", "f", "--indent", "3"]) ∧
    ReportsCheck (some (.ok stockedFeature)) (run alone stocked ["check", "f"]) ∧
    run alone stocked ["compile", "f", "--indent", "3"] =
      run alone stocked ["compile", "specs/xfeature/f.xml", "--indent", "3"] := by
  have ready : begun false none stocked = .ok { files := stocked } := rfl
  have came : compilation alone { files := stocked } { name := "f" } =
      some (.ok stockedFeature) := by
    decide +kernel
  have loaded : (configuration alone { files := stocked } { name := "f" }).outcome = .ok {} := by
    with_unfolding_all rfl
  have path : Target.located {} { name := "f" } = { name := "specs/xfeature/f.xml" } := by
    with_unfolding_all rfl
  have asks : Asks ["compile", "f", "--indent", "3"] false none (.compile { name := "f" } 3) := by
    refine ⟨"compile", ["f", "--indent", "3"], ?_, ?_⟩
    all_goals with_unfolding_all rfl
  have asksCheck : Asks ["check", "f"] false none (.check { name := "f" }) := by
    refine ⟨"check", ["f"], ?_, ?_⟩
    all_goals with_unfolding_all rfl
  have asks' : Asks ["compile", "specs/xfeature/f.xml", "--indent", "3"] false none
      (.compile { name := "specs/xfeature/f.xml" } 3) := by
    refine ⟨"compile", ["specs/xfeature/f.xml", "--indent", "3"], ?_, ?_⟩
    all_goals with_unfolding_all rfl
  obtain ⟨-, definition, check, located⟩ :=
    compile_and_check_report alone stocked false none { files := stocked } ready { name := "f" }
  rw [came] at definition check
  refine ⟨definition _ 3 asks (by decide), check _ asksCheck, ?_⟩
  have plain : ∀ x ∈ "f".toList, x ≠ '/' ∧ x ≠ '\\' := by
    intro x member
    obtain rfl : x = 'f' := List.mem_singleton.mp member
    decide
  have suffixless : (Text.lower "f").endsWith SpecDirectory.suffix = false := by
    with_unfolding_all rfl
  have present : stocked.isFile
      (SpecDirectory.filePath ({} : Config).specDirectory "f") = true := by
    with_unfolding_all rfl
  have same := located {} loaded plain suffixless present
    (fun target => .compile target 3) (.inr ⟨3, rfl⟩) _ asks _ (path ▸ asks')
  exact same.2 rfl

/-- An indentation beyond machine words ends in a failure although the feature compiles, and where
everything is shown the name of a feature leaves more on the error stream than its path does. -/
theorem oversized_indentation_crashes :
    compilation alone { files := shelf } { name := "f" } = some (.ok { name := "F" }) ∧
    (run alone shelf ["compile", "f", "--indent", "9223372036854775808"]).crash =
      some .overflow ∧
    (run alone shelf ["-v", "compile", "f"]).terminal.err ≠
      (run alone shelf ["-v", "compile", "specs/xfeature/f.xml"]).terminal.err := by
  refine ⟨by with_unfolding_all rfl, by with_unfolding_all rfl, ?_⟩
  decide +kernel

end FeatureSpec.Command
