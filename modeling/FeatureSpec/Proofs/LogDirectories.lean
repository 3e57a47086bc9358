import FeatureSpec.Proofs.CommandRecords
/-!
Where the records of a command end up when the program was given a log directory. Its log file takes
all records, unless a session is asked for under a configuration with a log directory of its own:
then what is logged from there on goes to the log file in that directory, and to no other.
-/
namespace FeatureSpec

namespace Log

def logPath (directory : Path) : Path := directory.join { parts := [LogFile.name] }

namespace Setup

/-- Lines after which the log file of a setup, if it has one, is still below its size. -/
def Unfilled (s : Setup) (t : FileTree) (lines : List String) : Prop :=
  ∀ f, s.file = some f → ¬f.Fills (f.content t ++ lines.flatMap lineOctets).length

theorem filed_make (level : Level) (directory : Path) :
    ∃ f, (make level (some directory)).file = some f ∧ f.path = logPath directory ∧
      f.maxOctets = 5242880 :=
  ⟨_, rfl, congrArg directory.join LogFile.ofString_name, rfl⟩

theorem unfilled_of_read {level : Level} {directory : Path} {t : FileTree} {old : Octets}
    {lines : List String} (here : t.read (logPath directory) = .ok old)
    (short : (old ++ lines.flatMap lineOctets).length < 5242880) :
    (make level (some directory)).Unfilled t lines := by
  obtain ⟨g, made, path, size⟩ := filed_make level directory
  rintro f filed ⟨-, full⟩
  obtain rfl : g = f := Option.some.inj (made.symm.trans filed)
  rw [← path] at here
  obtain ⟨parts, standing⟩ := LogFile.standing_of_read here
  rw [LogFile.content_of_standing standing, size] at full
  omega

theorem openIn_of_prepare {s : Setup} {f : LogFile} {directory : Path} {t u : FileTree}
    (filed : s.file = some f) (prepared : s.prepare (some directory) t = .ok u) :
    f.openIn directory t = .ok u := by
  unfold prepare at prepared
  rw [filed] at prepared
  exact prepared

theorem admits_of_lower {s s' : Setup} (lower : s'.level ≤ s.level) (some : s'.level ≠ 0)
    (some' : s.level ≠ 0) {level : Level} (heard : s.admits level = true) :
    s'.admits level = true := by
  simp only [admits, if_neg some, if_neg some', decide_eq_true_eq] at heard ⊢
  exact ⟨heard.1, Int.le_trans lower heard.2⟩

end Setup

/-- What two log files hold in the end when lines go to the second one: the first one has them too
if both are the same file, and is left as it was otherwise. -/
structure Redirected (t u : FileTree) (directory moved : Path) (held : Octets)
    (lines : List String) : Prop where
  shared : t.place (logPath moved) = t.place (logPath directory) →
    u.read (logPath directory) = .ok (held ++ lines.flatMap lineOctets)
  apart : t.place (logPath moved) ≠ t.place (logPath directory) →
    u.read (logPath directory) = .ok held
  received : ∀ kept, t.read (logPath moved) = .ok kept →
    u.read (logPath moved) = .ok (kept ++ lines.flatMap lineOctets)

end Log

namespace Command

open Act Log

/-- The log directory that takes the place of the one given to the program, and the level that comes
with it. -/
def redirection (s : Surroundings) (t : Terminal) (c : Command) : Option (Level × Path) := do
  let origin ← c.sessionOrigin?
  let config ← (Config.load t.files s.env origin.config).outcome.toOption
  let _ ← (equipped s t origin).toOption
  let directory ← config.logDirectory
  return (config.level, directory)

section

variable {s : Surroundings} {t : Terminal} {c : Command} {files : FileTree} {args : List String}
  {verbose : Bool} {directory : Path}

theorem plainRecords_of_session {origin : Origin} (asked : c.sessionOrigin? = some origin) :
    plainRecords s t c = recordsOfConfig s t origin.config := by
  cases c with
  | load feature given =>
    cases asked
    rfl
  | query feature id texts given =>
    dsimp only [sessionOrigin?] at asked
    dsimp only [plainRecords]
    cases read : texts.mapM paramOf? with
    | none =>
      rw [read] at asked
      cases asked
    | some params =>
      rw [read] at asked
      cases asked
      rw [if_neg (by simp)]
  | _ => cases asked

/-- Without a redirection a session finds the setup of the program; with one, that of the
configuration, at the lower one of the two levels. -/
theorem settled_cases (s : Surroundings) (t : Terminal) (c : Command) :
    let before := t.recorded s (plainRecords s t c)
    redirection s t c = none ∧ settled s t c = before ∨
      ∃ level moved files, redirection s t c = some (level, moved) ∧ level ∈ namedLevels ∧
        let setup := Setup.make (min t.setup.level level) (some moved)
        setup.prepare (some moved) before.files = .ok files ∧
        settled s t c = { before with setup, files } := by
  dsimp only
  unfold settled redirection
  rcases asked : c.sessionOrigin? with _ | origin
  · exact .inl ⟨rfl, rfl⟩
  rw [plainRecords_of_session asked]
  simp only [Option.bind_eq_bind, Option.bind_some, sessionStart]
  -- Without a session nothing is redirected.
  rcases ready : equipped s t origin with f | t'
  · refine .inl ⟨?_, rfl⟩
    cases (Config.load t.files s.env origin.config).outcome <;> rfl
  obtain ⟨config, loaded, logging⟩ := equipped_cases ready
  rw [loaded]
  rcases logging_cases logging with ⟨undirected, same⟩ | ⟨moved, files, directed, prepared, same⟩
  · refine .inl ⟨?_, same⟩
    simp [Except.toOption, undirected]
  · refine .inr ⟨config.level, moved, files, ?_, Config.level_of_load loaded, prepared, same⟩
    simp [Except.toOption, directed]

theorem setup_of_begun {directory : Option Path} (ready : begun verbose directory files = .ok t) :
    t.setup = Setup.make (if verbose then debug else warning) directory ∧ t.trace = [] := by
  unfold begun at ready
  dsimp only at ready
  cases prepared : (Setup.make (if verbose then debug else warning) directory).prepare directory
      files with
  | error f =>
    rw [prepared] at ready
    cases ready
  | ok made =>
    rw [prepared] at ready
    cases ready
    exact ⟨rfl, rfl⟩

theorem files_of_run {directory : Option Path} (asks : Asks args verbose directory c)
    (ready : begun verbose directory files = .ok t) :
    let u := (run s files args).terminal
    u.files = ((settled s t c).recorded s (recordsOf u.trace)).files := by
  have ended : (run s files args).terminal = ((execute c).course s t).2 := by
    rw [run_of_asks asks ready]
    rcases (execute c).course s t with ⟨(_ | _) | _, _⟩ <;> rfl
  rw [ended]
  exact files_execute (setup_of_begun ready).2 c

theorem files_recorded {f : LogFile} (filed : t.setup.file = some f) (records : List Record) :
    (t.recorded s records).files =
      (t.setup.written (s.entries records)).foldl f.append t.files := by
  refine Setup.files_emitAll filed (fun e member => ?_) _
  obtain ⟨r, -, rfl⟩ := List.mem_map.mp member
  exact fileLine_entry r s.stamp

/-- The level of a configuration lets no fewer records through than that of the program. -/
theorem heard_under {level : Level} (named : level ∈ namedLevels) {setup setup' : Setup}
    (before : setup.level = if verbose then debug else warning)
    (after : setup'.level = min setup.level level) (entries : List Entry) :
    (setup.written entries).Sublist (setup'.written entries) := by
  have some : setup.level ≠ 0 := by
    rw [before]
    cases verbose <;> decide
  have each : ∀ level ∈ namedLevels, min (if verbose then debug else warning) level ≠ 0 := by
    cases verbose <;> decide
  have some' : setup'.level ≠ 0 := by
    rw [after, before]
    exact each level named
  have lower : setup'.level ≤ setup.level := after ▸ Int.min_le_left _ _
  exact (List.monotone_filter_right entries fun e => Setup.admits_of_lower lower some' some).map _

section

variable {f g : LogFile} {parts : List String} {old : Octets} {records : List Record}

/-- Records are read back from the log file that they go to, under any path that leads there. -/
theorem read_recorded (standing : f.Standing t.files parts old) (clean : f.path.hasNul = false)
    (filed : t.setup.file = some g) (same : t.files.place g.path = .ok (.inside parts))
    (unfilled : t.setup.Unfilled t.files (t.setup.written (s.entries records))) :
    (t.recorded s records).files.read f.path =
      .ok (old ++ (t.setup.written (s.entries records)).flatMap lineOctets) := by
  rw [files_recorded filed]
  exact LogFile.read_of_standing (LogFile.lines_shared standing same (unfilled g filed)) clean

/-- Records that go to the log file of another directory. -/
theorem redirected_recorded {moved : Path} (standing : f.Standing t.files parts old)
    (clean : f.path.hasNul = false) (path : f.path = logPath directory)
    (filed : t.setup.file = some g) (path' : g.path = logPath moved)
    (opened : ∀ place, t.files.place g.path = .ok (.inside place) →
      ∃ kept, g.Standing t.files place kept)
    (unfilled : t.setup.Unfilled t.files (t.setup.written (s.entries records))) :
    Redirected t.files (t.recorded s records).files directory moved old
      (t.setup.written (s.entries records)) := by
  have leads := standing.leads
  refine ⟨fun shared => ?_, fun apart => ?_, fun kept there => ?_⟩
  · rw [← path', ← path, leads] at shared
    rw [← path]
    exact read_recorded standing clean filed shared unfilled
  · rw [← path', ← path, leads] at apart
    rw [← path, files_recorded filed]
    exact LogFile.read_of_standing
      (LogFile.lines_elsewhere standing opened apart (unfilled g filed)) clean
  · rw [← path'] at there ⊢
    obtain ⟨place, other⟩ := LogFile.standing_of_read there
    exact read_recorded other (LogFile.clean_of_read there) filed other.leads unfilled

end

/-- Once logging is set up, the log file is there, unless its path leads out of the files. -/
theorem read_of_begun (ready : begun verbose (some directory) files = .ok t) {parts : List String}
    (leads : t.files.place (logPath directory) = .ok (.inside parts)) :
    ∃ old, t.files.read (logPath directory) = .ok old := by
  obtain ⟨f, filed, path, -⟩ := Setup.filed_make (if verbose then debug else warning) directory
  unfold begun at ready
  dsimp only at ready
  rcases prepared : (Setup.make (if verbose then debug else warning) (some directory)).prepare
      (some directory) files with fault | made
  · rw [prepared] at ready
    cases ready
  rw [prepared] at ready
  cases ready
  have opened := Setup.openIn_of_prepare filed prepared
  rw [← path] at leads ⊢
  obtain ⟨old, standing⟩ := LogFile.standing_of_openIn opened leads
  have clean : f.path.hasNul = false := by
    have last : '\x00' ∉ LogFile.name.toList := by decide
    have front := LogFile.clean_of_openIn opened
    rw [path]
    simpa [logPath, Path.hasNul, Path.join, last] using front
  exact ⟨old, LogFile.read_of_standing standing clean⟩

/-- The log file in the directory that the program was given, wherever in the files that is, takes a
line for every record of the command that is let through, in order. Only where a session is asked
for under a configuration with a log directory, the records of the session go to the log file there
instead; they are in the first one as well only if that is the same file. -/
theorem log_directory_receives (asks : Asks args verbose (some directory) c)
    (ready : begun verbose (some directory) files = .ok t) {place : List String}
    (leads : t.files.place (logPath directory) = .ok (.inside place)) :
    let o := run s files args
    let later := settled s t c
    let plain := s.entries (plainRecords s t c)
    let late := s.entries (recordsOf o.terminal.trace)
    ∃ old, t.files.read (logPath directory) = .ok old ∧
      (t.setup.Unfilled t.files (t.setup.written plain) →
        later.setup.Unfilled later.files (later.setup.written late) →
        t.setup.level = (if verbose then debug else warning) ∧
        (redirection s t c = none →
          o.terminal.files.read (logPath directory) =
            .ok (old ++ (t.setup.written (plain ++ late)).flatMap lineOctets)) ∧
        ∀ level moved, redirection s t c = some (level, moved) →
          (t.setup.written late).Sublist (later.setup.written late) ∧
          Redirected later.files o.terminal.files directory moved
            (old ++ (t.setup.written plain).flatMap lineOctets) (later.setup.written late)) := by
  intro o later plain late
  obtain ⟨old, here⟩ := read_of_begun ready leads
  refine ⟨old, here, fun unfilled unfilled' => ?_⟩
  obtain ⟨made, -⟩ := setup_of_begun ready
  have heeded : t.setup.level = if verbose then debug else warning := by rw [made]; rfl
  refine ⟨heeded, ?_⟩
  obtain ⟨f, filed, path, -⟩ :=
    Setup.filed_make (if verbose then debug else warning) directory
  rw [← made] at filed
  have ended : o.terminal.files = (later.recorded s (recordsOf o.terminal.trace)).files :=
    files_of_run asks ready
  rw [ended]
  rw [← path] at here
  -- What is logged before there may be a session goes to the first log file in any case.
  obtain ⟨parts, standing⟩ := LogFile.standing_of_read here
  have clean : f.path.hasNul = false := LogFile.clean_of_read here
  have begun : f.Standing (t.recorded s (plainRecords s t c)).files parts
      (old ++ (t.setup.written plain).flatMap lineOctets) := by
    rw [files_recorded filed]
    exact LogFile.lines_shared standing standing.leads (unfilled f filed)
  rcases settled_cases s t c with ⟨direct, same⟩ |
    ⟨level, moved, files, redirected, named, prepared, same⟩
  all_goals
    replace same : later = _ := same
    clear_value later
    subst same
  · rw [direct]
    refine ⟨fun _ => ?_, nofun⟩
    rw [Setup.written_append, List.flatMap_append, ← List.append_assoc, ← path]
    exact read_recorded begun clean filed begun.leads unfilled'
  · rw [redirected]
    refine ⟨nofun, fun _ _ taken => ?_⟩
    cases taken
    obtain ⟨g, filed', path', -⟩ := Setup.filed_make (min t.setup.level level) moved
    have still := LogFile.standing_of_grown (FileTree.grown_prepare prepared) begun
    have opened := Setup.openIn_of_prepare filed' prepared
    exact ⟨heard_under named heeded rfl late, redirected_recorded still clean path filed' path'
      (fun _ leads => LogFile.standing_of_openIn opened leads) unfilled'⟩

end

def loggedLoad : List String := ["--log-dir", "a", "load", "f", "--mock", "b.json"]

def emptyBundle (others : List (List String × Octets)) : FileTree where
  files := (["b.json"], Octets.ofString "{}") :: others

theorem asks_loggedLoad : Asks loggedLoad false (some (Path.ofString "a"))
    (.load "f" { bundle := some (Path.ofString "b.json") }) := by
  refine ⟨"load", ["f", "--mock", "b.json"], ?_, ?_⟩
  all_goals with_unfolding_all rfl

/-- The load fails, and the two warnings about that are in the log file. -/
theorem failed_load_received :
    let o := run alone (emptyBundle []) loggedLoad
    let setup := Setup.make warning (some (Path.ofString "a"))
    let lines := setup.written (alone.entries (recordsOf o.terminal.trace))
    lines.length = 2 ∧
      o.terminal.files.read (logPath (Path.ofString "a")) = .ok (lines.flatMap lineOctets) := by
  intro o setup lines
  let c : Command := .load "f" { bundle := some (Path.ofString "b.json") }
  let t : Terminal :=
    { files := { emptyBundle [(["a", LogFile.name], [])] with made := [["a"]] }, setup }
  have ready : begun false (some (Path.ofString "a")) (emptyBundle []) = .ok t := by
    with_unfolding_all rfl
  have here : t.files.read (logPath (Path.ofString "a")) = .ok [] := by
    with_unfolding_all rfl
  have leads : t.files.place (logPath (Path.ofString "a")) = .ok (.inside ["a", LogFile.name]) := by
    with_unfolding_all rfl
  have undirected : redirection alone t c = none := by with_unfolding_all rfl
  have stays : settled alone t c = t := by with_unfolding_all rfl
  have plain : alone.entries (plainRecords alone t c) = [] := by with_unfolding_all rfl
  have short : ([] ++ lines.flatMap lineOctets).length < 5242880 := by decide +kernel
  have fits : (settled alone t c).setup.Unfilled (settled alone t c).files
      ((settled alone t c).setup.written (alone.entries (recordsOf o.terminal.trace))) := by
    rw [stays]
    exact Setup.unfilled_of_read here short
  obtain ⟨old, same, received⟩ := log_directory_receives (s := alone) asks_loggedLoad ready leads
  obtain rfl : [] = old := Except.ok.inj (here.symm.trans same)
  obtain ⟨-, direct, -⟩ := received (Setup.unfilled_of_read here (by rw [plain]; decide)) fits
  refine ⟨by decide +kernel, ?_⟩
  rw [direct undirected, plain, List.nil_append, List.nil_append]

/-- With a log directory in the configuration, the log file in the one that was given stays empty
although there are warnings. -/
theorem redirected_load_unreceived :
    let o := run alone (emptyBundle
      [(["xfeature.toml"], Octets.ofString "[logging]\ndirectory = \"b\"\n")]) loggedLoad
    (recordsOf o.terminal.trace).any (fun r => decide (warning ≤ r.level)) = true ∧
      o.terminal.files.read (logPath (Path.ofString "a")) = .ok [] := by
  decide +kernel

end Command
end FeatureSpec
