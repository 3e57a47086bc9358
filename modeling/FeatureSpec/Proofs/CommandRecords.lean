import FeatureSpec.Proofs.LogFiles
import FeatureSpec.Proofs.SessionCourse
/-!
What a command logs. The configuration and what is compiled are logged under the setup of the
program; what a session does is logged under the setup that the session finds, which is that of the
configuration if it has a log directory. Nothing else that a command does reaches the files.
-/
namespace FeatureSpec.Command

open Act

/-- What logging goes by, and what it leaves. -/
structure Books where
  files : FileTree
  setup : Log.Setup
  trace : Trace

def Terminal.books (t : Terminal) : Books := ⟨t.files, t.setup, t.trace⟩

def Surroundings.entries (s : Surroundings) (records : List Log.Record) : List Log.Entry :=
  records.map (·.entry s.stamp)

/-! ### What a command logs -/

/-- What is logged about a target: its configuration, and what is compiled under it. -/
def recordsOfTarget (s : Surroundings) (t : Terminal) (target : Target) : List Log.Record :=
  (configuration s t target).records ++
    match (configuration s t target).outcome with
    | .error _ => []
    | .ok c => ((sourceOf c (configured s t target).files target).map Logged.records).getD []

def recordsOfConfig (s : Surroundings) (t : Terminal) (config : Option Path) : List Log.Record :=
  (Config.load t.files s.env config).records

/-- Where the session of a command comes from; parameters that are refused end the command before
that. -/
def sessionOrigin? : Command → Option Origin
  | .load _ origin => some origin
  | .query _ _ texts origin => (texts.mapM paramOf?).map fun _ => origin
  | _ => none

/-- What a command logs apart from what happens in a session. -/
def plainRecords (s : Surroundings) (t : Terminal) : Command → List Log.Record
  | .compile target _ | .check target | .inspect target => recordsOfTarget s t target
  | .features config | .checksum none config => recordsOfConfig s t config
  | .params _ _ | .checksum (some _) _ => []
  | .load _ origin => recordsOfConfig s t origin.config
  | .query _ _ texts origin =>
    if texts.mapM paramOf? = none then [] else recordsOfConfig s t origin.config

/-- The terminal that a session finds. If there is no session because logging cannot be set up, it
is the one that the records about the configuration leave. -/
def sessionStart (s : Surroundings) (t : Terminal) (origin : Origin) : Terminal :=
  match equipped s t origin with
  | .ok t' => t'
  | .error _ => t.recorded s (recordsOfConfig s t origin.config)

/-- The terminal that a command leaves apart from what happens in a session. -/
def settled (s : Surroundings) (t : Terminal) (c : Command) : Terminal :=
  match c.sessionOrigin? with
  | some origin => sessionStart s t origin
  | none => t.recorded s (plainRecords s t c)

section

variable {α β : Type} {s : Surroundings} {t t' : Terminal} {act : Act α} {target : Target}

/-! ### Books -/

theorem recorded_nil (s : Surroundings) (t : Terminal) : t.recorded s [] = t := by
  simp [Terminal.recorded, Log.Setup.emitAll]

theorem recorded_append (s : Surroundings) (t : Terminal) (before more : List Log.Record) :
    t.recorded s (before ++ more) = (t.recorded s before).recorded s more := by
  simp only [Terminal.recorded, List.map_append, Log.Setup.emitAll_append, String.append_assoc]

/-- What records leave in the books depends on the books alone. -/
theorem books_recorded (same : t.books = t'.books) (records : List Log.Record) :
    (t.recorded s records).books = (t'.recorded s records).books := by
  have files : t.files = t'.files := congrArg Books.files same
  have setup : t.setup = t'.setup := congrArg Books.setup same
  have trace : t.trace = t'.trace := congrArg Books.trace same
  simp only [Terminal.books, Terminal.recorded, files, setup, trace]

/-- An action that leaves the books as they are. -/
def KeepsBooks (s : Surroundings) (act : Act α) : Prop := ∀ t, (act.course s t).2.books = t.books

theorem keepsBooks_of_talks (talks : Talks act) : KeepsBooks s act := by
  intro t
  induction talks generalizing t with
  | @bind _ _ x f _ _ first rest =>
    have kept := first t
    rw [course_bind]
    rcases ended : x.course s t with ⟨e | a, left⟩
    · rw [ended] at kept
      exact kept
    · rw [ended] at kept
      exact (rest a left).trans kept
  | _ => rfl

/-- Whoever looks around before talking changes nothing either. -/
theorem keepsBooks_of_get {f : Terminal → Act α} (talks : ∀ t, Talks (f t)) :
    KeepsBooks s (get >>= f) := by
  intro t
  rw [course_bind_ok course_get]
  exact keepsBooks_of_talks (talks t) t

theorem books_bind {f : α → Act β} (kept : ∀ a, KeepsBooks s (f a)) :
    ((act >>= f).course s t).2.books = (act.course s t).2.books := by
  rw [course_bind]
  rcases act.course s t with ⟨e | a, left⟩
  · rfl
  · exact kept a left

theorem books_logged (handled : Failure → Bool) (x : Logged α) :
    ((logged x >>= expect handled).course s t).2.books = (t.recorded s x.records).books :=
  books_bind fun r => keepsBooks_of_talks (talks_expect handled r)

/-! ### Commands without a session -/

theorem books_loadConfig (config : Option Path) :
    ((loadConfig config).course s t).2.books =
      (t.recorded s (recordsOfConfig s t config)).books := by
  let target : Target := { name := "", config }
  show ((loadConfig target.config).course s t).2.books = _
  rw [course_loadConfig]
  exact books_logged _ _

theorem books_compiled :
    ((compiled target).course s t).2.books = (t.recorded s (recordsOfTarget s t target)).books := by
  unfold recordsOfTarget
  rcases loaded : (configuration s t target).outcome with f | c
  · dsimp only
    rw [course_compiled_of_failed loaded, List.append_nil]
    unfold stopped
    split <;> rfl
  rcases found : sourceOf c (configured s t target).files target with _ | x
  · rw [course_compiled_of_missing loaded found]
    simp only [found, Option.map_none, Option.getD_none, List.append_nil]
    rfl
  · rw [course_compiled_of_source loaded found, books_logged]
    simp only [found, Option.map_some, Option.getD_some, recorded_append]
    rfl

theorem talks_inspectFeature (f : Feature) : Talks (inspectFeature f) := by
  unfold inspectFeature
  exact .bind (talks_forIn fun _ => .say _) fun _ =>
    .bind (talks_forIn fun _ => .say _) fun _ => .pure _

theorem talks_showParams (sql : String) (driver : Option String) :
    Talks (showParams sql driver) := by
  refine .bind (talks_forIn fun _ => .say _) fun _ => ?_
  cases driver with
  | none => exact .pure _
  | some name =>
    dsimp only
    split
    · exact .pure _
    · exact .say _

theorem books_listFeatures (config : Option Path) :
    ((listFeatures config).course s t).2.books =
      (t.recorded s (recordsOfConfig s t config)).books := by
  rw [← books_loadConfig]
  refine books_bind fun c => keepsBooks_of_get fun left => ?_
  dsimp only
  split
  · exact .complain _
  · exact .bind (talks_forIn fun _ => .say _) fun _ => .pure _

theorem books_showChecksums (path config : Option Path) :
    ((showChecksums path config).course s t).2.books =
      (t.recorded s (plainRecords s t (.checksum path config))).books := by
  unfold showChecksums
  extract_lets shown
  have kept (path : Path) : KeepsBooks s (shown path) := by
    refine keepsBooks_of_get fun left => ?_
    dsimp only
    split
    · exact .bind (talks_forIn fun _ => .say _) fun _ => .pure _
    · split
      · exact .bind (talks_expect _ _) fun _ => .say _
      · exact .bind (.complain _) fun _ => .exit 1
  cases path with
  | some path =>
    refine (books_bind kept).trans ?_
    exact congrArg Terminal.books (recorded_nil s t).symm
  | none =>
    refine (books_bind kept).trans ?_
    rw [map_eq_pure_bind, books_bind fun c => keepsBooks_of_talks (.pure _)]
    exact books_loadConfig config

/-! ### Commands with a session -/

theorem course_logUnder_error {c : Config} {f : Failure} (failed : t.logging c = .error f) :
    ∃ t', (logUnder c).course s t = (.error (.crash f), t') ∧ t'.files = t.files ∧
      t'.trace = t.trace := by
  unfold Terminal.logging at failed
  dsimp only at failed
  split at failed
  · cases failed
  rename_i directory directed
  rcases prepared : (Log.Setup.make (min t.setup.level c.level) (some directory)).prepare
      (some directory) t.files with g | files
  · rw [prepared] at failed
    cases failed
    refine ⟨{ t with setup :=
      { Log.Setup.make (min t.setup.level c.level) (some directory) with file := none } },
      ?_, rfl, rfl⟩
    unfold logUnder
    rw [directed]
    dsimp only
    rw [course_bind_ok course_get]
    unfold setUpLogging
    dsimp only
    rw [course_bind_ok course_get, prepared]
    rfl
  · rw [prepared] at failed
    cases failed

theorem trace_of_equipped {origin : Origin} (ready : equipped s t origin = .ok t') :
    t'.trace = t.trace := by
  obtain ⟨c, -, logging⟩ := equipped_cases ready
  rcases logging_cases logging with ⟨-, rfl⟩ | ⟨directory, files, -, -, rfl⟩ <;> rfl

/-- The session of a configuration, once logging is set up. -/
def sessionUnder (handled : Failure → Bool) (feature : String) (origin : Origin) (c : Config) :
    Act Session := do
  let bundle ← match origin.bundle with
    | some path => some <$> expect handled (Bundle.ofFile (← get).files path)
    | none => pure none
  return { feature, gateway := gatewayOf c bundle }

section

variable {origin : Origin} {handled : Failure → Bool} {feature : String}

theorem keepsBooks_sessionUnder (c : Config) :
    KeepsBooks s (sessionUnder handled feature origin c) := by
  intro t
  unfold sessionUnder
  cases origin.bundle with
  | none => rfl
  | some path =>
    have read : KeepsBooks s (do
        let t ← get
        some <$> expect handled (Bundle.ofFile t.files path) : Act (Option Bundle)) := by
      refine keepsBooks_of_get fun left => ?_
      rw [map_eq_pure_bind]
      exact .bind (talks_expect _ _) fun _ => .pure _
    exact (books_bind fun bundle => keepsBooks_of_talks (.pure _)).trans (read t)

theorem course_sessionOn_loaded {c : Config}
    (loaded : (Config.load t.files s.env origin.config).outcome = .ok c) :
    (sessionOn handled feature origin).course s t =
      (logUnder (origin.addressed c) >>= fun _ =>
        sessionUnder handled feature origin (origin.addressed c)).course s
        (t.recorded s (recordsOfConfig s t origin.config)) := by
  unfold sessionOn
  rw [course_bind_ok course_get, course_bind_ok course_read]
  dsimp only
  rw [course_bind_ok (course_logged _), loaded, course_bind_ok (course_expect_ok _ _)]
  rfl

theorem books_sessionOn (ready : equipped s t origin = .ok t') :
    ((sessionOn handled feature origin).course s t).2.books = t'.books := by
  obtain ⟨c, loaded, logging⟩ := equipped_cases ready
  have logging' : (t.recorded s (recordsOfConfig s t origin.config)).logging
      (origin.addressed c) = .ok t' := (logging_addressed origin c).trans logging
  rw [course_sessionOn_loaded loaded, course_bind_ok (course_logUnder logging')]
  exact keepsBooks_sessionUnder _ t'

theorem course_sessionOn_error {f : Failure} (failed : equipped s t origin = .error f) :
    ∃ e t', (sessionOn handled feature origin).course s t = (.error e, t') ∧
      t'.files = (t.recorded s (recordsOfConfig s t origin.config)).files ∧
      t'.trace = t.trace := by
  unfold equipped at failed
  dsimp only at failed
  rcases loaded : (Config.load t.files s.env origin.config).outcome with g | c
  · have course : (sessionOn handled feature origin).course s t =
        stopped handled g (t.recorded s (recordsOfConfig s t origin.config)) := by
      unfold sessionOn
      rw [course_bind_ok course_get, course_bind_ok course_read]
      dsimp only
      rw [course_bind_ok (course_logged _), loaded]
      exact course_bind_stopped (course_expect_error handled g)
    rw [course]
    unfold stopped
    split <;> exact ⟨_, _, rfl, rfl, rfl⟩
  · rw [loaded] at failed
    have failed' : (t.recorded s (recordsOfConfig s t origin.config)).logging
        (origin.addressed c) = .error f := (logging_addressed origin c).trans failed
    obtain ⟨t', course, files, trace⟩ := course_logUnder_error (s := s) failed'
    rw [course_sessionOn_loaded loaded, course_bind_stop course]
    exact ⟨_, t', rfl, files, trace⟩

theorem files_of_untouched {left : Terminal} (files : t.files = left.files)
    (untouched : t.trace = []) : t.files = (left.recorded s (recordsOf t.trace)).files := by
  rw [untouched]
  exact files.trans (congrArg Terminal.files (recorded_nil s left)).symm

theorem files_performed {x : Run α} {k : Except Failure α → Act β} (talks : ∀ r, Talks (k r))
    (untouched : t.trace = []) :
    let u := ((performed x >>= k).course s t).2
    u.files = (t.recorded s (recordsOf u.trace)).files := by
  intro u
  have ended : u.books = (t.witnessed s (x s.world t.trace).trace).books := by
    show ((performed x >>= k).course s t).2.books = _
    rw [books_bind fun r => keepsBooks_of_talks (talks r), course_performed rfl]
  have traced : u.trace = (x s.world t.trace).trace := by
    refine (congrArg Books.trace ended).trans ?_
    show t.trace ++ _ = _
    rw [untouched, List.nil_append]
  rw [traced]
  exact congrArg Books.files ended

/-- What is done in a session is written where the session finds it, and no more than that. -/
theorem files_session {x : Session → Run α} {k : Session → Except Failure α → Act β}
    (talks : ∀ session r, Talks (k session r)) (fresh : t.trace = []) :
    let act := sessionOn handled feature origin >>= fun session =>
      performed (x session) >>= k session
    let u := (act.course s t).2
    u.files = ((sessionStart s t origin).recorded s (recordsOf u.trace)).files := by
  intro act u
  unfold sessionStart
  rcases ready : equipped s t origin with f | t'
  · obtain ⟨e, left, course, files, trace⟩ :
        ∃ e left, (sessionOn handled feature origin).course s t = (.error e, left) ∧
          left.files = (t.recorded s (recordsOfConfig s t origin.config)).files ∧
          left.trace = t.trace := course_sessionOn_error ready
    have ended : u = left := congrArg Prod.snd (course_bind_stop course)
    rw [ended]
    exact files_of_untouched files (trace.trans fresh)
  · have books : ((sessionOn handled feature origin).course s t).2.books = t'.books :=
      books_sessionOn ready
    have empty : t'.trace = [] := (trace_of_equipped ready).trans fresh
    rcases course : (sessionOn handled feature origin).course s t with ⟨e | session, left⟩
    all_goals
      rw [course] at books
      have untouched : left.trace = [] := (congrArg Books.trace books).trans empty
    -- Logging is set up, but there may still be no session if the bundle cannot be read.
    · have ended : u = left := congrArg Prod.snd (course_bind_stop course)
      rw [ended]
      exact files_of_untouched (congrArg Books.files books) untouched
    · have went : act.course s t = (performed (x session) >>= k session).course s left :=
        course_bind_ok course
      have ended : u = ((performed (x session) >>= k session).course s left).2 :=
        congrArg Prod.snd went
      rw [ended]
      exact (files_performed (talks session) untouched).trans
        (congrArg Books.files (books_recorded books _))

end

/-- The files that a command leaves are those that the records of what happened in its session are
written to. -/
theorem files_execute (fresh : t.trace = []) (c : Command) :
    let u := ((execute c).course s t).2
    u.files = ((settled s t c).recorded s (recordsOf u.trace)).files := by
  -- A command without a session leaves the trace empty.
  have plain {act : Act Unit} {records : List Log.Record}
      (books : (act.course s t).2.books = (t.recorded s records).books) :
      (act.course s t).2.files =
        ((t.recorded s records).recorded s (recordsOf (act.course s t).2.trace)).files :=
    files_of_untouched (congrArg Books.files books) ((congrArg Books.trace books).trans fresh)
  cases c with
  | compile target indent =>
    exact plain ((books_bind fun f => keepsBooks_of_talks (talks_printed indent f)).trans
      books_compiled)
  | check target =>
    exact plain ((books_bind fun f => keepsBooks_of_talks (talks_checkFeature f)).trans
      books_compiled)
  | params sql driver =>
    refine plain ((keepsBooks_of_talks (talks_showParams sql driver) t).trans ?_)
    exact congrArg Terminal.books (recorded_nil s t).symm
  | inspect target =>
    exact plain ((books_bind fun f => keepsBooks_of_talks (talks_inspectFeature f)).trans
      books_compiled)
  | features config => exact plain (books_listFeatures config)
  | checksum path config => exact plain (books_showChecksums path config)
  | load feature origin =>
    refine files_session (fun session r => ?_) fresh
    refine .bind (talks_expect _ _) fun session => ?_
    split
    · exact .bind (.complain _) fun _ => .exit 1
    · refine .bind (.say _) fun _ => ?_
      split
      · exact .bind (talks_forIn fun _ => .say _) fun _ => .pure _
      · exact .pure _
  | query feature id texts origin =>
    dsimp only [execute, settled, sessionOrigin?, plainRecords]
    unfold runQuery
    cases texts.mapM paramOf? with
    | none =>
      have stays : ((exit 2 : Act Unit).course s t).2.books = (t.recorded s []).books :=
        congrArg Terminal.books (recorded_nil s t).symm
      exact plain stays
    | some given =>
      dsimp only [Option.map_some]
      refine files_session (fun session r => ?_) fresh
      exact .bind (talks_expect _ _) fun reply => .bind (talks_expect _ _) fun written => .say _

end

end FeatureSpec.Command
