import FeatureSpec.Command.Run
/-!
The course of a command: how an action ends on a terminal and what it leaves there. Records show on
the error stream only, and each of them shows whatever becomes of the log file.
-/
namespace FeatureSpec.Command

/-- The terminal after records have been written where they go. -/
def Terminal.recorded (s : Surroundings) (records : List Log.Record) (t : Terminal) : Terminal :=
  let entries := records.map (·.entry s.stamp)
  let (shown, files) := t.setup.emitAll entries t.files
  { t with err := t.err ++ shown, files }

def Terminal.complained (line : String) (t : Terminal) : Terminal :=
  { t with err := t.err ++ Text.withoutEscapes line ++ "\n" }

def Terminal.said (line : String) (t : Terminal) : Terminal :=
  { t with out := t.out ++ Text.withoutEscapes line ++ "\n" }

namespace Act

variable {α β : Type} {s : Surroundings} {t t' : Terminal}

/-- How an action ends, and the terminal that it leaves. -/
def course (act : Act α) (s : Surroundings) (t : Terminal) : Except Stop α × Terminal :=
  (act.run s).run.run t

theorem course_bind (x : Act α) (f : α → Act β) :
    (x >>= f).course s t = match x.course s t with
      | (.ok a, t') => (f a).course s t'
      | (.error e, t') => (.error e, t') := by
  simp only [course, ReaderT.run_bind, ExceptT.run_bind, StateT.run_bind]
  rcases (x.run s).run.run t with ⟨_ | _, _⟩ <;> rfl

theorem course_bind_ok {x : Act α} {f : α → Act β} {a : α} (h : x.course s t = (.ok a, t')) :
    (x >>= f).course s t = (f a).course s t' := by
  rw [course_bind, h]

theorem course_bind_stop {x : Act α} {f : α → Act β} {e : Stop}
    (h : x.course s t = (.error e, t')) : (x >>= f).course s t = (.error e, t') := by
  rw [course_bind, h]

theorem course_bind_congr {x y : Act α} (f : α → Act β) (h : x.course s t = y.course s t') :
    (x >>= f).course s t = (y >>= f).course s t' := by
  rw [course_bind, course_bind, h]

theorem course_say (line : String) : (say line).course s t = (.ok (), t.said line) := rfl

theorem course_complain (line : String) :
    (complain line).course s t = (.ok (), t.complained line) := rfl

theorem course_logged (x : Logged α) :
    (logged x).course s t = (.ok x.outcome, t.recorded s x.records) := rfl

theorem course_get : (get : Act Terminal).course s t = (.ok t, t) := rfl

theorem course_read : (read : Act Surroundings).course s t = (.ok s, t) := rfl

/-- A command stopped by a failure, which is reported if it is handled. -/
def stopped (handled : Failure → Bool) (f : Failure) (t : Terminal) : Except Stop α × Terminal :=
  if handled f then (.error (.exit 1), t.complained s!"Error: {f.message}")
  else (.error (.crash f), t)

theorem course_expect_ok (handled : Failure → Bool) (a : α) :
    (expect handled (.ok a)).course s t = (.ok a, t) := rfl

theorem course_expect_error (handled : Failure → Bool) (f : Failure) :
    (expect handled (.error f) : Act α).course s t = stopped handled f t := by
  unfold expect stopped
  dsimp only
  split <;> rfl

theorem course_expect_logged_ok {handled : Failure → Bool} {x : Logged α} {a : α}
    (h : x.outcome = .ok a) :
    (logged x >>= expect handled).course s t = (.ok a, t.recorded s x.records) := by
  rw [course_bind_ok (course_logged x), h, course_expect_ok]

theorem course_expect_logged_error {handled : Failure → Bool} {x : Logged α} {f : Failure}
    (h : x.outcome = .error f) :
    (logged x >>= expect handled).course s t = stopped handled f (t.recorded s x.records) := by
  rw [course_bind_ok (course_logged x), h, course_expect_error]

theorem course_bind_stopped {handled : Failure → Bool} {x : Act α} {f : Failure} {g : α → Act β}
    (h : x.course s t = stopped handled f t') : (x >>= g).course s t = stopped handled f t' := by
  unfold stopped at h ⊢
  split <;> rename_i own
  · rw [if_pos own] at h
    exact course_bind_stop h
  · rw [if_neg own] at h
    exact course_bind_stop h

/-- An action that writes lines to the streams and ends, and does nothing else. -/
inductive Talks : {α : Type} → Act α → Prop where
  | pure {α : Type} (a : α) : Talks (pure a)
  | say (line : String) : Talks (say line)
  | complain (line : String) : Talks (complain line)
  | exit {α : Type} (code : Nat) : Talks (exit code : Act α)
  | crash {α : Type} (f : Failure) : Talks (crash f : Act α)
  | bind {α β : Type} {x : Act α} {f : α → Act β} (first : Talks x) (rest : ∀ a, Talks (f a)) :
      Talks (x >>= f)

theorem talks_expect (handled : Failure → Bool) (r : Except Failure α) :
    Talks (expect handled r) := by
  cases r with
  | ok a => exact .pure a
  | error f =>
    unfold expect
    dsimp only
    split
    · exact .bind (.complain _) fun _ => .exit 1
    · exact .crash f

theorem talks_forIn {items : List α} {act : α → Act Unit} (each : ∀ a, Talks (act a)) :
    Talks (forIn items PUnit.unit fun a _ => do
      act a
      pure (ForInStep.yield PUnit.unit)) := by
  induction items with
  | nil => exact .pure PUnit.unit
  | cons a rest ih =>
    rw [List.forIn_cons]
    refine .bind (.bind (each a) fun _ => .pure _) fun step => ?_
    cases step with
    | done _ => exact .pure _
    | yield _ => exact ih

end Act

open Act

/-! ### Records -/

theorem emitAll_shown (setup : Log.Setup) (entries : List Log.Entry) (files files' : FileTree) :
    (setup.emitAll entries files).1 = (setup.emitAll entries files').1 := by
  induction entries generalizing files files' with
  | nil => rfl
  | cons e rest ih =>
    have first : (setup.emit e files).1 = (setup.emit e files').1 := by
      unfold Log.Setup.emit
      split <;> rfl
    unfold Log.Setup.emitAll
    dsimp only
    rw [first, ih (setup.emit e files).2 (setup.emit e files').2]

namespace Terminal

variable {s : Surroundings} {t : Terminal} {r : Log.Record} {records : List Log.Record}

def shownOf (s : Surroundings) (t : Terminal) (r : Log.Record) : String :=
  if t.setup.admits r.level then (r.entry s.stamp).consoleLine ++ "\n" else ""

theorem recorded_cons_err (s : Surroundings) (t : Terminal) (r : Log.Record)
    (records : List Log.Record) :
    ∃ more, (t.recorded s (r :: records)).err = t.err ++ t.shownOf s r ++ more ∧
      (t.recorded s records).err = t.err ++ more := by
  let entries := records.map (·.entry s.stamp)
  let first : String × FileTree := t.setup.emit (r.entry s.stamp) t.files
  have line : first.1 = t.shownOf s r := by
    unfold first Log.Setup.emit shownOf
    rw [Log.level_entry]
    split <;> rfl
  have later : (t.setup.emitAll entries first.2).1 = (t.setup.emitAll entries t.files).1 :=
    emitAll_shown _ _ _ _
  refine ⟨(t.setup.emitAll entries t.files).1, ?_, rfl⟩
  show t.err ++ (first.1 ++ (t.setup.emitAll entries first.2).1) = _
  rw [line, later, String.append_assoc]

theorem recorded_cons_of_refused (refused : t.setup.admits r.level = false) :
    t.recorded s (r :: records) = t.recorded s records := by
  have nothing : t.setup.emit (r.entry s.stamp) t.files = ("", t.files) := by
    rw [Log.Setup.emit, if_neg (by simp [refused])]
  unfold recorded
  simp only [List.map_cons, Log.Setup.emitAll, nothing, String.empty_append]

end Terminal

/-! ### What a target compiles to -/

/-- What compiles a target under a configuration; none if it is the path of no file. -/
def sourceOf (c : Config) (files : FileTree) (target : Target) : Option (Logged Feature) :=
  let strict := target.strict.getD c.strict
  if isPath target.name then
    let path := Path.ofString target.name
    if files.isFile path then some (SpecDirectory.compileFile files strict path) else none
  else some (SpecDirectory.load files strict c.specDirectory target.name)

def configuration (s : Surroundings) (t : Terminal) (target : Target) : Logged Config :=
  Config.load t.files s.env target.config

def configured (s : Surroundings) (t : Terminal) (target : Target) : Terminal :=
  t.recorded s (configuration s t target).records

/-- How the compilation of a target comes out; none if it is the path of no file. -/
def compilation (s : Surroundings) (t : Terminal) (target : Target) :
    Option (Except Failure Feature) :=
  match (configuration s t target).outcome with
  | .error f => some (.error f)
  | .ok c => (sourceOf c (configured s t target).files target).map Logged.outcome

section

variable {s : Surroundings} {t : Terminal} {target : Target}

theorem course_loadConfig :
    (loadConfig target.config).course s t =
      (logged (configuration s t target) >>= expect Failure.isOwn).course s t := by
  unfold loadConfig configuration
  rw [course_bind_ok course_get, course_bind_ok course_read]

theorem course_loadConfig_ok {c : Config} (h : (configuration s t target).outcome = .ok c) :
    (loadConfig target.config).course s t = (.ok c, configured s t target) := by
  rw [course_loadConfig, course_expect_logged_ok h, configured]

theorem course_compiled_of_failed {f : Failure}
    (h : (configuration s t target).outcome = .error f) :
    (compiled target).course s t = stopped Failure.isOwn f (configured s t target) := by
  have loaded : (loadConfig target.config).course s t =
      stopped Failure.isOwn f (configured s t target) := by
    rw [course_loadConfig, course_expect_logged_error h, configured]
  exact course_bind_stopped loaded

theorem course_compiled_of_missing {c : Config}
    (h : (configuration s t target).outcome = .ok c)
    (missing : sourceOf c (configured s t target).files target = none) :
    (compiled target).course s t = (.error (.exit 1), (configured s t target).complained
      s!"Error: file not found: {(Path.ofString target.name).text}") := by
  unfold compiled
  rw [course_bind_ok (course_loadConfig_ok h)]
  dsimp only
  rw [course_bind_ok course_get]
  unfold sourceOf at missing
  dsimp only at missing
  split at missing
  · split at missing
    · cases missing
    · rename_i path absent
      rw [if_pos path, if_neg absent]
      rfl
  · cases missing

theorem course_compiled_of_source {c : Config} {x : Logged Feature}
    (h : (configuration s t target).outcome = .ok c)
    (found : sourceOf c (configured s t target).files target = some x) :
    (compiled target).course s t =
      (logged x >>= expect Failure.isOwn).course s (configured s t target) := by
  unfold compiled
  rw [course_bind_ok (course_loadConfig_ok h)]
  dsimp only
  rw [course_bind_ok course_get]
  unfold sourceOf at found
  dsimp only at found
  split at found
  · split at found
    · rename_i path present
      rw [if_pos path, if_pos present, Option.some.inj found]
    · cases found
  · rename_i name
    rw [if_neg name, Option.some.inj found]

end

end FeatureSpec.Command
