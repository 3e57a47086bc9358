import FeatureSpec.Session
/-!
What one load does. The requests are made in order and no further than the first failure; the
session afterwards depends on their outcome and on whether the store is closed.
-/
namespace FeatureSpec

inductive Stage where
  | backend
  | frontend
  | mappings
  deriving DecidableEq, Repr

def Stage.all : List Stage := [.backend, .frontend, .mappings]

/-- A request that was made, what occurred in it, and why it failed, if it did. -/
structure Attempt where
  stage : Stage
  occurred : Trace
  failure? : Option Failure := none

/-- The requests that a load came to make, and how they ended. -/
structure Course where
  made : List Attempt
  outcome : Except Failure Replies

namespace Course

def stages (c : Course) : List Stage := c.made.map Attempt.stage

def trace (c : Course) : Trace := c.made.flatMap Attempt.occurred

/-- A course ends with all of the replies, or at the first request that failed. -/
def Ended (c : Course) : Prop :=
  match c.outcome with
  | .ok _ => c.stages = Stage.all ∧ ∀ a ∈ c.made, a.failure? = none
  | .error f => ∃ earlier last, c.made = earlier ++ [last] ∧ last.failure? = some f ∧
      ∀ a ∈ earlier, a.failure? = none

end Course

/-- The entry of replies that are all of the right kinds. -/
def Replies.entry (r : Replies) (feature : String) : Except Failure StoreEntry := do
  let mappings ← r.mappings.expect "mappings"
  let frontend ← r.frontend.expect "version"
  return StoreEntry.compose feature r.backend frontend mappings

def Course.entry (c : Course) (feature : String) : Except Failure StoreEntry :=
  c.outcome.bind (·.entry feature)

def LoadSteps.course (steps : LoadSteps) (w : World) (past : Trace) : Course :=
  let b := steps.backend w past
  match b.outcome with
  | .error f => ⟨[⟨.backend, b.trace, some f⟩], .error f⟩
  | .ok backend =>
    let r := steps.frontend w (past ++ b.trace)
    match r.outcome with
    | .error f => ⟨[⟨.backend, b.trace, none⟩, ⟨.frontend, r.trace, some f⟩], .error f⟩
    | .ok frontend =>
      let m := steps.mappings w (past ++ b.trace ++ r.trace)
      match m.outcome with
      | .error f =>
        ⟨[⟨.backend, b.trace, none⟩, ⟨.frontend, r.trace, none⟩, ⟨.mappings, m.trace, some f⟩],
          .error f⟩
      | .ok mappings =>
        ⟨[⟨.backend, b.trace, none⟩, ⟨.frontend, r.trace, none⟩, ⟨.mappings, m.trace, none⟩],
          .ok ⟨backend, frontend, mappings⟩⟩

theorem course_stages_prefix (steps : LoadSteps) (w : World) (past : Trace) :
    (steps.course w past).stages <+: Stage.all := by
  unfold LoadSteps.course
  dsimp only
  split
  · exact ⟨[.frontend, .mappings], rfl⟩
  · split
    · exact ⟨[.mappings], rfl⟩
    · split <;> exact ⟨[], rfl⟩

theorem course_ended (steps : LoadSteps) (w : World) (past : Trace) :
    (steps.course w past).Ended := by
  unfold LoadSteps.course
  dsimp only
  split
  · exact ⟨[], _, rfl, rfl, by simp⟩
  · split
    · exact ⟨[_], _, rfl, rfl, by simp⟩
    · split
      · exact ⟨[_, _], _, rfl, rfl, by simp⟩
      · exact ⟨rfl, by simp⟩

theorem replies_eq_course (steps : LoadSteps) (w : World) (past : Trace) :
    steps.replies w past = ⟨(steps.course w past).trace, (steps.course w past).outcome⟩ := by
  unfold LoadSteps.replies LoadSteps.course
  rcases hb : steps.backend w past with ⟨bt, f | backend⟩
  · rw [Run.bind_of_error hb]
    simp [Course.trace]
  rw [Run.bind_of_ok hb]
  rcases hf : steps.frontend w (past ++ bt) with ⟨ft, f | frontend⟩
  · rw [Run.bind_of_error hf]
    simp [Course.trace, hf]
  rw [Run.bind_of_ok hf]
  rcases hm : steps.mappings w (past ++ bt ++ ft) with ⟨mt, f | mappings⟩
  · rw [Run.bind_of_error hm]
    simp only [hf, hm]
    simp [Course.trace]
  · rw [Run.bind_of_ok hm]
    simp only [hf, hm]
    simp [Course.trace, Run.pure_apply]

theorem course_of_ok {steps : LoadSteps} {w : World} {past bt rt mt : Trace} {b : Backend}
    {r : Answer FrontendReply} {m : Answer MappingsReply}
    (backend : steps.backend w past = ⟨bt, .ok b⟩)
    (frontend : steps.frontend w (past ++ bt) = ⟨rt, .ok r⟩)
    (mappings : steps.mappings w (past ++ bt ++ rt) = ⟨mt, .ok m⟩) :
    (steps.course w past).outcome = .ok ⟨b, r, m⟩ := by
  simp only [LoadSteps.course, backend, frontend, mappings]

/-- Making an entry only logs. -/
theorem ofReplies_eq (feature : String) (replies : Replies) (w : World) (past : Trace) :
    ∃ records : List Log.Record, StoreEntry.ofReplies feature replies w past =
      ⟨records.map .record, replies.entry feature⟩ := by
  unfold StoreEntry.ofReplies Replies.entry
  cases hm : replies.mappings.expect "mappings" with
  | error f => exact ⟨[], Run.bind_of_error rfl⟩
  | ok mappings =>
    refine ⟨MappingTable.repetitions [] mappings.mappings, ?_⟩
    rw [Run.bind_of_ok rfl, Run.bind_of_ok rfl]
    cases hf : replies.frontend.expect "version" with
    | error f =>
      rw [Run.bind_of_error rfl]
      simp [bind, Except.bind]
    | ok frontend =>
      rw [Run.bind_of_ok rfl]
      simp [bind, Except.bind, pure, Except.pure]

namespace Session

/-- The store with an entry written to it, and the definition in the entry. -/
def kept (s : Session) (entry : StoreEntry) : Except Failure (Store × Feature) :=
  (s.store.replace s.feature entry).map fun store => (store, entry.definition)

theorem fetchInto_eq (s : Session) (steps : LoadSteps) (w : World) (past : Trace) :
    ∃ records : List Log.Record, s.fetchInto steps w past =
      ⟨(steps.course w past).trace ++ records.map .record,
        ((steps.course w past).entry s.feature).bind s.kept⟩ := by
  have requests := replies_eq_course steps w past
  unfold fetchInto Course.entry kept
  rcases hc : (steps.course w past).outcome with f | replies
  · rw [hc] at requests
    exact ⟨[], by rw [Run.bind_of_error requests]; simp [Except.bind]⟩
  rw [hc] at requests
  rw [Run.bind_of_ok requests]
  obtain ⟨logged, made⟩ :=
    ofReplies_eq s.feature replies w (past ++ (steps.course w past).trace)
  -- From here on only records are made.
  rcases he : replies.entry s.feature with f | entry
  · rw [he] at made
    exact ⟨logged, by rw [Run.bind_of_error made]; simp [Except.bind, he]⟩
  rw [he] at made
  rw [Run.bind_of_ok made]
  rcases hs : s.store.replace s.feature entry with f | store
  · refine ⟨logged, ?_⟩
    rw [Run.bind_of_error rfl]
    simp [Except.bind, Except.map, he, hs]
  · refine ⟨logged ++ [Log.note Log.debug .store s!"Stored definition for feature {s.feature}"], ?_⟩
    rw [Run.bind_of_ok rfl, Run.log_bind]
    simp [Except.bind, Except.map, he, hs, Run.pure_apply]

def failedBy (s : Session) (f : Failure) : Session :=
  { s with state := .failed, error := some f }

def loadedWith (s : Session) (entry : StoreEntry) : Session :=
  { s with
    store := { s.store with entries := s.store.entries.put s.feature entry }
    state := .loaded
    revision := s.revision + 1
    error := none }

/-- The session after a load whose requests came to this. -/
def after (s : Session) : Except Failure StoreEntry → Session
  | .error f => s.failedBy f
  | .ok entry => if s.store.closed then s.failedBy (.state .storeClosed) else s.loadedWith entry

theorem after_of_closed {s : Session} (closed : s.store.closed = true) (entry : StoreEntry) :
    s.after (.ok entry) = s.failedBy (.state .storeClosed) := by
  simp [after, closed]

theorem after_of_opened {s : Session} (opened : s.store.closed = false) (entry : StoreEntry) :
    s.after (.ok entry) = s.loadedWith entry := by
  simp [after, opened]

theorem after_of_error {s : Session} {e : Except Failure StoreEntry} {f : Failure}
    (h : e.bind s.kept = .error f) : s.after e = s.failedBy f := by
  cases e with
  | error g =>
    cases h
    rfl
  | ok entry =>
    by_cases closed : s.store.closed = true <;>
      simp [kept, Store.replace, Store.write, closed, Except.bind, Except.map] at h
    simp [after, closed, h]

theorem after_of_ok {s : Session} {e : Except Failure StoreEntry} {store : Store} {d : Feature}
    (h : e.bind s.kept = .ok (store, d)) :
    s.after e = { s with store, state := .loaded, revision := s.revision + 1, error := none } := by
  cases e with
  | error g => cases h
  | ok entry =>
    by_cases closed : s.store.closed = true <;>
      simp [kept, Store.replace, Store.write, closed, Except.bind, Except.map] at h
    simp [after, closed, loadedWith, h.1]

/-- A load announces itself, makes the requests of its course and no others, and then only logs.
It never fails. -/
theorem loadBy_eq (s : Session) (steps : LoadSteps) (w : World) (past : Trace) :
    let course := steps.course w (past ++ [.record s.loadingRecord])
    ∃ records : List Log.Record, s.loadBy steps w past =
      ⟨.record s.loadingRecord :: course.trace ++ records.map .record,
        .ok (s.after (course.entry s.feature))⟩ := by
  intro course
  obtain ⟨logged, fetched⟩ := s.fetchInto_eq steps w (past ++ [.record s.loadingRecord])
  unfold loadBy
  rw [Run.log_bind, Run.attempt_bind, fetched]
  rcases hk : (course.entry s.feature).bind s.kept with f | ⟨store, definition⟩
  · rw [after_of_error hk]
    refine ⟨logged ++ [Log.note Log.warning .machine
      s!"Loading feature {s.feature} failed: {f.message}"], ?_⟩
    simp [Run.log_bind, Run.pure_apply, course, failedBy]
  · rw [after_of_ok hk]
    refine ⟨logged ++ [Log.note Log.info .machine
      s!"Loaded feature {s.feature} revision {s.revision + 1}: {definition.stats.toJson.shown}"],
      ?_⟩
    simp [Run.log_bind, Run.pure_apply, course]

/-- Replies of the right kinds are put into an open store. -/
theorem loadBy_of_replies {s : Session} {steps : LoadSteps} {w : World} {past : Trace}
    {b : Backend} {r : FrontendReply} {m : MappingsReply} (opened : s.store.closed = false)
    (replied : (steps.course w (past ++ [.record s.loadingRecord])).outcome =
      .ok ⟨b, .proper r, .proper m⟩) :
    ∃ t, s.loadBy steps w past =
      ⟨t, .ok (s.loadedWith (StoreEntry.compose s.feature b r m))⟩ := by
  obtain ⟨records, ran⟩ := s.loadBy_eq steps w past
  have composed : (steps.course w (past ++ [.record s.loadingRecord])).entry s.feature =
      .ok (StoreEntry.compose s.feature b r m) := by
    rw [Course.entry, replied]
    rfl
  rw [composed, after_of_opened opened] at ran
  exact ⟨_, ran⟩

theorem loadBy_of_failure {s : Session} {steps : LoadSteps} {w : World} {past : Trace}
    {f : Failure}
    (failed : (steps.course w (past ++ [.record s.loadingRecord])).outcome = .error f) :
    ∃ t, s.loadBy steps w past = ⟨t, .ok (s.failedBy f)⟩ := by
  obtain ⟨records, ran⟩ := s.loadBy_eq steps w past
  rw [Course.entry, failed] at ran
  exact ⟨_, ran⟩

end Session
end FeatureSpec
