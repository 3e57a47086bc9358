import FeatureSpec.Proofs.LoadCourse
/-!
Histories of sessions: any sequence of loads and closings of a fresh session. The fields of the
session are a function of the history, however the requests of each load end.
-/
namespace FeatureSpec

inductive Call where
  | load (steps : LoadSteps)
  | close

/-- What is known of a load once it is over. -/
structure LoadReport where
  course : Course
  occurred : Trace
  returned : LoadState

inductive Made where
  | load (report : LoadReport)
  | close

def Call.isClose : Call → Bool
  | .load _ => false
  | .close => true

def Made.isClose : Made → Bool
  | .load _ => false
  | .close => true

/-- The calls that were made, the latest first. -/
abbrev History := List Made

namespace History

def loads : History → List LoadReport
  | [] => []
  | .load report :: earlier => report :: loads earlier
  | .close :: earlier => loads earlier

def wasClosed : History → Bool
  | [] => false
  | .load _ :: earlier => wasClosed earlier
  | .close :: _ => true

/-- Why the last load failed, if it did: its replies, or the store that was closed before it. -/
def failure? (feature : String) : History → Option Failure
  | [] => none
  | .close :: earlier => failure? feature earlier
  | .load report :: earlier =>
    match report.course.entry feature with
    | .error f => some f
    | .ok _ => if wasClosed earlier then some (.state .storeClosed) else none

/-- The entry that the replies to the last load make that was reported as loaded. -/
def lastEntry? (feature : String) (h : History) : Option StoreEntry :=
  (h.loads.find? (·.returned = .loaded)).bind fun report =>
    (report.course.entry feature).toOption

end History

namespace Session

def make (s : Session) (h : History) : Call → Run (Session × History)
  | .load steps => fun w past =>
    let r := s.loadBy steps w past
    let course := steps.course w (past ++ [.record s.loadingRecord])
    ⟨r.trace, r.outcome.map fun s' => (s', .load ⟨course, r.trace, s'.state⟩ :: h)⟩
  | .close => return (s.close, .close :: h)

def makeAll (s : Session) (h : History) : List Call → Run (Session × History)
  | [] => return (s, h)
  | call :: rest => do
    let (s, h) ← s.make h call
    s.makeAll h rest

/-- A report is true to the requests: they were made in order, up to the first that failed, what
occurred in them occurred, and besides that only records; a load is reported as loaded only when
the replies made an entry. -/
structure Faithful (feature : String) (report : LoadReport) : Prop where
  stages : report.course.stages <+: Stage.all
  ended : report.course.Ended
  occurred : ∃ (announced : Log.Record) (logged : List Log.Record),
    report.occurred = .record announced :: report.course.trace ++ logged.map .record
  returned : report.returned = .failed ∨
    report.returned = .loaded ∧ ∃ entry, report.course.entry feature = .ok entry

/-- The fields of a session that has this history. -/
structure Accounts (s : Session) (h : History) : Prop where
  revision : s.revision = h.loads.countP (·.returned = .loaded)
  state : s.state = (h.loads.head?.map LoadReport.returned).getD .uninitialized
  error : s.error = h.failure? s.feature
  error_eq_none : s.error = none ↔ ∀ report, h.loads.head? = some report → report.returned = .loaded
  stored : h.wasClosed = false → s.store.get? s.feature = h.lastEntry? s.feature
  closed : s.store.closed = h.wasClosed
  emptied : h.wasClosed = true → s.store.entries = []
  reports : ∀ report ∈ h.loads, Faithful s.feature report

@[simp] theorem after_feature (s : Session) (e : Except Failure StoreEntry) :
    (s.after e).feature = s.feature := by
  unfold after
  split
  · rfl
  · split <;> rfl

theorem accounts_fresh (feature : String) (gateway : Gateway) :
    Accounts { feature, gateway } [] where
  revision := rfl
  state := rfl
  error := rfl
  error_eq_none := by simp [History.loads]
  stored := fun _ => rfl
  closed := rfl
  emptied := fun h => by cases h
  reports := by simp [History.loads]

theorem accounts_close {s : Session} {h : History} (before : Accounts s h) :
    Accounts s.close (.close :: h) where
  revision := before.revision
  state := before.state
  error := before.error
  error_eq_none := before.error_eq_none
  stored := fun h => by cases h
  closed := rfl
  emptied := fun _ => rfl
  reports := before.reports

/-- A load that fails leaves the store as it was. -/
theorem accounts_failed {s : Session} {h : History} {report : LoadReport} {f : Failure}
    (before : Accounts s h) (failure : History.failure? s.feature (.load report :: h) = some f)
    (returned : report.returned = .failed) (faithful : Faithful s.feature report) :
    Accounts (s.failedBy f) (.load report :: h) where
  revision := by simp [failedBy, History.loads, returned, before.revision]
  state := by simp [failedBy, History.loads, returned]
  error := failure.symm
  error_eq_none := by simp [failedBy, History.loads, returned]
  stored := by
    intro opened
    have kept := before.stored opened
    simpa [failedBy, History.lastEntry?, History.loads, returned] using kept
  closed := before.closed
  emptied := before.emptied
  reports := by simpa [History.loads] using ⟨faithful, before.reports⟩

theorem accounts_loaded {s : Session} {h : History} {report : LoadReport} {entry : StoreEntry}
    (before : Accounts s h) (opened : s.store.closed = false)
    (replies : report.course.entry s.feature = .ok entry)
    (returned : report.returned = .loaded) (faithful : Faithful s.feature report) :
    Accounts (s.loadedWith entry) (.load report :: h) where
  revision := by simp [loadedWith, History.loads, returned, before.revision]
  state := by simp [loadedWith, History.loads, returned]
  error := by
    have never : h.wasClosed = false := before.closed.symm.trans opened
    simp [loadedWith, History.failure?, replies, never]
  error_eq_none := by simp [loadedWith, History.loads, returned]
  stored := by
    intro _
    simp [loadedWith, Store.get?, Entries.get?_put, History.lastEntry?, History.loads, returned,
      replies, Except.toOption]
  closed := before.closed
  emptied := by
    intro closed
    have never : h.wasClosed = false := before.closed.symm.trans opened
    have once : h.wasClosed = true := closed
    rw [never] at once
    cases once
  reports := by simpa [History.loads] using ⟨faithful, before.reports⟩

/-- A load keeps the accounts, whatever its steps come to. -/
theorem accounts_after {s : Session} {h : History} {course : Course} {occurred : Trace}
    (before : Accounts s h)
    (faithful : Faithful s.feature ⟨course, occurred, (s.after (course.entry s.feature)).state⟩) :
    Accounts (s.after (course.entry s.feature))
      (.load ⟨course, occurred, (s.after (course.entry s.feature)).state⟩ :: h) := by
  rcases replies : course.entry s.feature with f | entry
  · rw [replies] at faithful
    exact accounts_failed before (by simp [History.failure?, replies]) rfl faithful
  rw [replies] at faithful
  cases opened : s.store.closed with
  | true =>
    have closed : h.wasClosed = true := before.closed.symm.trans opened
    rw [after_of_closed opened] at faithful ⊢
    exact accounts_failed before (by simp [History.failure?, replies, closed]) rfl faithful
  | false =>
    rw [after_of_opened opened] at faithful ⊢
    exact accounts_loaded before opened replies rfl faithful

theorem after_returned (s : Session) (e : Except Failure StoreEntry) :
    (s.after e).state = .failed ∨ (s.after e).state = .loaded ∧ ∃ entry, e = .ok entry := by
  cases e with
  | error f => exact .inl rfl
  | ok entry =>
    cases closed : s.store.closed with
    | true => exact .inl (by simp [after, closed, failedBy])
    | false => exact .inr ⟨by simp [after, closed, loadedWith], entry, rfl⟩

/-- The step: a call never fails, and keeps the accounts. -/
theorem make_accounts {s : Session} {h : History} (before : Accounts s h) (call : Call)
    (w : World) (past : Trace) :
    ∃ s' made, (s.make h call w past).outcome = .ok (s', made :: h) ∧
      made.isClose = call.isClose ∧ s'.feature = s.feature ∧ Accounts s' (made :: h) := by
  cases call with
  | close => exact ⟨s.close, .close, rfl, rfl, rfl, accounts_close before⟩
  | load steps =>
    obtain ⟨logged, run⟩ := s.loadBy_eq steps w past
    let course := steps.course w (past ++ [.record s.loadingRecord])
    have faithful : Faithful s.feature
        ⟨course, (s.loadBy steps w past).trace, (s.after (course.entry s.feature)).state⟩ :=
      { stages := course_stages_prefix steps w _
        ended := course_ended steps w _
        occurred := ⟨s.loadingRecord, logged, by rw [run]⟩
        returned := after_returned s _ }
    refine ⟨s.after (course.entry s.feature), .load ⟨course, (s.loadBy steps w past).trace,
      (s.after (course.entry s.feature)).state⟩, ?_, rfl, after_feature _ _,
      accounts_after before faithful⟩
    simp [make, run, Except.map, course]

/-- The run: any sequence of calls keeps the accounts. -/
theorem makeAll_accounts {s : Session} {h : History} (before : Accounts s h) (calls : List Call)
    (w : World) (past : Trace) :
    ∃ s' made, (s.makeAll h calls w past).outcome = .ok (s', made ++ h) ∧
      made.reverse.map Made.isClose = calls.map Call.isClose ∧ s'.feature = s.feature ∧
      Accounts s' (made ++ h) := by
  induction calls generalizing s h past with
  | nil => exact ⟨s, [], rfl, rfl, rfl, before⟩
  | cons call rest ih =>
    obtain ⟨s₁, first, ran, same, named, accounts⟩ := make_accounts before call w past
    rcases run : s.make h call w past with ⟨t, outcome⟩
    rw [run] at ran
    dsimp only at ran
    subst ran
    obtain ⟨s₂, more, ran', same', named', accounts'⟩ := ih accounts (past ++ t)
    refine ⟨s₂, more ++ [first], ?_, ?_, named'.trans named, ?_⟩
    · rw [makeAll, Run.bind_of_ok run]
      simpa using ran'
    · simp [same, same']
    · simpa using accounts'

/-- After any sequence of loads and closings of a fresh session, none of which ever fails itself,
the session accounts for its history: the loads that were reported as loaded are counted, the
state is that of the last load, the error is why it failed, and until the session is closed the
store holds what the last successful load got. -/
theorem fresh_session_accounts (feature : String) (gateway : Gateway) (calls : List Call)
    (w : World) (past : Trace) :
    ∃ s h, (makeAll { feature, gateway } [] calls w past).outcome = .ok (s, h) ∧
      h.reverse.map Made.isClose = calls.map Call.isClose ∧ s.feature = feature ∧
      Accounts s h := by
  obtain ⟨s, made, ran, same, named, accounts⟩ :=
    makeAll_accounts (accounts_fresh feature gateway) calls w past
  rw [List.append_nil] at ran accounts
  exact ⟨s, made, ran, same, named, accounts⟩

end Session
end FeatureSpec
