import FeatureSpec.Gateway.Basic
/-!
What can be observed of a live operation: which hooks are called, with which events, in which
order, and what the caller gets, whatever the hooks and the client come to.
-/
namespace FeatureSpec

namespace Trace

def calls : Trace → List (Slot × Event)
  | [] => []
  | .call slot e :: rest => (slot, e) :: calls rest
  | _ :: rest => calls rest

def requests : Trace → List Request
  | [] => []
  | .request r :: rest => r :: requests rest
  | _ :: rest => requests rest

theorem calls_append (t u : Trace) : calls (t ++ u) = calls t ++ calls u := by
  induction t with
  | nil => rfl
  | cons o t ih => cases o <;> simp [calls, ih]

theorem requests_append (t u : Trace) : requests (t ++ u) = requests t ++ requests u := by
  induction t with
  | nil => rfl
  | cons o t ih => cases o <;> simp [requests, ih]

end Trace

open Trace

/-- What one call of a hook leaves, if there is a hook. -/
def called {α : Type} (slot : Slot) (hook : Option (Hook α)) (e : Event) : Trace :=
  if hook.isSome then [.call slot e] else []

/-- How one call of a hook ends; `absent` without a hook. -/
def reaction {α : Type} (hook : Option (Hook α)) (absent : α) (past : Trace) (e : Event) :
    Except Failure α :=
  match hook with
  | some h => (h past e).outcome
  | none => .ok absent

theorem call_eq {α : Type} (slot : Slot) (hook : Option (Hook α)) (absent : α) (e : Event)
    (w : World) (past : Trace) :
    Run.call slot hook absent e w past = ⟨called slot hook e, reaction hook absent past e⟩ := by
  cases hook <;> rfl

/-- A part of a trace in which, besides records, only these hooks were called. -/
structure OnlyCalls (hooks : Trace) (t : Trace) : Prop where
  calls : Trace.calls t = Trace.calls hooks
  requests : Trace.requests t = []

theorem onlyCalls_called {α : Type} (slot : Slot) (hook : Option (Hook α)) (e : Event) :
    OnlyCalls (called slot hook e) (called slot hook e) := by
  refine ⟨rfl, ?_⟩
  unfold called
  split <;> rfl

theorem onlyCalls_record {hooks t : Trace} (r : Log.Record) (h : OnlyCalls hooks t) :
    OnlyCalls hooks (.record r :: t) := ⟨h.calls, h.requests⟩

theorem onlyCalls_called_record {α : Type} (slot : Slot) (hook : Option (Hook α)) (e : Event)
    (r : Log.Record) : OnlyCalls (called slot hook e) (called slot hook e ++ [.record r]) := by
  unfold called
  split <;> exact ⟨rfl, rfl⟩

namespace Gateway

variable {α : Type} {w : World} {past : Trace}

theorem tell_eq (slot : Slot) (hook : Option (Hook Unit)) (e : Event)
    (complaint : Failure → String) (w : World) (past : Trace) :
    ∃ t, tell slot hook e complaint w past = ⟨t, .ok ()⟩ ∧ OnlyCalls (called slot hook e) t := by
  unfold tell
  rw [Run.attempt_bind, call_eq]
  rcases reaction hook () past e with f | ⟨⟩
  · exact ⟨_, rfl, onlyCalls_called_record _ _ _ _⟩
  · refine ⟨called slot hook e ++ [], rfl, ?_⟩
    rw [List.append_nil]
    exact onlyCalls_called _ _ _

/-- The error hook is called once, and its own failure goes no further. -/
theorem report_eq (e : ErrorEvent) (w : World) (past : Trace) :
    ∃ t, report e w past = ⟨t, .ok ()⟩ ∧
      OnlyCalls (called .onError w.hooks.onError (.failed e)) t := by
  unfold report
  rw [Run.log_bind, Run.hooks_bind]
  obtain ⟨t, told, only⟩ := tell_eq .onError w.hooks.onError (.failed e) _ w _
  rw [told]
  exact ⟨_, rfl, onlyCalls_record _ only⟩

theorem reporting_of_ok {event : Failure → ErrorEvent} {x : Run α} {t : Trace} {a : α}
    (h : x w past = ⟨t, .ok a⟩) : reporting event x w past = ⟨t, .ok a⟩ := by
  unfold reporting
  rw [Run.attempt_bind, h]
  simp [Run.pure_apply]

/-- A failure is reported once and passed on as it is. -/
theorem reporting_of_error (event : Failure → ErrorEvent) {x : Run α} {t : Trace} {f : Failure}
    (h : x w past = ⟨t, .error f⟩) :
    ∃ closing, reporting event x w past = ⟨t ++ closing, .error f⟩ ∧
      OnlyCalls (called .onError w.hooks.onError (.failed (event f))) closing := by
  obtain ⟨closing, reported, only⟩ := report_eq (event f) w (past ++ t)
  refine ⟨closing, ?_, only⟩
  unfold reporting
  rw [Run.attempt_bind, h]
  dsimp only
  rw [Run.bind_of_ok reported]
  simp [Run.fail]

/-- The after-hook is called once, and its failure goes no further. -/
theorem inform_eq (op : Operation α) (a : Answer α) (w : World) (past : Trace) :
    ∃ t, inform op a w past = ⟨t, .ok ()⟩ ∧
      OnlyCalls (called op.afterSlot (op.afterHook w.hooks) (op.afterEvent a)) t := by
  unfold inform
  rw [Run.hooks_bind]
  exact tell_eq _ _ _ _ _ _

def asked (op : Operation α) (w : World) : Trace :=
  called op.beforeSlot (op.beforeHook w.hooks) op.beforeEvent

/-- How the before-hook reacts; none where there is none. -/
def objection (op : Operation α) (w : World) (past : Trace) :
    Except Failure (Option (Answer α)) :=
  reaction (op.beforeHook w.hooks) none past op.beforeEvent

theorem call_before (op : Operation α) (w : World) (past : Trace) :
    Run.call op.beforeSlot (op.beforeHook w.hooks) none op.beforeEvent w past =
      ⟨asked op w, objection op w past⟩ :=
  call_eq _ _ _ _ _ _

theorem answer_of_none {op : Operation α} (call : Run α) (h : objection op w past = .ok none) :
    answer op call w past =
      ⟨asked op w ++ (call w (past ++ asked op w)).trace,
        (call w (past ++ asked op w)).outcome.map .proper⟩ := by
  have before := call_before op w past
  rw [h] at before
  unfold answer
  rw [Run.hooks_bind, Run.bind_of_ok before]
  dsimp only
  rcases hc : call w (past ++ asked op w) with ⟨t, f | a⟩
  · rw [Run.bind_of_error hc]
    rfl
  · rw [Run.bind_of_ok hc]
    simp [Run.pure_apply, Except.map]

theorem dispatch_of_ok {op : Operation α} {call : Run α} {t : Trace} {a : Answer α}
    (h : answer op call w past = ⟨t, .ok a⟩) :
    ∃ closing, dispatch op call w past = ⟨t ++ closing, .ok a⟩ ∧
      OnlyCalls (called op.afterSlot (op.afterHook w.hooks) (op.afterEvent a)) closing := by
  obtain ⟨closing, told, only⟩ := inform_eq op a w (past ++ t)
  refine ⟨closing, ?_, only⟩
  unfold dispatch
  rw [Run.bind_of_ok (reporting_of_ok h), Run.bind_of_ok told]
  simp [Run.pure_apply]

theorem dispatch_of_error {op : Operation α} {call : Run α} {t : Trace} {f : Failure}
    (h : answer op call w past = ⟨t, .error f⟩) :
    ∃ closing, dispatch op call w past = ⟨t ++ closing, .error f⟩ ∧
      OnlyCalls (called .onError w.hooks.onError (.failed (op.errorEvent f))) closing := by
  obtain ⟨closing, reported, only⟩ := reporting_of_error op.errorEvent h
  exact ⟨closing, Run.bind_of_error reported, only⟩

def announced (op : Operation α) : Occurrence :=
  .record (Log.note Log.debug .gateway op.announcement)

/-- How an operation goes on once an answer is there: the after-hook sees it and the caller gets
it, whatever the hook does with it. -/
structure Answered (op : Operation α) (w : World) (opening : Trace) (a : Answer α)
    (r : Ran (Answer α)) : Prop where
  outcome : r.outcome = .ok a
  trace : ∃ closing, r.trace = opening ++ closing ∧
    OnlyCalls (called op.afterSlot (op.afterHook w.hooks) (op.afterEvent a)) closing

end Gateway
end FeatureSpec
