import FeatureSpec.Gateway.Trace
import FeatureSpec.Logged
/-!
Runs: computations in a world. A run is given what has occurred before it, and tells what
occurs in it and how it ends.
-/
namespace FeatureSpec

structure Ran (α : Type) where
  trace : Trace
  outcome : Except Failure α

def Run (α : Type) := World → Trace → Ran α

namespace Run

variable {α β γ : Type}

instance : Monad Run where
  pure a := fun _ _ => ⟨[], .ok a⟩
  bind x f := fun w past =>
    let r := x w past
    match r.outcome with
    | .ok a =>
      let s := f a w (past ++ r.trace)
      ⟨r.trace ++ s.trace, s.outcome⟩
    | .error e => ⟨r.trace, .error e⟩

def fail (f : Failure) : Run α := fun _ _ => ⟨[], .error f⟩

def ofExcept (e : Except Failure α) : Run α := fun _ _ => ⟨[], e⟩

def log (r : Log.Record) : Run Unit := fun _ _ => ⟨[.record r], .ok ()⟩

def logAll (rs : List Log.Record) : Run Unit := fun _ _ => ⟨rs.map .record, .ok ()⟩

def ofLogged (x : Logged α) : Run α := fun _ _ => ⟨x.records.map .record, x.outcome⟩

def attempt (x : Run α) : Run (Except Failure α) := fun w past =>
  let r := x w past
  ⟨r.trace, .ok r.outcome⟩

def deliver (r : Request) : Run Delivery := fun w past =>
  ⟨[.request r], .ok (w.transport past r)⟩

def hooks : Run Hooks := fun w _ => ⟨[], .ok w.hooks⟩

/-- Calls a hook with an event and waits for its outcome; without a hook nothing occurs, and the
value is `absent`. -/
def call (slot : Slot) (hook : Option (Hook α)) (absent : α) (e : Event) : Run α :=
  fun _ past =>
    match hook with
    | some h => ⟨[.call slot e], (h past e).outcome⟩
    | none => ⟨[], .ok absent⟩

variable {w : World} {past : Trace}

theorem pure_apply (a : α) : (pure a : Run α) w past = ⟨[], .ok a⟩ := rfl

theorem bind_of_ok {x : Run α} {f : α → Run β} {t : Trace} {a : α}
    (h : x w past = ⟨t, .ok a⟩) :
    (x >>= f) w past =
      ⟨t ++ (f a w (past ++ t)).trace, (f a w (past ++ t)).outcome⟩ := by
  show (match (x w past).outcome with
    | .ok a => (⟨(x w past).trace ++ (f a w (past ++ (x w past).trace)).trace,
        (f a w (past ++ (x w past).trace)).outcome⟩ : Ran β)
    | .error e => ⟨(x w past).trace, .error e⟩) = _
  rw [h]

theorem bind_of_error {x : Run α} {f : α → Run β} {t : Trace} {e : Failure}
    (h : x w past = ⟨t, .error e⟩) : (x >>= f) w past = ⟨t, .error e⟩ := by
  show (match (x w past).outcome with
    | .ok a => (⟨(x w past).trace ++ (f a w (past ++ (x w past).trace)).trace,
        (f a w (past ++ (x w past).trace)).outcome⟩ : Ran β)
    | .error e => ⟨(x w past).trace, .error e⟩) = _
  rw [h]

theorem ok_of_bind {x : Run α} {f : α → Run β} {b : β}
    (h : ((x >>= f) w past).outcome = .ok b) :
    ∃ t a, x w past = ⟨t, .ok a⟩ ∧ (f a w (past ++ t)).outcome = .ok b := by
  rcases ran : x w past with ⟨t, e | a⟩
  · rw [bind_of_error ran] at h
    cases h
  · rw [bind_of_ok ran] at h
    exact ⟨t, a, rfl, h⟩

theorem map_apply (f : α → β) (x : Run α) :
    (f <$> x) w past = ⟨(x w past).trace, (x w past).outcome.map f⟩ := by
  rcases ran : x w past with ⟨t, e | a⟩
  · exact bind_of_error ran
  · have went := bind_of_ok (f := fun a => (pure (f a) : Run β)) ran
    rwa [pure_apply, List.append_nil] at went

theorem map_map (g : β → γ) (f : α → β) (x : Run α) :
    g <$> f <$> x = (fun a => g (f a)) <$> x := by
  funext w past
  rw [map_apply, map_apply, map_apply]
  cases (x w past).outcome <;> rfl

theorem outcome_bind_ofExcept (x : Run α) (f : α → Except Failure β) :
    ((x >>= fun a => ofExcept (f a)) w past).outcome = (x w past).outcome.bind f := by
  rcases ran : x w past with ⟨t, e | a⟩
  · rw [bind_of_error ran]
    rfl
  · rw [bind_of_ok ran]
    rfl

theorem log_bind (r : Log.Record) (f : Unit → Run β) :
    (log r >>= f) w past =
      ⟨.record r :: (f () w (past ++ [.record r])).trace,
        (f () w (past ++ [.record r])).outcome⟩ := rfl

theorem hooks_bind (f : Hooks → Run β) : (hooks >>= f) w past = f w.hooks w past := by
  rw [bind_of_ok (x := hooks) (t := []) (a := w.hooks) rfl, List.nil_append, List.append_nil]

theorem attempt_bind (x : Run α) (f : Except Failure α → Run β) :
    (attempt x >>= f) w past =
      ⟨(x w past).trace ++ (f (x w past).outcome w (past ++ (x w past).trace)).trace,
        (f (x w past).outcome w (past ++ (x w past).trace)).outcome⟩ := rfl

end Run
end FeatureSpec
