import FeatureSpec.Failure
import FeatureSpec.Log.Record
/-!
Outcomes with the log records made on the way to them, in order.
-/
namespace FeatureSpec

structure Logged (α : Type) where
  records : List Log.Record
  outcome : Except Failure α

namespace Logged

variable {α β : Type}

def log (r : Log.Record) : Logged Unit := ⟨[r], .ok ()⟩

def fail (f : Failure) : Logged α := ⟨[], .error f⟩

def ofExcept (e : Except Failure α) : Logged α := ⟨[], e⟩

instance : Monad Logged where
  pure a := ⟨[], .ok a⟩
  bind x f :=
    match x.outcome with
    | .ok a => ⟨x.records ++ (f a).records, (f a).outcome⟩
    | .error e => ⟨x.records, .error e⟩

theorem bind_of_ok {x : Logged α} {f : α → Logged β} {a : α} (h : x.outcome = .ok a) :
    x >>= f = ⟨x.records ++ (f a).records, (f a).outcome⟩ := by
  show (match x.outcome with
    | .ok a => (⟨x.records ++ (f a).records, (f a).outcome⟩ : Logged β)
    | .error e => ⟨x.records, .error e⟩) = _
  rw [h]

theorem bind_of_error {x : Logged α} {f : α → Logged β} {e : Failure}
    (h : x.outcome = .error e) : x >>= f = ⟨x.records, .error e⟩ := by
  show (match x.outcome with
    | .ok a => (⟨x.records ++ (f a).records, (f a).outcome⟩ : Logged β)
    | .error e => ⟨x.records, .error e⟩) = _
  rw [h]

theorem outcome_bind (x : Logged α) (f : α → Logged β) :
    (x >>= f).outcome = x.outcome >>= fun a => (f a).outcome := by
  cases came : x.outcome with
  | ok a => rw [bind_of_ok came]; rfl
  | error e => rw [bind_of_error came]; rfl

theorem ok_of_bind {x : Logged α} {f : α → Logged β} {b : β} (h : (x >>= f).outcome = .ok b) :
    ∃ a, x.outcome = .ok a ∧ (f a).outcome = .ok b := by
  cases came : x.outcome with
  | error e =>
    rw [bind_of_error came] at h
    cases h
  | ok a =>
    rw [bind_of_ok came] at h
    exact ⟨a, rfl, h⟩

end Logged
end FeatureSpec
