import FeatureSpec.Proofs.LiveOperation
/-!
A gateway to a bundle is a closed world: what the bundle has is given as it is, what it lacks is
reported to the error hook and refused, and nothing else is ever called or requested.
-/
namespace FeatureSpec

open Trace

inductive Ask where
  | backend (feature : String)
  | frontend (feature : String)
  | mappings (feature : String)
  | query (feature id : String) (params : Entries Json)
  | action (feature id : String) (params : Entries Json)
  deriving DecidableEq, Repr

inductive Given where
  | backend (b : Backend)
  | frontend (answer : Answer FrontendReply)
  | mappings (answer : Answer MappingsReply)
  | query (answer : Answer QueryReply)
  | action (answer : Answer ActionReply)
  deriving DecidableEq, Repr

namespace Ask

def perform (g : Gateway) : Ask → Run Given
  | .backend feature => .backend <$> g.loadBackend feature
  | .frontend feature => .frontend <$> g.loadFrontend feature
  | .mappings feature => .mappings <$> g.loadMappings feature
  | .query feature id params => .query <$> g.executeQuery feature id params
  | .action feature id params => .action <$> g.executeAction feature id params

/-- One after another, whether they fail or not. -/
def performAll (g : Gateway) : List Ask → Run (List (Except Failure Given))
  | [] => return []
  | ask :: rest => do
    let outcome ← Run.attempt (ask.perform g)
    let outcomes ← performAll g rest
    return outcome :: outcomes

def entry? (b : Bundle) : Ask → Option Given
  | .backend _ => b.backend.map .backend
  | .frontend _ => b.frontend.map fun r => .frontend (.proper r)
  | .mappings _ => b.mappings.map fun r => .mappings (.proper r)
  | .query _ id _ => (b.queries.get? id).map fun r => .query (.proper r)
  | .action _ id _ => (b.actions.get? id).map fun r => .action (.proper r)

def absence (kind ref : String) : Failure :=
  .reference kind ref s!"Mock bundle has no {kind} entry for '{ref}'"

/-- What the error hook is told where there is no entry. -/
def missed : Ask → ErrorEvent
  | .backend feature => { error := absence "backend info" feature, kind := .feature, feature }
  | .frontend feature =>
    { error := absence "frontend elements" feature, kind := .feature, feature }
  | .mappings feature => { error := absence "mappings" feature, kind := .mappings, feature }
  | .query feature id _ =>
    { error := absence "query" id, kind := .query, feature, query := some id }
  | .action feature id _ =>
    { error := absence "action" id, kind := .action, feature, action := some id }

def outcome (b : Bundle) (ask : Ask) : Except Failure Given :=
  match ask.entry? b with
  | some given => .ok given
  | none => .error ask.missed.error

/-- Which hooks are called, and with what: none where there is an entry, and the error hook, if it
is there, where there is none. -/
def heard (hooks : Hooks) (b : Bundle) (ask : Ask) : List (Slot × Event) :=
  match ask.entry? b with
  | some _ => []
  | none => if hooks.onError.isSome then [(.onError, .failed ask.missed)] else []

end Ask

namespace Gateway

variable {α : Type} {w : World} {past : Trace} {b : Bundle}

theorem notFound_eq_absence (kind ref : String) :
    Failure.notFound kind ref s!"Mock bundle has no {kind} entry for '{ref}'" =
      Ask.absence kind ref := by
  have worded : s!"Mock bundle has no {kind} entry for '{ref}'" ≠ "" := by
    intro empty
    have opening : toString "Mock bundle has no " = "" := by
      simp only [String.append_eq_empty_iff] at empty
      exact empty.1.1.1.1
    exact absurd opening (by decide)
  rw [Failure.notFound, if_neg worded, Ask.absence]

/-- A missing entry is reported once, and its failure is the outcome whatever the hook does. -/
theorem entry_of_none (kind ref : String) (event : Failure → ErrorEvent) :
    ∃ t, (entry none kind ref event : Run α) w past = ⟨t, .error (Ask.absence kind ref)⟩ ∧
      OnlyCalls (called .onError w.hooks.onError (.failed (event (Ask.absence kind ref)))) t := by
  have failed : (Run.fail (Ask.absence kind ref) : Run α) w past =
      ⟨[], .error (Ask.absence kind ref)⟩ := rfl
  obtain ⟨closing, reported, only⟩ := reporting_of_error event failed
  unfold entry
  dsimp only
  rw [notFound_eq_absence]
  exact ⟨closing, reported, only⟩

/-- What is asked comes to what the bundle has, and the hooks that are called are those that have
to hear of it. -/
structure Closed (b : Bundle) (w : World) (ask : Ask) (r : Ran Given) : Prop where
  outcome : r.outcome = ask.outcome b
  calls : r.trace.calls = ask.heard w.hooks b
  requests : r.trace.requests = []

/-- An entry of a bundle is looked up in the same way, whatever it is an entry for. -/
theorem closed_of_entry {ask : Ask} {value : Option α} {give : α → Given} {kind ref : String}
    (event : Failure → ErrorEvent) (found : ask.entry? b = value.map give)
    (told : event (Ask.absence kind ref) = ask.missed)
    (named : ask.missed.error = Ask.absence kind ref)
    (same : ask.perform (.canned b) = give <$> entry value kind ref event) :
    Closed b w ask (ask.perform (.canned b) w past) := by
  rw [same, Run.map_apply]
  cases value with
  | some a =>
    have given : ask.entry? b = some (give a) := found
    refine ⟨?_, ?_, rfl⟩
    · rw [Ask.outcome, given]
      rfl
    · rw [Ask.heard, given]
      rfl
  | none =>
    have absent : ask.entry? b = none := found
    obtain ⟨t, refused, only⟩ :=
      @entry_of_none α w past kind ref event
    rw [refused]
    refine ⟨?_, ?_, only.requests⟩
    · rw [Ask.outcome, absent, named]
      rfl
    · rw [Ask.heard, absent, only.calls, told, called]
      dsimp only
      split <;> rfl

/-- The step: one operation, after whatever has occurred. -/
theorem closed_perform (b : Bundle) (w : World) (past : Trace) (ask : Ask) :
    Closed b w ask (ask.perform (.canned b) w past) := by
  cases ask with
  | backend feature =>
    exact closed_of_entry (backendEvent feature) rfl rfl rfl rfl
  | frontend feature =>
    exact closed_of_entry (Operation.frontend feature).errorEvent rfl rfl rfl
      (Run.map_map _ _ _)
  | mappings feature =>
    exact closed_of_entry (Operation.mappings feature).errorEvent rfl rfl rfl
      (Run.map_map _ _ _)
  | query feature id params =>
    exact closed_of_entry (Operation.query feature id params).errorEvent rfl rfl rfl
      (Run.map_map _ _ _)
  | action feature id params =>
    exact closed_of_entry (Operation.action feature id params).errorEvent rfl rfl rfl
      (Run.map_map _ _ _)

/-- The run: each operation comes to what it comes to alone. -/
theorem closed_performAll (b : Bundle) (w : World) (past : Trace) (asks : List Ask) :
    ∃ t, Ask.performAll (.canned b) asks w past = ⟨t, .ok (asks.map (Ask.outcome b))⟩ ∧
      t.calls = asks.flatMap (Ask.heard w.hooks b) ∧ t.requests = [] := by
  induction asks generalizing past with
  | nil => exact ⟨[], rfl, rfl, rfl⟩
  | cons ask rest ih =>
    have first := closed_perform b w past ask
    rcases ran : ask.perform (.canned b) w past with ⟨t, outcome⟩
    rw [ran] at first
    obtain ⟨u, later, calls, requests⟩ := ih (past ++ t)
    refine ⟨t ++ u, ?_, ?_, ?_⟩
    · rw [Ask.performAll, Run.attempt_bind, ran, Run.bind_of_ok later, List.map_cons,
        ← first.outcome]
      simp [Run.pure_apply]
    · rw [calls_append, first.calls, calls, List.flatMap_cons]
    · rw [requests_append, first.requests, requests, List.append_nil]

/-- A gateway that is made of a bundle, with a client beside it or without one, gives what the
bundle has, whatever features, parameters and earlier operations there are. What the bundle lacks
is a failure, of which the error hook hears once and which it cannot change; no other hook is ever
called, and nothing is requested. -/
theorem closed_world (client : Option Client) (b : Bundle) (w : World) (past : Trace)
    (asks : List Ask) :
    ∃ g t, make client (some b) = .ok g ∧ g.close = g ∧
      Ask.performAll g asks w past = ⟨t, .ok (asks.map (Ask.outcome b))⟩ ∧
      t.calls = asks.flatMap (Ask.heard w.hooks b) ∧ t.requests = [] := by
  obtain ⟨t, ran, calls, requests⟩ := closed_performAll b w past asks
  exact ⟨.canned b, t, rfl, rfl, ran, calls, requests⟩

end Gateway
end FeatureSpec
