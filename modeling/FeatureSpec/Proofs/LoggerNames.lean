import FeatureSpec.Log.Loggers
import FeatureSpec.Proofs.LogFiles
import Mathlib.Data.List.Chain
/-!
What comes to the handlers of the library: the records of its top logger and of the loggers below
it, which for names without two dots in a row are those that start with the name of the top one and
a dot. A run of calls writes to the log file what the calls among them do that come there.
-/
namespace FeatureSpec.Log

/-! ### Loggers above one another -/

/-- No dot follows a dot. -/
def Undoubled (cs : List Char) : Prop := cs.IsChain fun a b => a = '.' → b ≠ '.'

instance (cs : List Char) : Decidable (Undoubled cs) :=
  inferInstanceAs (Decidable (cs.IsChain fun a b => a = '.' → b ≠ '.'))

variable {loggers : List String}

theorem dot_suffix_cons {top rest : List Char} {c : Char} :
    '.' :: top <:+ c :: rest ↔ (c = '.' ∧ top = rest) ∨ '.' :: top <:+ rest := by
  rw [List.suffix_cons_iff, List.cons.injEq, eq_comm (a := '.')]

/-- A logger that there is is above those whose names go on from its own after a dot. -/
theorem mem_loggersAbove_iff {top : List Char} (known : String.ofList top.reverse ∈ loggers)
    (named : top ≠ []) {cs : List Char} (undoubled : Undoubled cs) :
    String.ofList top.reverse ∈ loggersAbove loggers cs ↔ '.' :: top <:+ cs := by
  fun_induction loggersAbove loggers cs with
  | case1 c rest name found ih =>
    have same : String.ofList top.reverse = name ↔ top = c :: rest := by
      rw [String.ofList_inj, List.reverse_inj]
    simp only [List.mem_cons, same, ih undoubled.tail, dot_suffix_cons (c := '.'), true_and]
  | case2 c rest name unfound ih =>
    have apart : top ≠ c :: rest := by
      rintro rfl
      exact unfound (List.contains_iff_mem.mpr known)
    have plain : c ≠ '.' := (List.isChain_cons_cons.mp undoubled).1 rfl
    simp only [ih undoubled.tail.tail, dot_suffix_cons, apart, plain, and_false, false_and, false_or]
  | case3 c rest other ih =>
    have apart : ¬(c = '.' ∧ top = rest) := by
      rintro ⟨rfl, rfl⟩
      obtain ⟨first, more, rfl⟩ := List.exists_cons_of_ne_nil named
      exact other first more rfl rfl
    simp only [ih undoubled.tail, dot_suffix_cons, apart, false_or]
  | case4 => simp

theorem reachesTop_iff (known : topLogger ∈ loggers) {name : String}
    (undoubled : Undoubled name.toList) :
    reachesTop loggers name = true ↔
      name = topLogger ∨ topLogger.toList ++ ['.'] <+: name.toList := by
  have backward : Undoubled name.toList.reverse := by
    refine List.isChain_reverse.mpr (undoubled.imp fun a b plain => ?_)
    exact fun dot dotted => plain dotted dot
  have top : String.ofList topLogger.toList.reverse.reverse = topLogger := by
    rw [List.reverse_reverse, String.ofList_toList]
  have above : String.ofList topLogger.toList.reverse.reverse ∈
      loggersAbove loggers name.toList.reverse ↔
        '.' :: topLogger.toList.reverse <:+ name.toList.reverse :=
    mem_loggersAbove_iff (top ▸ known) (by decide) backward
  rw [top] at above
  rw [reachesTop, Bool.or_eq_true, beq_iff_eq, List.contains_iff_mem, above,
    ← List.reverse_prefix, List.reverse_reverse, List.reverse_cons, List.reverse_reverse]

/-- All parts of the library log through loggers below the top one. -/
theorem reachesTop_part (known : topLogger ∈ loggers) (part : Part) :
    reachesTop loggers part.logger = true := by
  cases part <;> exact (reachesTop_iff known (by decide)).mpr (.inr (by decide))

/-! ### Runs of calls -/

variable {d : Desk} {s : Setup} {f : LogFile} {c : Call}

namespace Call

def line (c : Call) : String := c.entry.jsonLine

/-- No integer is too long to be shown, neither the level nor one of the context. -/
def Shown (c : Call) : Prop :=
  Json.unshowable? (.int c.level) = none ∧ Json.unshowable? (.object c.merged) = none

instance (c : Call) : Decidable c.Shown :=
  inferInstanceAs (Decidable (_ = none ∧ _ = none))

end Call

/-- The calls that are written to the file, in order: those that come to the handlers and are let
through, if they can be shown. -/
def recorded (s : Setup) : List String → List Call → List Call
  | _, [] => []
  | loggers, c :: rest =>
    let loggers := c.logger :: loggers
    if reachesTop loggers c.logger = true ∧ s.admits c.level = true ∧ c.Shown then
      c :: recorded s loggers rest
    else recorded s loggers rest

/-- What a call does to the files is what its record does, if that comes to the handlers. -/
theorem log_eq (installed : d.setup = some s) :
    (d.log c).1 =
      { files :=
          if reachesTop (c.logger :: d.loggers) c.logger = true ∧ s.admits c.level = true ∧
            Json.unshowable? (.int c.level) = none then (s.emit c.entry d.files).2 else d.files
        loggers := c.logger :: d.loggers
        setup := some s } := by
  unfold Desk.log
  dsimp only
  rw [installed]
  cases reachesTop (c.logger :: d.loggers) c.logger with
  | false =>
    cases decide (warning ≤ c.level) <;> cases Json.unshowable? (.int c.level) <;> simp
  | true =>
    rw [if_pos rfl]
    dsimp only
    cases s.admits c.level <;> cases Json.unshowable? (.int c.level) <;> simp

/-- What a part of the library gives to be logged. -/
def Record.call (r : Record) (stamp : Stamp) : Call where
  level := r.level
  logger := r.part.logger
  message := r.message
  context := r.context.map fun (key, text) => (key, .string text)
  stamp := stamp

theorem entry_call (r : Record) (stamp : Stamp) : (r.call stamp).entry = r.entry stamp := by
  have texts : (r.call stamp).merged = r.context.map fun (key, text) => (key, Json.string text) := by
    refine List.filter_eq_self.mpr fun kv member => ?_
    obtain ⟨given, -, rfl⟩ := List.mem_map.mp member
    rfl
  rw [Call.entry, texts]
  rfl

/-- Whatever loggers there are, the records of the library come to its handlers. -/
theorem files_logAll_records (installed : d.setup = some s) (known : topLogger ∈ d.loggers)
    (stamp : Stamp) {records : List Record}
    (named : ∀ r ∈ records, Json.unshowable? (.int r.level) = none) :
    (d.logAll (records.map (·.call stamp))).files =
      (s.emitAll (records.map (·.entry stamp)) d.files).2 := by
  induction records generalizing d with
  | nil => rfl
  | cons r rest ih =>
    obtain ⟨shown, later⟩ := List.forall_mem_cons.mp named
    have reaches : reachesTop ((r.call stamp).logger :: d.loggers) (r.call stamp).logger = true :=
      reachesTop_part (List.mem_cons_of_mem _ known) r.part
    have step : d.logAll ((r :: rest).map (·.call stamp)) =
        (d.log (r.call stamp)).1.logAll (rest.map (·.call stamp)) := rfl
    have step' : s.emitAll ((r :: rest).map (·.entry stamp)) d.files =
        ((s.emit (r.entry stamp) d.files).1 ++
            (s.emitAll (rest.map (·.entry stamp)) (s.emit (r.entry stamp) d.files).2).1,
          (s.emitAll (rest.map (·.entry stamp)) (s.emit (r.entry stamp) d.files).2).2) := rfl
    have files : (d.log (r.call stamp)).1.files = (s.emit (r.entry stamp) d.files).2 := by
      rw [log_eq installed, entry_call]
      dsimp only
      split
      · rfl
      · rename_i unheard
        have refused : ¬s.admits r.level = true := fun admitted =>
          unheard ⟨reaches, admitted, shown⟩
        rw [Setup.emit, level_entry, if_neg refused]
    have setup : (d.log (r.call stamp)).1.setup = some s := by rw [log_eq installed]
    have loggers : (d.log (r.call stamp)).1.loggers = (r.call stamp).logger :: d.loggers := by
      rw [log_eq installed]
    rw [step, step', ih setup (loggers ▸ List.mem_cons_of_mem _ known) later, files]

end FeatureSpec.Log
