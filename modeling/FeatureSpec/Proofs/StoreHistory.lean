import FeatureSpec.Proofs.MappingLookup
/-!
Stores under any sequence of operations. Until it is closed, a store is a finite map in which each
feature has the entry that was put last and not taken away since; from then on it is empty, and
refuses every write. What each operation gives back is a function of the operations before it.
-/
namespace FeatureSpec

namespace Entries

variable {α : Type}

theorem nodup_keys_put {m : Entries α} (distinct : m.keys.Nodup) (key : String) (v : α) :
    (m.put key v).keys.Nodup := by
  rw [keys_put]
  split
  case isTrue => exact distinct
  case isFalse fresh =>
    refine List.nodup_append.mpr ⟨distinct, List.nodup_singleton key, ?_⟩
    rintro old known new added rfl
    exact fresh (List.mem_singleton.mp added ▸ known)

theorem keys_erase_sublist (m : Entries α) (key : String) : (m.erase key).keys.Sublist m.keys := by
  induction m with
  | nil => exact .slnil
  | cons e rest ih =>
    obtain ⟨k, v⟩ := e
    rw [erase]
    split
    · exact .cons k ih
    · exact .cons_cons k ih

theorem length_eq_card {m : Entries α} (distinct : m.keys.Nodup) :
    ∃ keys : Finset String, (∀ key, key ∈ keys ↔ m.get? key ≠ none) ∧ m.length = keys.card := by
  refine ⟨m.keys.toFinset, fun key => ?_, ?_⟩
  · rw [List.mem_toFinset, ← isSome_get?, Option.isSome_iff_ne_none]
  · rw [List.toFinset_card_of_nodup distinct, keys, List.length_map]

end Entries

namespace Store

inductive Operation where
  | replace (feature : String) (entry : StoreEntry)
  | discard (feature : String)
  | clear
  | close
  | get (feature : String)
  | contains (feature : String)
  | size
  deriving DecidableEq, Repr

inductive Result where
  | done
  | entry (found : Option StoreEntry)
  | flag (b : Bool)
  | count (n : Nat)
  | refused (f : Failure)
  deriving DecidableEq, Repr

/-- What a write comes to. A store that refuses it stays as it is. -/
def settle (s : Store) : Except Failure Store → Result × Store
  | .ok written => (.done, written)
  | .error f => (.refused f, s)

def perform (s : Store) : Operation → Result × Store
  | .replace feature entry => s.settle (s.replace feature entry)
  | .discard feature => s.settle (s.discard feature)
  | .clear => s.settle s.clear
  | .close => (.done, s.close)
  | .get feature => (.entry (s.get? feature), s)
  | .contains feature => (.flag (s.contains feature), s)
  | .size => (.count s.size, s)

/-- Operations one after another: their results in order, and the store that they leave. -/
def performAll (s : Store) : List Operation → List Result × Store
  | [] => ([], s)
  | op :: rest =>
    let (result, s) := s.perform op
    let (more, s) := s.performAll rest
    (result :: more, s)

/-- Whether an operation bears on the entry of a feature in an open store. -/
def Operation.Touches (feature : String) : Operation → Prop
  | .replace name _ => name = feature
  | .discard name => name = feature
  | .clear => True
  | _ => False

/-- An entry is what operations leave for a feature: the store was not closed, the entry was put,
and nothing after that bears on the feature. -/
structure Leaves (ops : List Operation) (feature : String) (entry : StoreEntry) : Prop where
  opened : .close ∉ ops
  last : ∃ earlier later, ops = earlier ++ .replace feature entry :: later ∧
    ∀ op ∈ later, ¬op.Touches feature

/-- The number of features that operations leave an entry for. -/
def Leaving (ops : List Operation) (n : Nat) : Prop :=
  ∃ features : Finset String,
    (∀ feature, feature ∈ features ↔ ∃ entry, Leaves ops feature entry) ∧ n = features.card

/-- What an operation has to give back after the operations before it. -/
def Due (before : List Operation) : Operation → Result → Prop
  | .replace _ _, r | .discard _, r | .clear, r =>
    (.close ∉ before → r = .done) ∧ (.close ∈ before → r = .refused (.state .storeClosed))
  | .close, r => r = .done
  | .get feature, r =>
    ∃ found, r = .entry found ∧ ∀ entry, found = some entry ↔ Leaves before feature entry
  | .contains feature, r => ∃ b, r = .flag b ∧ (b = true ↔ ∃ entry, Leaves before feature entry)
  | .size, r => ∃ n, r = .count n ∧ Leaving before n

/-- A store as these operations leave a fresh one. -/
structure Follows (ops : List Operation) (s : Store) : Prop where
  closed : s.closed = true ↔ .close ∈ ops
  entry : ∀ feature entry, s.get? feature = some entry ↔ Leaves ops feature entry
  distinct : s.entries.keys.Nodup
  emptied : .close ∈ ops → s.entries = []

/-- What one more operation does to a store: a closed one stays exactly as it is, and so does every
store that refuses; and an open one keeps the entries of the features that the operation does not
bear on. -/
structure Bounded (ops : List Operation) (s : Store) (op : Operation) : Prop where
  closed : .close ∈ ops → (s.perform op).2 = s
  refused : ∀ f, (s.perform op).1 = .refused f → (s.perform op).2 = s
  others : op ≠ .close → ∀ feature, ¬op.Touches feature →
    (s.perform op).2.get? feature = s.get? feature

/-! ### What operations leave -/

section

variable {ops : List Operation} {op : Operation} {feature : String} {entry : StoreEntry}

theorem not_leaves_nil : ¬Leaves [] feature entry := by
  rintro ⟨-, earlier, later, parted, -⟩
  simp at parted

/-- The last operation put the entry, or left it standing. -/
theorem leaves_snoc : Leaves (ops ++ [op]) feature entry ↔
    .close ∉ ops ++ [op] ∧
      (op = .replace feature entry ∨ ¬op.Touches feature ∧ Leaves ops feature entry) := by
  constructor
  · rintro ⟨opened, earlier, later, parted, untouched⟩
    refine ⟨opened, ?_⟩
    -- The entry was put by the last operation or by an earlier one.
    rcases List.eq_nil_or_concat later with rfl | ⟨later, last, rfl⟩
    · exact .inl (by simpa using (List.append_inj' parted rfl).2)
    · rw [List.concat_eq_append, ← List.cons_append, ← List.append_assoc] at parted
      obtain ⟨before, same⟩ := List.append_inj' parted rfl
      rw [List.concat_eq_append] at untouched
      obtain rfl : op = last := by simpa using same
      refine .inr ⟨untouched op (by simp), fun closed => opened (by simp [closed]), ?_⟩
      exact ⟨earlier, later, before, fun other member => untouched other (by simp [member])⟩
  · rintro ⟨opened, rfl | ⟨apart, -, earlier, later, rfl, untouched⟩⟩
    · exact ⟨opened, ops, [], rfl, nofun⟩
    · refine ⟨opened, earlier, later ++ [op], by simp, fun other member => ?_⟩
      rcases List.mem_append.mp member with old | new
      · exact untouched other old
      · exact List.mem_singleton.mp new ▸ apart

theorem close_mem_snoc (other : op ≠ .close) : .close ∈ ops ++ [op] ↔ .close ∈ ops := by
  simp [Ne.symm other]

end

/-! ### One operation -/

section

variable {ops : List Operation} {s : Store} {op : Operation}

theorem Follows.leaving (follows : Follows ops s) : Leaving ops s.size := by
  obtain ⟨features, found, counted⟩ := Entries.length_eq_card follows.distinct
  refine ⟨features, fun feature => (found feature).trans ?_, counted⟩
  rw [← Option.isSome_iff_ne_none, Option.isSome_iff_exists]
  exact exists_congr (follows.entry feature)

theorem opened_iff (follows : Follows ops s) : s.closed = false ↔ .close ∉ ops := by
  rw [← follows.closed, Bool.not_eq_true]

theorem write_of_opened (follows : Follows ops s) (opened : .close ∉ ops)
    (change : Entries StoreEntry → Entries StoreEntry) :
    s.write change = .ok { s with entries := change s.entries } := by
  rw [write, (opened_iff follows).mpr opened]
  rfl

theorem write_of_closed (follows : Follows ops s) (closed : .close ∈ ops)
    (change : Entries StoreEntry → Entries StoreEntry) :
    s.write change = .error (.state .storeClosed) := by
  rw [write, follows.closed.mpr closed]
  rfl

theorem follows_of_emptied (closed : .close ∈ ops) (shut : s.closed = true)
    (empty : s.entries = []) : Follows ops s where
  closed := ⟨fun _ => closed, fun _ => shut⟩
  entry feature entry := by
    have absent : s.get? feature = none := by rw [get?, empty, Entries.get?]
    rw [absent]
    exact ⟨fun found => absurd found.symm (Option.some_ne_none entry),
      fun leaves => absurd closed leaves.opened⟩
  distinct := by
    rw [empty]
    exact List.nodup_nil
  emptied := fun _ => empty

/-- An open store takes the entries that an operation makes of its own: what is put, and what the
operation does not bear on. -/
theorem follows_of_entries (follows : Follows ops s) (opened : .close ∉ ops) (other : op ≠ .close)
    {entries : Entries StoreEntry} (distinct : entries.keys.Nodup)
    (found : ∀ feature entry, entries.get? feature = some entry ↔
      op = .replace feature entry ∨ ¬op.Touches feature ∧ s.get? feature = some entry) :
    Follows (ops ++ [op]) { s with entries } where
  closed := by rw [close_mem_snoc other]; exact follows.closed
  entry feature entry := by
    have opened' : .close ∉ ops ++ [op] := fun closed => opened ((close_mem_snoc other).mp closed)
    rw [leaves_snoc, ← follows.entry, get?, found]
    exact (and_iff_right opened').symm
  distinct := distinct
  emptied := fun closed => absurd ((close_mem_snoc other).mp closed) opened

theorem perform_of_closed (follows : Follows ops s) (closed : .close ∈ ops) (op : Operation) :
    (s.perform op).2 = s := by
  have refuses (change : Entries StoreEntry → Entries StoreEntry) :
      (s.settle (s.write change)).2 = s := by
    rw [write_of_closed follows closed]
    rfl
  cases op with
  | replace feature entry => exact refuses _
  | discard feature => exact refuses _
  | clear => exact refuses _
  | close =>
    show s.close = s
    rw [close, ← follows.emptied closed, ← follows.closed.mpr closed]
  | get feature => rfl
  | contains feature => rfl
  | size => rfl

theorem perform_of_refused {f : Failure} (refused : (s.perform op).1 = .refused f) :
    (s.perform op).2 = s := by
  have stays {r : Except Failure Store} (refused : (s.settle r).1 = .refused f) :
      (s.settle r).2 = s := by
    cases r with
    | ok written => cases refused
    | error g => rfl
  cases op with
  | replace feature entry => exact stays refused
  | discard feature => exact stays refused
  | clear => exact stays refused
  | close => cases refused
  | get feature => cases refused
  | contains feature => cases refused
  | size => cases refused

/-- The step: what an operation gives back is due, and the store goes on to follow. -/
theorem follows_perform (follows : Follows ops s) (op : Operation) :
    Follows (ops ++ [op]) (s.perform op).2 := by
  by_cases closed : .close ∈ ops
  · rw [perform_of_closed follows closed]
    exact follows_of_emptied (List.mem_append_left _ closed) (follows.closed.mpr closed)
      (follows.emptied closed)
  -- In an open store every operation is a change of the entries, be it none.
  have writes {entries : Entries StoreEntry} (other : op ≠ .close) (distinct : entries.keys.Nodup)
      (found : ∀ feature entry, entries.get? feature = some entry ↔
        op = .replace feature entry ∨ ¬op.Touches feature ∧ s.get? feature = some entry) :
      Follows (ops ++ [op]) { s with entries } :=
    follows_of_entries follows closed other distinct found
  cases op with
  | replace feature entry =>
    rw [perform, replace, write_of_opened follows closed]
    refine writes (by simp) (Entries.nodup_keys_put follows.distinct feature entry)
      fun name found => ?_
    rw [Entries.get?_put]
    by_cases same : feature = name <;>
      simp [Operation.Touches, same, get?]
  | discard feature =>
    rw [perform, discard, write_of_opened follows closed]
    refine writes (by simp) (follows.distinct.sublist (Entries.keys_erase_sublist _ _))
      fun name found => ?_
    rw [Entries.get?_erase]
    by_cases same : feature = name <;> simp [Operation.Touches, same, get?]
  | clear =>
    rw [perform, clear, write_of_opened follows closed]
    exact writes (by simp) List.nodup_nil
      fun name found => by simp [Operation.Touches, Entries.get?]
  | close => exact follows_of_emptied (by simp) rfl rfl
  | get feature =>
    exact writes (by simp) follows.distinct
      fun name found => by simp [Operation.Touches, get?]
  | contains feature =>
    exact writes (by simp) follows.distinct
      fun name found => by simp [Operation.Touches, get?]
  | size =>
    exact writes (by simp) follows.distinct
      fun name found => by simp [Operation.Touches, get?]

theorem due_perform (follows : Follows ops s) (op : Operation) : Due ops op (s.perform op).1 := by
  have write (change : Entries StoreEntry → Entries StoreEntry) :
      (.close ∉ ops → (s.settle (s.write change)).1 = .done) ∧
        (.close ∈ ops → (s.settle (s.write change)).1 = .refused (.state .storeClosed)) := by
    refine ⟨fun opened => ?_, fun closed => ?_⟩
    · rw [write_of_opened follows opened]
      rfl
    · rw [write_of_closed follows closed]
      rfl
  cases op with
  | replace feature entry => exact write _
  | discard feature => exact write _
  | clear => exact write _
  | close => rfl
  | get feature => exact ⟨s.get? feature, rfl, follows.entry feature⟩
  | contains feature =>
    refine ⟨s.contains feature, rfl, ?_⟩
    have held : s.contains feature = (s.get? feature).isSome := rfl
    rw [held, Option.isSome_iff_exists]
    exact exists_congr (follows.entry feature)
  | size => exact ⟨s.size, rfl, follows.leaving⟩

theorem bounded_perform (follows : Follows ops s) (op : Operation) : Bounded ops s op where
  closed := fun closed => perform_of_closed follows closed op
  refused := fun _ refused => perform_of_refused refused
  others other feature apart := by
    by_cases closed : .close ∈ ops
    · rw [perform_of_closed follows closed]
    · refine Option.ext fun entry => ?_
      rw [(follows_perform follows op).entry, follows.entry, leaves_snoc, close_mem_snoc other,
        and_iff_right closed, and_iff_right apart, or_iff_right]
      rintro rfl
      exact apart rfl

end

/-! ### Whole runs -/

/-- The run: results are due one by one, and the store follows to the end. -/
theorem follows_performAll {before : List Operation} {s : Store} (follows : Follows before s)
    (ops : List Operation) :
    Follows (before ++ ops) (s.performAll ops).2 ∧
      (s.performAll ops).1.length = ops.length ∧
      ∀ earlier op later, ops = earlier ++ op :: later →
        ∃ r, (s.performAll ops).1[earlier.length]? = some r ∧ Due (before ++ earlier) op r := by
  induction ops generalizing before s with
  | nil =>
    rw [List.append_nil]
    exact ⟨follows, rfl, fun earlier op later parted => by simp at parted⟩
  | cons first rest ih =>
    obtain ⟨followed, counted, due⟩ := ih (follows_perform follows first)
    rw [List.append_assoc, List.singleton_append] at followed
    refine ⟨followed, congrArg (· + 1) counted, fun earlier op later parted => ?_⟩
    rcases earlier with _ | ⟨first', earlier⟩
    · obtain ⟨rfl, -⟩ := List.cons.inj parted
      rw [List.append_nil]
      exact ⟨_, rfl, due_perform follows first⟩
    · obtain ⟨rfl, behind⟩ := List.cons.inj parted
      obtain ⟨r, found, due⟩ := due earlier op later behind
      rw [List.append_assoc, List.singleton_append] at due
      exact ⟨r, found, due⟩

theorem follows_fresh : Follows [] {} where
  closed := by simp
  entry _ _ := ⟨nofun, fun leaves => absurd leaves not_leaves_nil⟩
  distinct := List.nodup_nil
  emptied := nofun

/-- The store is a finite map that can be closed. After any operations on a fresh one, it has the
entries that the operations leave, knows which features those are and how many, and is closed
exactly if it was closed at any time; then it is empty, and stays exactly as it is. The result of
each operation on the way is determined by the operations before it, and none bears on the entry
of another feature. -/
theorem store_follows_operations (ops : List Operation) :
    let run := performAll {} ops
    (run.1.length = ops.length ∧ ∀ before op after, ops = before ++ op :: after →
      ∃ r, run.1[before.length]? = some r ∧ Due before op r) ∧
    (run.2.closed = true ↔ .close ∈ ops) ∧
    (∀ feature entry, run.2.get? feature = some entry ↔ Leaves ops feature entry) ∧
    (∀ feature, run.2.contains feature = true ↔ run.2.get? feature ≠ none) ∧
    Leaving ops run.2.size ∧
    (.close ∈ ops → (∀ feature, run.2.get? feature = none) ∧ run.2.size = 0) ∧
    ∀ op, Bounded ops run.2 op := by
  intro run
  obtain ⟨follows, counted, due⟩ := follows_performAll follows_fresh ops
  rw [List.nil_append] at follows
  refine ⟨⟨counted, due⟩, follows.closed, follows.entry, fun feature => ?_, follows.leaving,
    fun closed => ⟨fun feature => ?_, ?_⟩, bounded_perform follows⟩
  · exact Option.isSome_iff_ne_none
  · rw [get?, follows.emptied closed, Entries.get?]
  · rw [size, follows.emptied closed, List.length_nil]

end Store
end FeatureSpec
