import FeatureSpec.Proofs.GrownTrees
import Mathlib.Data.List.Induction
/-!
What stands in a log file. A line that fits goes to its end; before one that does not, the file is
rolled over and starts anew. Neither takes a directory away, so the path of the log file leads to
the same place for as long as records are written.
-/
namespace FeatureSpec

namespace FileTree

variable {t u : FileTree} {parts directory : List String}

/-- A tree keeps its directories where none of their places is taken by a file and whatever lies
below them makes room for something else below them. -/
theorem keepsDirectories_of_files (base : u.base = t.base) (made : u.made = t.made)
    (free : ∀ parts, t.entry? parts = some .directory → u.file? parts = none)
    (files : ∀ f ∈ t.files, ∀ parts, t.entry? parts = some .directory → parts <+: f.1 →
      parts ≠ f.1 → ∃ g ∈ u.files, parts <+: g.1 ∧ parts ≠ g.1) :
    KeepsDirectories t u where
  base := base
  directory parts stands := by
    have held := hasDirectory_of_found stands
    have kept : u.hasDirectory parts = true := by
      simp only [hasDirectory, Bool.or_eq_true, List.any_eq_true, Bool.and_eq_true,
        List.isPrefixOf_iff_prefix, bne_iff_ne] at held ⊢
      rcases held with (root | through) | ⟨f, member, leads, within⟩
      · exact .inl (.inl root)
      · exact .inl (.inr (made ▸ through))
      · exact .inr (files f member parts stands leads within)
    rw [ entry?, free parts stands]
    exact if_pos kept

theorem file?_of_directory (stands : t.entry? parts = some .directory) : t.file? parts = none := by
  unfold entry? at stands
  split at stands
  · cases stands
  · assumption

theorem file?_put (t : FileTree) (parts : List String) (content : Octets) :
    (t.put parts content).file? parts = some content := by
  have gone : ((t.files.filter fun f => f.1 != parts).find? fun f => f.1 == parts) = none := by
    simp
  rw [file?, put, List.find?_append, gone]
  simp

theorem keepsDirectories_put (other : t.entry? parts ≠ some .directory) (content : Octets) :
    KeepsDirectories t (t.put parts content) := by
  refine keepsDirectories_of_files rfl rfl (fun place stands => ?_)
    fun f member place stands leads within => ?_
  · have apart : place ≠ parts := fun same => other (same ▸ stands)
    rw [(apartAt_put t parts content).others place apart]
    exact file?_of_directory stands
  · by_cases here : f.1 = parts
    · exact ⟨(parts, content), by simp [put], here ▸ leads, here ▸ within⟩
    · exact ⟨f, by simp [put, member, here], leads, within⟩

/-- Two trees that differ at most by the content of one file, which it has in the second. -/
structure Rewritten (place : List String) (content : Octets) (t u : FileTree) : Prop where
  kept : KeepsDirectories t u
  held : u.file? place = some content
  others : ∀ parts ≠ place, u.file? parts = t.file? parts

theorem Rewritten.trans {v : FileTree} {place : List String} {content more : Octets}
    (first : Rewritten place content t u) (second : Rewritten place more u v) :
    Rewritten place more t v where
  kept := first.kept.trans second.kept
  held := second.held
  others parts apart := (second.others parts apart).trans (first.others parts apart)

end FileTree

namespace Log

open FileTree

variable {f : LogFile} {d : Path} {t : FileTree} {directory parts : List String} {old : Octets}

/-- What a line takes in a file, its line break included. -/
def lineOctets (line : String) : Octets := Octets.ofString (line ++ "\n")

namespace LogFile

theorem ofString_name : Path.ofString name = { parts := [name] } := by decide

/-- The log file is in the tree, at these parts and with this content. -/
structure Standing (f : LogFile) (t : FileTree) (parts : List String) (old : Octets) : Prop where
  leads : t.place f.path = .ok (.inside parts)
  held : t.file? parts = some old

theorem lookup_of_standing (standing : f.Standing t parts old) :
    t.lookup f.path = .ok (.file old) := by
  have entry : t.entry? parts = some (.file old) := by
    rw [ entry?, standing.held]
  rw [lookup, standing.leads]
  simp [bind, Except.bind, pure, Except.pure, entry]

theorem content_of_standing (standing : f.Standing t parts old) : f.content t = old := by
  rw [content, lookup_of_standing standing]

theorem standing_of_lookup (found : t.lookup f.path = .ok (.file old)) :
    ∃ parts, f.Standing t parts old := by
  unfold lookup at found
  rcases leads : t.place f.path with fault | last
  · simp [leads, bind, Except.bind] at found
  cases last with
  | above => simp [leads, bind, Except.bind, pure, Except.pure] at found
  | inside parts =>
    rw [leads] at found
    simp only [bind, Except.bind] at found
    split at found
    · rename_i e entry
      cases found
      unfold entry? at entry
      split at entry
      · rename_i content held
        cases entry
        exact ⟨parts, leads, held⟩
      · split at entry <;> cases entry
    · cases found

theorem standing_of_read (came : t.read f.path = .ok old) : ∃ parts, f.Standing t parts old := by
  unfold FileTree.read at came
  split at came
  · cases came
  · split at came
    · rename_i found
      cases came
      exact standing_of_lookup found
    · cases came
    · cases came

theorem clean_of_read (came : t.read f.path = .ok old) : f.path.hasNul = false := by
  unfold FileTree.read at came
  split at came
  · cases came
  · rename_i clean
    exact Bool.not_eq_true _ ▸ clean

theorem read_of_standing (standing : f.Standing t parts old) (clean : f.path.hasNul = false) :
    t.read f.path = .ok old := by
  rw [FileTree.read, clean, lookup_of_standing standing]
  rfl

theorem standing_of_grown {u : FileTree} (grown : Grown t u) (standing : f.Standing t parts old) :
    f.Standing u parts old where
  leads := place_of_kept grown.keepsDirectories standing.leads
  held := by
    have entry : t.entry? parts = some (.file old) := by
      rw [ entry?, standing.held]
    have kept := grown.entry parts _ entry
    unfold entry? at kept
    split at kept
    · rename_i content held
      cases kept
      exact held
    · split at kept <;> cases kept

theorem standing_of_rewritten {u : FileTree} {content : Octets} (standing : f.Standing t parts old)
    (rewritten : Rewritten parts content t u) : f.Standing u parts content :=
  ⟨place_of_kept rewritten.kept standing.leads, rewritten.held⟩

theorem standing_of_beside {u : FileTree} {content : Octets} {place : List String}
    (standing : f.Standing t parts old) (rewritten : Rewritten place content t u)
    (apart : parts ≠ place) : f.Standing u parts old :=
  ⟨place_of_kept rewritten.kept standing.leads,
    (rewritten.others parts apart).trans standing.held⟩

theorem rewritten_put (standing : f.Standing t parts old) (content : Octets) :
    Rewritten parts content t (t.put parts content) where
  kept := by
    refine keepsDirectories_put ?_ content
    rw [ entry?, standing.held]
    simp
  held := file?_put t parts content
  others := (apartAt_put t parts content).others

/-- A line that would make the log file reach its size. -/
def Fills (f : LogFile) (size : Nat) : Prop := 0 < f.maxOctets ∧ f.maxOctets ≤ size

instance (f : LogFile) (size : Nat) : Decidable (f.Fills size) :=
  inferInstanceAs (Decidable (0 < f.maxOctets ∧ f.maxOctets ≤ size))

theorem Fills.mono {size size' : Nat} (full : f.Fills size) (larger : size ≤ size') :
    f.Fills size' :=
  ⟨full.1, Int.le_trans full.2 (Int.ofNat_le.mpr larger)⟩

/-- The files once there is room for a line. -/
def withRoom (f : LogFile) (t : FileTree) (line : String) : FileTree :=
  if f.Fills ((f.content t).length + (lineOctets line).length) then f.rollOver t else t

theorem withRoom_of_fits {line : String}
    (fits : ¬f.Fills ((f.content t).length + (lineOctets line).length)) :
    f.withRoom t line = t := if_neg fits

theorem append_eq (f : LogFile) (t : FileTree) (line : String) :
    f.append t line = match (f.withRoom t line).place f.path with
      | .ok (.inside parts) =>
        (f.withRoom t line).put parts (f.content (f.withRoom t line) ++ lineOctets line)
      | _ => f.withRoom t line := by
  have room : (if (decide (0 < f.maxOctets) && decide (f.maxOctets ≤
      ((f.content t).length + (Octets.ofString (line ++ "\n")).length : Nat))) = true then
        f.rollOver t else t) = f.withRoom t line :=
    if_congr (by simp [Fills, lineOctets]) rfl rfl
  unfold append
  dsimp only
  rw [room]
  rfl

theorem append_of_standing {line : String} (room : f.Standing (f.withRoom t line) parts old) :
    f.append t line = (f.withRoom t line).put parts (old ++ lineOctets line) := by
  rw [append_eq, room.leads]
  dsimp only
  rw [content_of_standing room]

/-- A line that fits goes to the end of the file. -/
theorem append_of_fits (standing : f.Standing t parts old) {line : String}
    (fits : ¬f.Fills (old ++ lineOctets line).length) :
    f.append t line = t.put parts (old ++ lineOctets line) := by
  have room : f.withRoom t line = t := by
    refine withRoom_of_fits ?_
    rwa [content_of_standing standing, ← List.length_append]
  have room' : f.Standing (f.withRoom t line) parts old := room.symm ▸ standing
  rw [append_of_standing room', room]

/-- Lines that fit all together follow one another in the file, and are all that is new. -/
theorem rewritten_lines {lines : List String} (standing : f.Standing t parts old)
    (fit : ¬f.Fills (old ++ lines.flatMap lineOctets).length) :
    Rewritten parts (old ++ lines.flatMap lineOctets) t (lines.foldl f.append t) := by
  induction lines generalizing t old with
  | nil => exact ⟨.refl t, by simpa using standing.held, fun _ _ => rfl⟩
  | cons line rest ih =>
    rw [List.flatMap_cons, ← List.append_assoc] at fit ⊢
    have fits : ¬f.Fills (old ++ lineOctets line).length := fun full => fit (full.mono (by simp))
    have first := rewritten_put standing (old ++ lineOctets line)
    rw [List.foldl_cons, append_of_fits standing fits]
    exact first.trans (ih (standing_of_rewritten standing first) fit)

/-- Lines for a log file outside the tree leave the tree as it is. -/
theorem lines_outside {lines : List String}
    (outside : ∀ parts, t.place f.path ≠ .ok (.inside parts))
    (fit : ¬f.Fills (lines.flatMap lineOctets).length) :
    lines.foldl f.append t = t := by
  -- The file is not in the tree, so it is empty and stays so.
  have empty : f.content t = [] := by
    unfold content
    split
    · rename_i os found
      obtain ⟨parts, standing⟩ := standing_of_lookup found
      exact absurd standing.leads (outside parts)
    · rfl
  induction lines with
  | nil => rfl
  | cons line rest ih =>
    rw [List.flatMap_cons] at fit
    have room : f.withRoom t line = t := by
      refine withRoom_of_fits fun full => fit (full.mono ?_)
      simp [empty]
    have stays : f.append t line = t := by
      rw [append_eq, room]
      split
      · rename_i parts leads
        exact absurd leads (outside parts)
      · rfl
    rw [List.foldl_cons, stays]
    exact ih fun full => fit (full.mono (by simp))

theorem clean_of_openIn {u : FileTree} (opened : f.openIn d t = .ok u) : d.hasNul = false := by
  unfold openIn makeDirectory at opened
  split at opened
  · cases opened
  · rename_i clean
    exact Bool.not_eq_true _ ▸ clean

/-- A log file that is opened stands where its path leads to. -/
theorem standing_of_openIn {u : FileTree} (opened : f.openIn d t = .ok u)
    (leads : u.place f.path = .ok (.inside parts)) : ∃ old, f.Standing u parts old := by
  unfold openIn at opened
  rcases made : t.makeDirectory d with fault | t'
  · rw [made] at opened
    cases opened
  rw [made] at opened
  simp only [bind, Except.bind] at opened
  split at opened
  -- The file is there already, or it is made, or its path leads out of the tree.
  · rename_i os found
    cases opened
    obtain ⟨place, standing⟩ := standing_of_lookup found
    rw [standing.leads] at leads
    cases leads
    exact ⟨os, standing⟩
  · cases opened
  · rename_i fault unfound
    split at opened
    · rename_i place vacant
      cases opened
      have entry : t'.entry? place = none := entry?_of_unfound unfound vacant
      have kept := keepsDirectories_put (by rw [entry]; simp) []
      have there := place_of_kept kept vacant
      rw [there] at leads
      cases leads
      exact ⟨[], there, file?_put _ _ _⟩
    · rename_i outside
      cases opened
      exact absurd leads (outside parts)

variable {g : LogFile} {lines : List String}

theorem lines_shared (standing : f.Standing t parts old)
    (same : t.place g.path = .ok (.inside parts))
    (fit : ¬g.Fills (g.content t ++ lines.flatMap lineOctets).length) :
    f.Standing (lines.foldl g.append t) parts (old ++ lines.flatMap lineOctets) := by
  have shared : g.Standing t parts old := ⟨same, standing.held⟩
  rw [content_of_standing shared] at fit
  exact standing_of_rewritten standing (rewritten_lines shared fit)

/-- Lines for a log file elsewhere leave this one alone. -/
theorem lines_elsewhere (standing : f.Standing t parts old)
    (opened : ∀ place, t.place g.path = .ok (.inside place) → ∃ kept, g.Standing t place kept)
    (apart : t.place g.path ≠ .ok (.inside parts))
    (fit : ¬g.Fills (g.content t ++ lines.flatMap lineOctets).length) :
    f.Standing (lines.foldl g.append t) parts old := by
  by_cases inside : ∃ place, t.place g.path = .ok (.inside place)
  · obtain ⟨place, leads⟩ := inside
    obtain ⟨kept, other⟩ := opened place leads
    rw [content_of_standing other] at fit
    refine standing_of_beside standing (rewritten_lines other fit) fun same => apart ?_
    rw [same]
    exact leads
  · rw [lines_outside (not_exists.mp inside) fun full => fit (full.mono (by simp))]
    exact standing

/-! ### Rolling over -/

def rolledName (number : Nat) : String := s!"{name}.{number}"

/-- The names of a log file and its rolled files. -/
inductive Named : String → Prop where
  | current : Named name
  | rolled (number : Nat) : Named (rolledName number)

theorem Named.downward {last : String} (named : Named last) : last ≠ ".." := by
  cases named with
  | current => decide
  | rolled number =>
    intro same
    have long : (name ++ "." ++ toString number).length = 2 := congrArg String.length same
    rw [String.length_append, String.length_append] at long
    have some : name.length = 12 := by decide
    omega

/-- What stands in a log file after a line. -/
def after (f : LogFile) (old : Octets) (line : String) : Octets :=
  (if f.Fills (old ++ lineOctets line).length ∧ 0 < f.backups then [] else old) ++ lineOctets line

end LogFile

namespace Setup

variable {s : Setup}

def written (s : Setup) (entries : List Entry) : List String :=
  (entries.filter fun e => s.admits e.level).map Entry.jsonLine

theorem written_append (s : Setup) (before more : List Entry) :
    s.written (before ++ more) = s.written before ++ s.written more := by
  simp [written]

theorem emitAll_append (s : Setup) (before more : List Entry) (t : FileTree) :
    s.emitAll (before ++ more) t =
      ((s.emitAll before t).1 ++ (s.emitAll more (s.emitAll before t).2).1,
        (s.emitAll more (s.emitAll before t).2).2) := by
  induction before generalizing t with
  | nil => simp [emitAll]
  | cons e rest ih => simp [emitAll, ih, String.append_assoc]

theorem files_emitAll (filed : s.file = some f) {entries : List Entry}
    (shown : ∀ e ∈ entries, e.fileLine = .ok e.jsonLine) (t : FileTree) :
    (s.emitAll entries t).2 = (s.written entries).foldl f.append t := by
  induction entries generalizing t with
  | nil => rfl
  | cons e rest ih =>
    obtain ⟨first, later⟩ := List.forall_mem_cons.mp shown
    have step : (s.emitAll (e :: rest) t).2 = (s.emitAll rest (s.emit e t).2).2 := rfl
    rw [step, ih later]
    by_cases heard : s.admits e.level = true
    · simp [written, emit, heard, filed, first]
    · simp [written, emit, heard]

end Setup

/-- What a record shows besides its context can always be shown. -/
theorem fileLine_of_context {e : Entry} (shown : Json.unshowable? e.context = none) :
    e.fileLine = .ok e.jsonLine := by
  have line : Json.digitFault? (.int e.stamp.line) = none := by
    rw [Json.digitFault?, if_neg (Nat.not_le.mpr e.stamp.short)]
  have members : ∀ kv ∈ e.members, Json.fault? Json.digitFault? kv.2 = none := by
    intro kv member
    simp only [Entry.members, Entry.source, List.mem_append] at member
    rcases member with ((plain | context) | source) | trouble
    · simp only [List.mem_cons, List.not_mem_nil, or_false] at plain
      rcases plain with rfl | rfl | rfl | rfl <;> rfl
    · split at context
      · obtain rfl := List.mem_singleton.mp context
        exact shown
      · cases context
    · split at source
      · obtain rfl := List.mem_singleton.mp source
        simp [Json.fault?, Json.memberFault?, Json.digitFault?.eq_2, line]
      · cases source
    · obtain ⟨⟨kind, message⟩, -, rfl⟩ := List.mem_map.mp (Option.toList_map ▸ trouble)
      rfl
  rw [Entry.fileLine, Json.unshowable?, Json.fault?, Json.memberFault?_eq_none_iff.mpr members]

/-- A part of the library knows nothing but texts. -/
theorem fileLine_entry (r : Record) (stamp : Stamp) :
    (r.entry stamp).fileLine = .ok (r.entry stamp).jsonLine := by
  refine fileLine_of_context (Json.memberFault?_eq_none_iff.mpr fun kv member => ?_)
  obtain ⟨given, -, rfl⟩ := List.mem_map.mp member
  rfl

end Log
end FeatureSpec
