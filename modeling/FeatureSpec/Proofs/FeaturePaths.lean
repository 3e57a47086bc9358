import FeatureSpec.Command.Run
import FeatureSpec.Proofs.Spans
/-!
The path of the file of a feature. Its text is taken for a path and read as the same path again, so
that a target may be given either way.
-/
namespace FeatureSpec

namespace Path

/-- What a path looks like that was read from a text. -/
structure Canonical (p : Path) : Prop where
  anchored : p.anchor ∈ ["", "/", "//"]
  parts : ∀ part ∈ p.parts, isPart part = true ∧ '/' ∉ part.toList

theorem canonical_ofString (s : String) : (ofString s).Canonical where
  anchored := by
    show anchorOf (s.toList.span (· == '/')).1 ∈ ["", "/", "//"]
    unfold anchorOf
    split <;> decide
  parts := by
    intro part member
    obtain ⟨piece, named⟩ := List.mem_filter.mp member
    obtain ⟨-, clean, -⟩ := Text.eq_pieces_iff.mp rfl
    exact ⟨named, clean part piece⟩

theorem Canonical.join {p q : Path} (hp : p.Canonical) (hq : q.Canonical) :
    (p.join q).Canonical := by
  unfold Path.join
  split
  · exact ⟨hp.anchored, List.forall_mem_append.mpr ⟨hp.parts, hq.parts⟩⟩
  · exact hq

section

variable {parts : List String} (h : ∀ part ∈ parts, isPart part = true ∧ '/' ∉ part.toList)

include h

theorem joined_head : ∀ c ∈ (joined parts).toList.head?, (c == '/') = false := by
  rcases parts with _ | ⟨part, rest⟩
  · exact nofun
  obtain ⟨named, clean⟩ := h part (.head _)
  have nonempty : part.toList ≠ [] := by
    intro empty
    rw [String.toList_eq_nil_iff.mp empty] at named
    cases named
  obtain ⟨c, more, spelled⟩ := List.exists_cons_of_ne_nil nonempty
  have first : ∃ later, (joined (part :: rest)).toList = c :: later := by
    unfold joined
    cases rest with
    | nil => exact ⟨more, by rw [String.intercalate_singleton, spelled]⟩
    | cons next rest =>
      rw [String.intercalate_cons_cons, String.append_assoc, String.toList_append, spelled]
      exact ⟨_, List.cons_append⟩
  obtain ⟨later, starts⟩ := first
  rw [starts]
  rintro d ⟨⟩
  have other : '/' ≠ c := by
    rintro rfl
    exact clean (spelled ▸ List.mem_cons_self)
  simp [Ne.symm other]

theorem parts_of_joined : (Text.pieces '/' (joined parts)).filter isPart = parts := by
  rcases parts with _ | ⟨part, rest⟩
  · rfl
  have pieces : part :: rest = Text.pieces '/' (joined (part :: rest)) :=
    Text.eq_pieces_iff.mpr ⟨List.cons_ne_nil _ _, fun p member => (h p member).2, rfl⟩
  rw [← pieces]
  exact List.filter_eq_self.mpr fun p member => (h p member).1

end

theorem joined_concat (parts : List String) (last : String) :
    ∃ front, joined (parts ++ [last]) = front ++ last := by
  induction parts with
  | nil => exact ⟨"", by rw [List.nil_append, joined, String.intercalate_singleton,
      String.empty_append]⟩
  | cons part rest ih =>
    obtain ⟨front, spelled⟩ := ih
    refine ⟨part ++ "/" ++ front, ?_⟩
    obtain ⟨next, more, shape⟩ := List.exists_cons_of_ne_nil (List.concat_ne_nil last rest)
    have assembled : joined (part :: (rest ++ [last])) =
        part ++ "/" ++ joined (rest ++ [last]) := by
      unfold joined
      rw [shape, String.intercalate_cons_cons]
    rw [List.cons_append, assembled, spelled]
    exact String.append_assoc.symm

theorem anchorOf_toList {anchor : String} (anchored : anchor ∈ ["", "/", "//"]) :
    anchorOf anchor.toList = anchor ∧ ∀ c ∈ anchor.toList, (c == '/') = true := by
  simp only [List.mem_cons, List.not_mem_nil, or_false] at anchored
  rcases anchored with rfl | rfl | rfl
  · exact ⟨rfl, List.forall_mem_nil _⟩
  · exact ⟨rfl, List.all_eq_true.mp rfl⟩
  · exact ⟨rfl, List.all_eq_true.mp rfl⟩

/-- A path is read back from its text. -/
theorem ofString_text {p : Path} (canonical : p.Canonical) : ofString p.text = p := by
  obtain ⟨anchor, parts⟩ := p
  unfold text
  split
  · rename_i empty
    obtain ⟨rfl, rfl⟩ := empty
    rfl
  · obtain ⟨same, slashes⟩ := anchorOf_toList canonical.anchored
    have cut := span_append_of_all slashes (joined_head canonical.parts)
    unfold ofString
    rw [String.toList_append, cut]
    dsimp only
    rw [same, String.ofList_toList, parts_of_joined canonical.parts]

end Path

namespace Text

theorem lower_append (s t : String) : lower (s ++ t) = lower s ++ lower t := by
  rw [lower, String.toList_append, List.flatMap_append, String.ofList_append]
  rfl

theorem endsWith_append (s t : String) : (s ++ t).endsWith t = true := by
  rw [String.endsWith_eq_endsWith_toSlice, String.Slice.endsWith_string_iff, String.copy_toSlice,
    String.toList_append]
  exact List.suffix_append _ _

end Text

namespace SpecDirectory

variable {directory : Path} {name : String}

/-- Without slashes in its name the file of a feature lies in the directory itself. -/
theorem filePath_eq (slashless : '/' ∉ name.toList) :
    filePath directory name = { directory with parts := directory.parts ++ [name ++ suffix] } := by
  have named : Path.isPart (name ++ suffix) = true := by
    have long : 4 ≤ (name ++ suffix).length := by
      rw [String.length_append]
      exact Nat.le_add_left 4 _
    have nonempty : name ++ suffix ≠ "" := fun same => absurd (same ▸ long) (by decide)
    have other : name ++ suffix ≠ "." := fun same => absurd (same ▸ long) (by decide)
    simp [Path.isPart, nonempty, other]
  have clean : '/' ∉ (name ++ suffix).toList := by
    have plain : '/' ∉ suffix.toList := by decide
    rw [String.toList_append]
    exact fun member => (List.mem_append.mp member).elim slashless plain
  have canonical : Path.Canonical { parts := [name ++ suffix] } :=
    ⟨.head _, List.forall_mem_singleton.mpr ⟨named, clean⟩⟩
  have spelled : Path.text { parts := [name ++ suffix] } = name ++ suffix := by
    rw [Path.text, if_neg (by simp), Path.joined, String.intercalate_singleton, String.empty_append]
  have read : Path.ofString (name ++ suffix) = { parts := [name ++ suffix] } := by
    have back := Path.ofString_text canonical
    rwa [spelled] at back
  rw [filePath, read]
  rfl

theorem canonical_filePath (canonical : directory.Canonical) :
    (filePath directory name).Canonical :=
  canonical.join (Path.canonical_ofString _)

variable (directory) in
theorem text_filePath (slashless : '/' ∉ name.toList) :
    ∃ front, (filePath directory name).text = front ++ (name ++ suffix) := by
  obtain ⟨front, spelled⟩ := Path.joined_concat directory.parts (name ++ suffix)
  rw [filePath_eq slashless, Path.text, if_neg (by simp), spelled, ← String.append_assoc]
  exact ⟨_, rfl⟩

theorem isPath_filePath (slashless : '/' ∉ name.toList) :
    Command.isPath (filePath directory name).text = true := by
  obtain ⟨front, spelled⟩ := text_filePath directory slashless
  have lowered : Text.lower suffix = suffix := by decide
  have ends : (Text.lower (filePath directory name).text).endsWith suffix = true := by
    rw [spelled, ← String.append_assoc, Text.lower_append, lowered]
    exact Text.endsWith_append _ _
  rw [Command.isPath, ends]
  rfl

end SpecDirectory

namespace Config

theorem except_ok_of_bind {α β : Type} {x : Except Failure α} {f : α → Except Failure β} {b : β}
    (h : x >>= f = .ok b) : ∃ a, x = .ok a ∧ f a = .ok b := by
  cases x with
  | error e => cases h
  | ok a => exact ⟨a, rfl, h⟩

theorem canonical_default : ({} : Config).specDirectory.Canonical :=
  ⟨by decide, by decide⟩

theorem canonical_chosen {p : Path} (given : Option String) (canonical : p.Canonical) :
    ((given.map Path.ofString).getD p).Canonical := by
  cases given with
  | none => exact canonical
  | some s => exact Path.canonical_ofString s

theorem canonical_ofTable {source : Path} {data : Entries Toml} {c : Config}
    (h : ofTable source data = .ok c) : c.specDirectory.Canonical := by
  unfold ofTable at h
  iterate 10 obtain ⟨_, -, h⟩ := except_ok_of_bind h
  cases h
  exact canonical_chosen _ canonical_default

/-- What holds of the default, of every configuration in a file and under every environment holds of
whatever is loaded. -/
theorem holds_of_load {p : Config → Prop} (standard : p {})
    (filed : ∀ source data c, ofTable source data = .ok c → p c)
    (overridden : ∀ env c c', p c → override env c = .ok c' → p c')
    {t : FileTree} {env : Entries String} {path : Option Path} {c : Config}
    (h : (load t env path).outcome = .ok c) : p c := by
  unfold load at h
  obtain ⟨given, read, h⟩ := Logged.ok_of_bind h
  refine overridden env given c ?_ h
  unfold ofFile at read
  split at read
  · obtain ⟨os, -, read⟩ := Logged.ok_of_bind read
    obtain ⟨kept, decoded, read⟩ := Logged.ok_of_bind read
    obtain ⟨-, -, read⟩ := Logged.ok_of_bind read
    cases read
    have decoded : ofOctets _ os = .ok given := decoded
    unfold ofOctets at decoded
    split at decoded
    · cases decoded
    unfold ofText at decoded
    split at decoded
    · cases decoded
    · cases decoded
    · exact filed _ _ _ decoded
  · cases read
    exact standard

/-- Wherever the directory of a configuration comes from, it was read from a text. -/
theorem canonical_load {t : FileTree} {env : Entries String} {path : Option Path} {c : Config}
    (h : (load t env path).outcome = .ok c) : c.specDirectory.Canonical := by
  refine holds_of_load (p := fun c => c.specDirectory.Canonical) canonical_default
    (fun _ _ _ => canonical_ofTable) (fun env c c' canonical h => ?_) h
  unfold override at h
  obtain ⟨timeout, -, h⟩ := except_ok_of_bind h
  obtain ⟨level, -, h⟩ := except_ok_of_bind h
  cases h
  exact canonical_chosen _ canonical

theorem named_of_levelOf {name : String} {level : Log.Level} (h : levelOf name = .ok level) :
    level ∈ Log.namedLevels := by
  unfold levelOf at h
  split at h
  · rename_i found
    cases h
    exact List.mem_of_find?_eq_some found
  · cases h

theorem named_chosen {name : Option String} {given : Option Log.Level} {level : Log.Level}
    (h : name.mapM levelOf = .ok given) (named : level ∈ Log.namedLevels) :
    given.getD level ∈ Log.namedLevels := by
  cases name with
  | none =>
    cases h
    exact named
  | some name =>
    obtain ⟨chosen, came, h⟩ := except_ok_of_bind (h : levelOf name >>= _ = _)
    cases h
    exact named_of_levelOf came

theorem level_of_load {t : FileTree} {env : Entries String} {path : Option Path} {c : Config}
    (h : (load t env path).outcome = .ok c) : c.level ∈ Log.namedLevels := by
  refine holds_of_load (p := fun c => c.level ∈ Log.namedLevels) (by decide)
    (fun source data c h => ?_) (fun env c c' named h => ?_) h
  · unfold ofTable at h
    iterate 9 obtain ⟨_, -, h⟩ := except_ok_of_bind h
    obtain ⟨level, came, h⟩ := except_ok_of_bind h
    cases h
    exact named_chosen came (by decide)
  · unfold override at h
    obtain ⟨timeout, -, h⟩ := except_ok_of_bind h
    obtain ⟨level, came, h⟩ := except_ok_of_bind h
    cases h
    exact named_chosen came named

end Config
end FeatureSpec
