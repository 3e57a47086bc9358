import FeatureSpec.Log.Output
import FeatureSpec.Proofs.FileTrees
/-!
Trees that hold everything another one holds. Directories that are made and a log file that is
opened only add to a tree, so every file that was there is read as before.
-/
namespace FeatureSpec.FileTree

/-- All that a tree holds stands in the other one too. -/
structure Grown (t u : FileTree) : Prop where
  base : u.base = t.base
  entry : ∀ parts e, t.entry? parts = some e → u.entry? parts = some e

theorem Grown.refl (t : FileTree) : Grown t t := ⟨rfl, fun _ _ held => held⟩

variable {t u v : FileTree} {parts : List String}

theorem Grown.trans (first : Grown t u) (second : Grown u v) : Grown t v where
  base := second.base.trans first.base
  entry parts e held := second.entry parts e (first.entry parts e held)

/-- A tree grows where it has no fewer directories and, but for a place where nothing stood, the
same files. -/
theorem grown_of_files (base : u.base = t.base)
    (files : ∀ parts, t.entry? parts ≠ none → u.file? parts = t.file? parts)
    (directories : ∀ parts, t.hasDirectory parts = true → u.hasDirectory parts = true) :
    Grown t u where
  base := base
  entry parts e held := by
    unfold entry?
    rw [files parts (by simp [held])]
    unfold entry? at held
    split at held
    · exact held
    · split at held
      · rename_i directory
        rw [if_pos (directories parts directory)]
        exact held
      · cases held

theorem grown_made (t : FileTree) (directory : List String) :
    Grown t { t with made := t.made ++ [directory] } := by
  refine grown_of_files rfl (fun _ _ => rfl) fun parts held => ?_
  simp only [hasDirectory, List.any_append, Bool.or_eq_true] at held ⊢
  rcases held with (root | made) | around
  · exact .inl (.inl root)
  · exact .inl (.inr (.inl made))
  · exact .inr around

theorem grown_put (vacant : t.entry? parts = none) (content : Octets) :
    Grown t (t.put parts content) := by
  have unheld : t.file? parts = none := by
    unfold entry? at vacant
    split at vacant
    · cases vacant
    · assumption
  have elsewhere : ∀ f ∈ t.files, f.1 ≠ parts := by
    intro f member here
    have first := List.find?_eq_none.mp (Option.map_eq_none_iff.mp unheld) f member
    exact first (beq_iff_eq.mpr here)
  -- Nothing stood there, so no file has to go for the one that is put.
  have files : (t.put parts content).files = t.files ++ [(parts, content)] := by
    show t.files.filter (fun f => f.1 != parts) ++ _ = _
    rw [List.filter_eq_self.mpr fun f member => bne_iff_ne.mpr (elsewhere f member)]
  refine grown_of_files rfl (fun others occupied => ?_) fun others held => ?_
  · have apart : parts ≠ others := fun same => occupied (same ▸ vacant)
    simp [file?, files, apart]
  · simp only [hasDirectory, files, List.any_append, Bool.or_eq_true] at held ⊢
    rcases held with (root | made) | around
    · exact .inl (.inl root)
    · exact .inl (.inr made)
    · exact .inr (.inl around)

/-! ### Paths in a tree that has grown -/

theorem KeepsDirectories.refl (t : FileTree) : KeepsDirectories t t := ⟨rfl, fun _ held => held⟩

theorem KeepsDirectories.trans (first : KeepsDirectories t u) (second : KeepsDirectories u v) :
    KeepsDirectories t v where
  base := second.base.trans first.base
  directory parts held := second.directory parts (first.directory parts held)

theorem Grown.keepsDirectories (grown : Grown t u) : KeepsDirectories t u :=
  ⟨grown.base, fun parts held => grown.entry parts _ held⟩

theorem lookup_of_grown (grown : Grown t u) {p : Path} {e : Entry} (found : t.lookup p = .ok e) :
    u.lookup p = .ok e := by
  unfold lookup at found ⊢
  rcases leads : t.place p with fault | last
  · rw [leads] at found
    cases found
  have leads' : u.place p = .ok last := place_of_kept grown.keepsDirectories leads
  rw [leads] at found
  rw [leads']
  cases last with
  | above => exact found
  | inside parts =>
    rcases held : t.entry? parts with _ | e'
    · simp only [held, bind, Except.bind] at found
      cases found
    · simp only [held, bind, Except.bind] at found
      simpa only [grown.entry _ _ held, bind, Except.bind] using found

theorem read_of_grown (grown : Grown t u) {p : Path} {os : Octets} (read : t.read p = .ok os) :
    u.read p = .ok os := by
  unfold FileTree.read at read ⊢
  split at read
  · cases read
  · rename_i plain
    rw [if_neg plain]
    split at read
    · rename_i found
      rw [lookup_of_grown grown found]
      exact read
    · cases read
    · cases read

/-! ### What makes a tree grow -/

theorem grown_makeWalk {names : List String} {place : Place}
    (made : t.makeWalk place names = .ok u) : Grown t u := by
  induction names generalizing t place with
  | nil =>
    rw [makeWalk] at made
    exact Except.ok.inj made ▸ .refl t
  | cons name rest ih =>
    cases place with
    | above =>
      rw [makeWalk] at made
      split at made
      · exact ih made
      · exact Except.ok.inj made ▸ .refl t
    | inside parts =>
      rw [makeWalk] at made
      dsimp only at made
      split at made
      · exact ih made
      · split at made
        · cases made
        · exact ih made
        · exact (grown_made t _).trans (ih made)

theorem grown_makeDirectory {p : Path} (made : t.makeDirectory p = .ok u) : Grown t u := by
  unfold makeDirectory at made
  dsimp only at made
  split at made
  · cases made
  · split at made
    · rename_i walked
      exact Except.ok.inj made ▸ grown_makeWalk walked
    · cases made

theorem entry?_of_unfound {p : Path} {fault : FileFault} (unfound : t.lookup p = .error fault)
    (leads : t.place p = .ok (.inside parts)) : t.entry? parts = none := by
  unfold lookup at unfound
  rw [leads] at unfound
  rcases held : t.entry? parts with _ | e
  · rfl
  · simp only [held, bind, Except.bind] at unfound
    cases unfound

theorem grown_openIn {f : Log.LogFile} {directory : Path} (opened : f.openIn directory t = .ok u) :
    Grown t u := by
  unfold Log.LogFile.openIn at opened
  rcases made : t.makeDirectory directory with fault | t'
  · rw [made] at opened
    cases opened
  rw [made] at opened
  refine (grown_makeDirectory made).trans ?_
  simp only [bind, Except.bind] at opened
  split at opened
  · exact Except.ok.inj opened ▸ .refl t'
  · cases opened
  · rename_i unfound
    split at opened
    · rename_i leads
      exact Except.ok.inj opened ▸ grown_put (entry?_of_unfound unfound leads) []
    · exact Except.ok.inj opened ▸ .refl t'

theorem grown_prepare {s : Log.Setup} {directory : Option Path}
    (prepared : s.prepare directory t = .ok u) : Grown t u := by
  unfold Log.Setup.prepare at prepared
  split at prepared
  · exact grown_openIn prepared
  · exact Except.ok.inj prepared ▸ .refl t

end FeatureSpec.FileTree
