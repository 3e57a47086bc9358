import FeatureSpec.Files.Tree
import Mathlib.Data.List.Nodup
/-!
What a file system can hold, and where paths lead in it. From a directory, names lead to the file
at these names, if there is one, and to nothing else; so the files below a directory are known by
the names that lead to them.
-/
namespace FeatureSpec.FileTree

structure IsName (name : String) : Prop where
  part : Path.isPart name = true
  downward : name ≠ ".."
  whole : '/' ∉ name.toList
  visible : '\x00' ∉ name.toList

instance (name : String) : Decidable (IsName name) :=
  decidable_of_iff (Path.isPart name = true ∧ name ≠ ".." ∧ '/' ∉ name.toList ∧
      '\x00' ∉ name.toList)
    ⟨fun ⟨part, downward, whole, visible⟩ => ⟨part, downward, whole, visible⟩,
      fun named => ⟨named.part, named.downward, named.whole, named.visible⟩⟩

/-- What a file system can hold: its entries have names, no two files are at one place, and nothing
lies below a file. -/
structure WellFormed (t : FileTree) : Prop where
  rooted : ∀ name ∈ t.base.parts, IsName name
  named : ∀ f ∈ t.files, ∀ name ∈ f.1, IsName name
  madeNamed : ∀ made ∈ t.made, ∀ name ∈ made, IsName name
  inside : ∀ f ∈ t.files, f.1 ≠ []
  distinct : (t.files.map Prod.fst).Nodup
  apart : ∀ f ∈ t.files, ∀ g ∈ t.files, f.1 <+: g.1 → f.1 = g.1
  leaf : ∀ f ∈ t.files, ∀ made ∈ t.made, ¬f.1 <+: made

/-- A file lies below a directory, at these names from there. -/
def LiesBelow (t : FileTree) (directory : Path) (names : List String) (content : Octets) : Prop :=
  names ≠ [] ∧
    ∃ parts, t.place directory = .ok (.inside parts) ∧ t.file? (parts ++ names) = some content

variable {t : FileTree} {parts names : List String} {content : Octets} {directory : Path}

/-! ### Entries -/

theorem file?_eq_some_iff (wf : t.WellFormed) :
    t.file? parts = some content ↔ (parts, content) ∈ t.files := by
  have distinct := wf.distinct
  unfold file?
  generalize t.files = files at distinct
  induction files with
  | nil => simp
  | cons f rest ih =>
    obtain ⟨place, held⟩ := f
    rw [List.map_cons, List.nodup_cons] at distinct
    by_cases here : place = parts
    · subst here
      have fresh : (place, content) ∉ rest := fun member =>
        distinct.1 (List.mem_map.mpr ⟨_, member, rfl⟩)
      simp [fresh, eq_comm]
    · simpa [here, Ne.symm here] using ih distinct.2

theorem hasDirectory_of_file (held : (parts ++ names, content) ∈ t.files) (deeper : names ≠ []) :
    t.hasDirectory parts = true := by
  have around : (parts.isPrefixOf (parts ++ names) && parts != parts ++ names) = true := by
    simpa using deeper
  simp only [hasDirectory, Bool.or_eq_true]
  exact .inr (List.any_eq_true.mpr ⟨_, held, around⟩)

theorem hasDirectory_eq_false (wf : t.WellFormed) (held : (parts, content) ∈ t.files) :
    t.hasDirectory parts = false := by
  have inside : parts ≠ [] := wf.inside _ held
  have unmade : t.made.any (parts.isPrefixOf ·) = false := by
    simpa using wf.leaf _ held
  have alone : (t.files.any fun f => parts.isPrefixOf f.1 && parts != f.1) = false := by
    simpa using fun names content other => wf.apart _ held (names, content) other
  simp [hasDirectory, inside, unmade, alone]

theorem entry?_of_hasDirectory (wf : t.WellFormed) (isDirectory : t.hasDirectory parts = true) :
    t.entry? parts = some .directory := by
  have unheld : t.file? parts = none := by
    refine Option.eq_none_iff_forall_ne_some.mpr fun content held => ?_
    rw [hasDirectory_eq_false wf ((file?_eq_some_iff wf).mp held)] at isDirectory
    cases isDirectory
  unfold entry?
  rw [unheld]
  exact if_pos isDirectory

theorem isName_of_hasDirectory (wf : t.WellFormed) (isDirectory : t.hasDirectory parts = true) :
    ∀ name ∈ parts, IsName name := by
  simp only [hasDirectory, Bool.or_eq_true, List.any_eq_true, Bool.and_eq_true,
    List.isPrefixOf_iff_prefix, List.isEmpty_iff] at isDirectory
  rcases isDirectory with (rfl | ⟨made, member, leads⟩) | ⟨f, member, leads, -⟩
  · exact List.forall_mem_nil _
  · exact fun name among => wf.madeNamed made member name (leads.subset among)
  · exact fun name among => wf.named f member name (leads.subset among)

theorem hasDirectory_of_found (found : t.entry? parts = some .directory) :
    t.hasDirectory parts = true := by
  unfold entry? at found
  split at found
  · cases found
  · split at found
    · assumption
    · cases found

/-! ### Walking -/

theorem walk_append (place : Place) (front back : List String) :
    t.walk place (front ++ back) = (t.walk place front).bind fun place => t.walk place back := by
  induction front generalizing place with
  | nil => simp [walk, Except.bind]
  | cons part rest ih =>
    cases place with
    | above =>
      simp only [List.cons_append, walk]
      split
      · exact ih _
      · rfl
    | inside parts =>
      simp only [List.cons_append, walk]
      cases t.entry? parts with
      | none => rfl
      | some entry =>
        cases entry with
        | file content => rfl
        | directory =>
          dsimp only
          split <;> exact ih _

/-- Where one part leads from a place. -/
def Place.step : Place → String → Place
  | .above, _ => .above
  | .inside parts, part =>
    if part = ".." then if parts = [] then .above else .inside parts.dropLast
    else .inside (parts ++ [part])

/-- What a part may lead on from: a directory in the tree, and above it only what lies above as
well. -/
def Passes (t : FileTree) : Place → String → Prop
  | .above, part => part = ".."
  | .inside parts, _ => t.entry? parts = some .directory

theorem walk_cons_eq_ok {place last : Place} {part : String} {rest : List String} :
    t.walk place (part :: rest) = .ok last ↔
      t.Passes place part ∧ t.walk (place.step part) rest = .ok last := by
  cases place with
  | above =>
    rw [walk, Passes, Place.step]
    split
    · rename_i upward
      exact (and_iff_right upward).symm
    · rename_i other
      exact iff_of_false nofun fun passed => other passed.1
  | inside parts =>
    rw [walk, Passes, Place.step]
    split
    · rename_i missing
      exact iff_of_false nofun fun passed => nomatch missing.symm.trans passed.1
    · rename_i content held
      exact iff_of_false nofun fun passed => nomatch held.symm.trans passed.1
    · rename_i directory
      rw [and_iff_right directory]
      split <;> rfl

/-- Nothing leads back into the tree from above it. -/
theorem walk_above_ne (front : List String) : t.walk .above front ≠ .ok (.inside parts) := by
  intro leads
  induction front with
  | nil => cases leads
  | cons part rest ih => exact ih (walk_cons_eq_ok.mp leads).2

theorem walk_downward {place : Place} (downward : ∀ name ∈ names, name ≠ "..")
    (leads : t.walk (.inside parts) names = .ok place) : place = .inside (parts ++ names) := by
  induction names generalizing parts with
  | nil =>
    rw [List.append_nil]
    exact (Except.ok.inj leads).symm
  | cons name rest ih =>
    obtain ⟨here, later⟩ := List.forall_mem_cons.mp downward
    obtain ⟨-, onward⟩ := walk_cons_eq_ok.mp leads
    rw [Place.step, if_neg here] at onward
    simpa using ih later onward

/-- The names of a file below a place lead from there to the file, and to what it lies below. -/
theorem walk_toward_file (wf : t.WellFormed) (more : List String)
    (held : (parts ++ (names ++ more), content) ∈ t.files) :
    t.walk (.inside parts) names = .ok (.inside (parts ++ names)) := by
  induction names generalizing parts with
  | nil => rw [walk, List.append_nil]
  | cons name rest ih =>
    have isDirectory : t.entry? parts = some .directory :=
      entry?_of_hasDirectory wf (hasDirectory_of_file held (List.cons_ne_nil _ _))
    have downward : name ≠ ".." := (wf.named _ held name (by simp)).downward
    have onward (later : List String) : parts ++ name :: later = (parts ++ [name]) ++ later := by
      simp
    refine walk_cons_eq_ok.mpr ⟨isDirectory, ?_⟩
    rw [Place.step, if_neg downward, onward rest]
    refine ih ?_
    rwa [List.cons_append, onward (rest ++ more)] at held

theorem hasDirectory_of_walk {around : List String}
    (leads : t.walk (.inside around) names = .ok (.inside parts))
    (ends : t.hasDirectory parts = true) : t.hasDirectory around = true := by
  cases names with
  | nil =>
    obtain rfl : around = parts := Place.inside.inj (Except.ok.inj leads)
    exact ends
  | cons name rest => exact hasDirectory_of_found (walk_cons_eq_ok.mp leads).1

/-- What leads to a directory has no character that no system takes. -/
theorem clean_of_walk (wf : t.WellFormed) {place : Place} {front : List String}
    (leads : t.walk place front = .ok (.inside parts)) (ends : t.hasDirectory parts = true) :
    ∀ part ∈ front, '\x00' ∉ part.toList := by
  induction front generalizing place with
  | nil => exact List.forall_mem_nil _
  | cons part rest ih =>
    obtain ⟨-, onward⟩ := walk_cons_eq_ok.mp leads
    refine List.forall_mem_cons.mpr ⟨?_, ih onward⟩
    cases place with
    | above => exact absurd onward (walk_above_ne _)
    | inside around =>
      by_cases upward : part = ".."
      · exact upward ▸ by decide
      · rw [Place.step, if_neg upward] at onward
        have passed := hasDirectory_of_walk onward ends
        exact (isName_of_hasDirectory wf passed part (by simp)).visible

/-! ### Paths -/

/-- The directories of a tree are directories of the other one too. -/
structure KeepsDirectories (t u : FileTree) : Prop where
  base : u.base = t.base
  directory : ∀ parts, t.entry? parts = some .directory → u.entry? parts = some .directory

theorem walk_of_kept {u : FileTree} (kept : KeepsDirectories t u) {place last : Place}
    (leads : t.walk place names = .ok last) : u.walk place names = .ok last := by
  induction names generalizing place with
  | nil => exact leads
  | cons name rest ih =>
    obtain ⟨passes, onward⟩ := walk_cons_eq_ok.mp leads
    refine walk_cons_eq_ok.mpr ⟨?_, ih onward⟩
    cases place with
    | above => exact passes
    | inside parts => exact kept.directory parts passes

/-- A path leads to the same place for as long as no directory goes. -/
theorem place_of_kept {u : FileTree} (kept : KeepsDirectories t u) {p : Path} {last : Place}
    (leads : t.place p = .ok last) : u.place p = .ok last := by
  have start : u.start p = t.start p := by
    unfold start
    rw [kept.base]
  unfold place at leads ⊢
  rw [start]
  exact walk_of_kept kept leads

theorem mem_of_start {p : Path} {name : String} (among : name ∈ (t.start p).2) :
    name ∈ p.parts := by
  unfold start at among
  split at among
  · exact among
  split at among
  · exact List.mem_of_mem_drop among
  · exact among

/-- A path that leads into the tree is continued from where it leads to. -/
theorem place_join (leads : t.place directory = .ok (.inside parts)) (names : List String) :
    t.place (directory.join { parts := names }) = t.walk (.inside parts) names := by
  have joined : directory.join { parts := names } =
      { directory with parts := directory.parts ++ names } := rfl
  have continued : ∀ place front, t.start directory = (place, front) →
      t.start { directory with parts := directory.parts ++ names } = (place, front ++ names) →
      t.place { directory with parts := directory.parts ++ names } =
        t.walk (.inside parts) names := by
    intro place front from? onward
    have reached : t.walk place front = .ok (.inside parts) := by
      rw [FileTree.place, from?] at leads
      exact leads
    rw [FileTree.place, onward]
    dsimp only
    rw [walk_append, reached]
    rfl
  rw [joined]
  -- A path starts at the working directory if it is relative or leads through it.
  by_cases relative : directory.anchor = ""
  · refine continued (.inside []) directory.parts ?_ ?_ <;> simp [start, relative]
  · by_cases based : directory.anchor = t.base.anchor ∧
        t.base.parts.isPrefixOf directory.parts = true
    · obtain ⟨anchored, prefixed⟩ := based
      have shorter := List.isPrefixOf_iff_prefix.mp prefixed
      refine continued (.inside []) (directory.parts.drop t.base.parts.length) ?_ ?_
      · rw [start, if_neg relative, if_pos ⟨anchored, prefixed⟩]
      · have longer : t.base.parts.isPrefixOf (directory.parts ++ names) = true :=
          List.isPrefixOf_iff_prefix.mpr (shorter.trans (List.prefix_append _ _))
        rw [start, if_neg relative, if_pos ⟨anchored, longer⟩,
          List.drop_append_of_le_length shorter.length_le]
    · rw [FileTree.place, start, if_neg relative, if_neg based] at leads
      exact absurd leads (walk_above_ne _)

/-- Names lead from a directory to a file exactly if there is one at these names. -/
theorem lookup_join (wf : t.WellFormed) (leads : t.place directory = .ok (.inside parts))
    (downward : ∀ name ∈ names, name ≠ "..") :
    t.lookup (directory.join { parts := names }) = .ok (.file content) ↔
      t.file? (parts ++ names) = some content := by
  rw [lookup, place_join leads]
  constructor
  · intro found
    cases walked : t.walk (.inside parts) names with
    | error fault => simp [walked, bind, Except.bind] at found
    | ok place =>
      obtain rfl := walk_downward downward walked
      simp only [walked, bind, Except.bind, entry?] at found
      cases held : t.file? (parts ++ names) with
      | some other => simpa [held, pure, Except.pure] using found
      | none =>
        cases isDirectory : t.hasDirectory (parts ++ names) <;>
          simp [held, isDirectory, pure, Except.pure] at found
  · intro held
    have member := (file?_eq_some_iff wf).mp held
    rw [walk_toward_file wf [] (by rwa [List.append_nil])]
    simp [bind, Except.bind, pure, Except.pure, entry?, held]

theorem isFile_join (wf : t.WellFormed) (leads : t.place directory = .ok (.inside parts))
    (downward : ∀ name ∈ names, name ≠ "..") :
    t.isFile (directory.join { parts := names }) = true ↔
      ∃ content, t.file? (parts ++ names) = some content := by
  rw [isFile, ← exists_congr fun _ => lookup_join wf leads downward]
  split
  · rename_i content found
    simp [found]
  · rename_i other
    simpa using other

theorem clean_of_place (wf : t.WellFormed) (leads : t.place directory = .ok (.inside parts))
    (ends : t.hasDirectory parts = true) : ∀ part ∈ directory.parts, '\x00' ∉ part.toList := by
  rw [FileTree.place, start] at leads
  by_cases relative : directory.anchor = ""
  · rw [if_pos relative] at leads
    exact clean_of_walk wf leads ends
  rw [if_neg relative] at leads
  by_cases based : directory.anchor = t.base.anchor ∧
      t.base.parts.isPrefixOf directory.parts = true
  · rw [if_pos based] at leads
    obtain ⟨rest, spelled⟩ := List.isPrefixOf_iff_prefix.mp based.2
    rw [← spelled, List.drop_left] at leads
    rw [← spelled]
    exact List.forall_mem_append.mpr
      ⟨fun part among => (wf.rooted part among).visible, clean_of_walk wf leads ends⟩
  · rw [if_neg based] at leads
    exact absurd leads (walk_above_ne _)

/-! ### What lies below a directory -/

theorem mem_below (wf : t.WellFormed) :
    (names, content) ∈ t.below directory ↔ t.LiesBelow directory names content := by
  unfold below LiesBelow
  constructor
  · intro member
    split at member
    case h_2 => cases member
    rename_i parts leads
    split at member
    case isFalse => cases member
    rename_i isDirectory
    simp only [List.mem_map, List.mem_filter, Prod.mk.injEq, Prod.exists,
      List.isPrefixOf_iff_prefix] at member
    obtain ⟨_, _, ⟨held, rest, rfl⟩, rfl, rfl⟩ := member
    have found := (file?_eq_some_iff wf).mpr held
    rw [List.drop_left]
    refine ⟨?_, parts, leads, found⟩
    rintro rfl
    rw [List.append_nil] at found
    simp [found, entry?] at isDirectory
  · rintro ⟨deeper, parts, leads, found⟩
    have held := (file?_eq_some_iff wf).mp found
    rw [leads]
    dsimp only
    rw [if_pos (entry?_of_hasDirectory wf (hasDirectory_of_file held deeper))]
    simp only [List.mem_map, List.mem_filter, Prod.mk.injEq, Prod.exists,
      List.isPrefixOf_iff_prefix]
    exact ⟨_, _, ⟨held, List.prefix_append _ _⟩, List.drop_left, rfl⟩

/-- No names lead to two files below a directory. -/
theorem below_distinct (wf : t.WellFormed) (directory : Path) :
    ((t.below directory).map Prod.fst).Nodup := by
  unfold below
  split
  case h_2 => exact List.nodup_nil
  rename_i parts leads
  split
  case isFalse => exact List.nodup_nil
  rw [List.map_map]
  refine List.Nodup.map_on ?_ ((wf.distinct.of_map _).filter _)
  rintro ⟨places, held⟩ member ⟨others, kept⟩ among same
  obtain ⟨heldAt, rest, rfl⟩ : _ ∧ parts <+: places := by simpa using member
  obtain ⟨keptAt, more, rfl⟩ : _ ∧ parts <+: others := by simpa using among
  obtain rfl : rest = more := by simpa using same
  have one := (file?_eq_some_iff wf).mpr heldAt
  have two := (file?_eq_some_iff wf).mpr keptAt
  rw [one] at two
  rw [Option.some.inj two]

theorem below_eq_nil (missing : t.isDirectory directory = false) : t.below directory = [] := by
  unfold below
  split
  case h_2 => rfl
  rename_i parts leads
  refine if_neg fun isDirectory => ?_
  have found : t.lookup directory = .ok .directory := by
    rw [lookup, leads]
    simp [bind, Except.bind, pure, Except.pure, isDirectory]
  rw [FileTree.isDirectory, found] at missing
  cases missing

theorem isName_of_liesBelow (wf : t.WellFormed) (lies : t.LiesBelow directory names content) :
    ∀ name ∈ names, IsName name := by
  obtain ⟨-, parts, -, found⟩ := lies
  have held := (file?_eq_some_iff wf).mp found
  exact fun name among => wf.named _ held name (List.mem_append_right _ among)

theorem read_of_liesBelow (wf : t.WellFormed) (lies : t.LiesBelow directory names content) :
    t.read (directory.join { parts := names }) = .ok content := by
  have named := isName_of_liesBelow wf lies
  obtain ⟨deeper, parts, leads, found⟩ := lies
  have held := (file?_eq_some_iff wf).mp found
  have clean : (directory.join { parts := names }).hasNul = false := by
    have front := clean_of_place wf leads (hasDirectory_of_file held deeper)
    simpa [Path.hasNul, Path.join, or_imp, forall_and] using
      And.intro front fun name among => (named name among).visible
  rw [read, clean, (lookup_join wf leads fun name among => (named name among).downward).mpr found]
  rfl

theorem isFile_of_liesBelow (wf : t.WellFormed) (lies : t.LiesBelow directory names content) :
    t.isFile (directory.join { parts := names }) = true := by
  have named := isName_of_liesBelow wf lies
  obtain ⟨-, parts, leads, found⟩ := lies
  exact (isFile_join wf leads fun name among => (named name among).downward).mpr ⟨content, found⟩

/-! ### Trees that differ in one file -/

/-- Two trees that differ at most by the file at one place. -/
structure ApartAt (place : List String) (t u : FileTree) : Prop where
  base : u.base = t.base
  others : ∀ parts ≠ place, u.file? parts = t.file? parts

variable {u : FileTree} {place : List String}

theorem ApartAt.symm (apart : ApartAt place t u) : ApartAt place u t :=
  ⟨apart.base.symm, fun parts other => (apart.others parts other).symm⟩

theorem apartAt_erase (t : FileTree) (place : List String) : ApartAt place t (t.erase place) where
  base := rfl
  others := by
    intro parts other
    have kept (f : List String × Octets) :
        decide ((f.1 != place) = true ∧ (f.1 == parts) = true) = (f.1 == parts) := by
      by_cases here : f.1 = parts
      · simp [here, other]
      · simp [here]
    simp only [file?, erase, List.find?_filter, kept]

/-- A file that is put at a place is the only one that is new or different. -/
theorem apartAt_put (t : FileTree) (place : List String) (content : Octets) :
    ApartAt place t (t.put place content) where
  base := rfl
  others := by
    intro parts other
    have elsewhere : ([(place, content)].find? fun f => f.1 == parts) = none := by
      simpa using Ne.symm other
    have erased := (apartAt_erase t place).others parts other
    unfold file? erase at erased
    unfold file? put
    rw [List.find?_append, elsewhere, Option.or_none]
    exact erased

/-- A file that is the same in two trees lies below a directory in both, as long as no directory on
the way there is left again that is in one of them only. -/
theorem LiesBelow.kept (wf : u.WellFormed) (apart : ApartAt place t u)
    (same : ".." ∈ directory.parts → ∀ parts, u.hasDirectory parts = t.hasDirectory parts)
    (lies : t.LiesBelow directory names content)
    (other : ∀ parts, t.place directory = .ok (.inside parts) → parts ++ names ≠ place) :
    u.LiesBelow directory names content := by
  obtain ⟨deeper, parts, leads, found⟩ := lies
  have kept : u.file? (parts ++ names) = some content := by
    rw [apart.others _ (other parts leads)]
    exact found
  have held := (file?_eq_some_iff wf).mp kept
  refine ⟨deeper, parts, ?_, kept⟩
  by_cases upward : ".." ∈ directory.parts
  · have directories : KeepsDirectories t u := ⟨apart.base, fun around here =>
      entry?_of_hasDirectory wf ((same upward around).trans (hasDirectory_of_found here))⟩
    exact place_of_kept directories leads
  -- Where nothing leads back up, the file itself keeps the directories on the way to it.
  · have started : u.start directory = t.start directory := by
      rw [start, start, apart.base]
    rw [FileTree.place] at leads ⊢
    rw [started]
    have front : ∀ name ∈ (t.start directory).2, name ≠ ".." :=
      fun name among same => upward (same ▸ mem_of_start among)
    rcases reached : t.start directory with ⟨at?, rest⟩
    rw [reached] at leads front
    cases at? with
    | above => exact absurd leads (walk_above_ne _)
    | inside around =>
      obtain same := Place.inside.inj (walk_downward front leads)
      rw [same] at held ⊢
      rw [List.append_assoc] at held
      exact walk_toward_file wf names held

end FeatureSpec.FileTree
