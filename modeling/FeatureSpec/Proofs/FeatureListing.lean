import FeatureSpec.Proofs.CompileFailures
import FeatureSpec.Proofs.FeatureNames
import FeatureSpec.Proofs.FeaturePaths
import FeatureSpec.Proofs.FileTrees
import Mathlib.Data.List.Pairwise
import Mathlib.Data.String.Basic
/-!
The features that a directory lists, and which of them are found by their names. A file is listed
whatever the letters of its suffix are, but it is found only if they are small.
-/
namespace FeatureSpec.SpecDirectory

open FileTree

/-- A file of this name lies in a directory itself. -/
def Holds (t : FileTree) (directory : Path) (file : String) : Prop :=
  ∃ content, t.LiesBelow directory [file] content

/-- An outcome that a failed lookup is the end of. -/
def Unfound {α : Type} (outcome : Except Failure α) : Prop :=
  ∃ f, outcome = .error f ∧ f.isLookup = true

/-- The features that files in the directory itself belong to, unsorted. -/
def featureOf? (f : List String × Octets) : Option String :=
  match f.1 with
  | [name] => if isFeatureName name then some (Path.stem name) else none
  | _ => none

variable {t : FileTree} {directory : Path} {name : String}

theorem names_eq (t : FileTree) (directory : Path) :
    names t directory =
      ((t.below directory).filterMap featureOf?).mergeSort fun a b => decide (a ≤ b) := rfl

theorem featureOf?_eq_some_iff {parts : List String} {content : Octets} :
    featureOf? (parts, content) = some name ↔
      name ≠ "" ∧ ∃ s ∈ spellings, parts = [name ++ s] := by
  constructor
  · intro h
    unfold featureOf? at h
    split at h
    case h_2 => cases h
    rename_i file single
    split at h
    case isFalse => cases h
    rename_i feature
    obtain ⟨stem, named, s, spelled, rfl⟩ := (isFeatureName_iff file).mp feature
    rw [stem_spelled named spelled] at h
    cases h
    exact ⟨named, s, spelled, single⟩
  · rintro ⟨named, s, spelled, rfl⟩
    have feature := (isFeatureName_iff (name ++ s)).mpr ⟨name, named, s, spelled, rfl⟩
    unfold featureOf?
    dsimp only
    rw [if_pos feature, stem_spelled named spelled]

theorem mem_names (wf : t.WellFormed) :
    name ∈ names t directory ↔
      name ≠ "" ∧ ∃ s ∈ spellings, Holds t directory (name ++ s) := by
  rw [names_eq, List.mem_mergeSort, List.mem_filterMap]
  constructor
  · rintro ⟨⟨parts, content⟩, member, listed⟩
    obtain ⟨named, s, spelled, rfl⟩ := featureOf?_eq_some_iff.mp listed
    exact ⟨named, s, spelled, content, (mem_below wf).mp member⟩
  · rintro ⟨named, s, spelled, content, lies⟩
    exact ⟨_, (mem_below wf).mpr lies, featureOf?_eq_some_iff.mpr ⟨named, s, spelled, rfl⟩⟩

theorem names_sorted (t : FileTree) (directory : Path) :
    (names t directory).Pairwise (· ≤ ·) := by
  rw [names_eq]
  have transitive (a b c : String) (one : decide (a ≤ b) = true) (two : decide (b ≤ c) = true) :
      decide (a ≤ c) = true :=
    decide_eq_true (le_trans (of_decide_eq_true one) (of_decide_eq_true two))
  have total (a b : String) : (decide (a ≤ b) || decide (b ≤ a)) = true := by
    simpa using le_total a b
  exact (List.pairwise_mergeSort transitive total _).imp fun le => of_decide_eq_true le

/-- A name is listed twice exactly if two files have it, with their suffixes in different letters. -/
theorem names_nodup_iff (wf : t.WellFormed) :
    (names t directory).Nodup ↔ ∀ name ≠ "", ∀ s ∈ spellings, ∀ s' ∈ spellings,
      Holds t directory (name ++ s) → Holds t directory (name ++ s') → s = s' := by
  have listed : (t.below directory).Nodup := (below_distinct wf directory).of_map _
  rw [names_eq, (List.mergeSort_perm _ _).nodup_iff, List.nodup_iff_pairwise_ne,
    List.pairwise_filterMap]
  constructor
  · intro apart name named s spelled s' spelled' ⟨one, here⟩ ⟨two, there⟩
    by_contra other
    have files : ([name ++ s], one) ≠ ([name ++ s'], two) := by
      intro same
      have texts : name ++ s = name ++ s' := by simpa using congrArg Prod.fst same
      exact other (String.append_right_inj name |>.mp texts)
    -- Pairwise is about earlier and later; it is needed for two files in any order.
    have symmetric : Std.Symm fun f g : List String × Octets =>
        ∀ a, featureOf? f = some a → ∀ b, featureOf? g = some b → a ≠ b :=
      ⟨fun f g distinct a at? b bt? => (distinct b bt? a at?).symm⟩
    have distinct := apart.forall ((mem_below wf).mpr here) ((mem_below wf).mpr there) files
    exact distinct name (featureOf?_eq_some_iff.mpr ⟨named, s, spelled, rfl⟩) name
      (featureOf?_eq_some_iff.mpr ⟨named, s', spelled', rfl⟩) rfl
  · intro alone
    have unequal : (t.below directory).Pairwise (· ≠ ·) := listed
    refine unequal.imp_of_mem ?_
    rintro ⟨parts, one⟩ ⟨others, two⟩ member among files a at? b bt? rfl
    obtain ⟨named, s, spelled, rfl⟩ := featureOf?_eq_some_iff.mp at?
    obtain ⟨-, s', spelled', rfl⟩ := featureOf?_eq_some_iff.mp bt?
    have here := (mem_below wf).mp member
    have there := (mem_below wf).mp among
    -- Two files of one name have one suffix, so they are the same file, which is listed once.
    obtain rfl := alone a named s spelled s' spelled' ⟨one, here⟩ ⟨two, there⟩
    obtain ⟨-, parts, leads, found⟩ := here
    obtain ⟨-, parts', leads', found'⟩ := there
    rw [leads] at leads'
    cases leads'
    rw [found] at found'
    cases found'
    exact files rfl

/-! ### Finding a feature by its name -/

theorem filePath_eq_join (slashless : '/' ∉ name.toList) :
    filePath directory name = directory.join { parts := [name ++ suffix] } :=
  filePath_eq slashless

theorem isFile_filePath (wf : t.WellFormed) (slashless : '/' ∉ name.toList)
    (reached : ∃ parts, t.place directory = .ok (.inside parts)) :
    t.isFile (filePath directory name) = true ↔ Holds t directory (name ++ suffix) := by
  obtain ⟨parts, leads⟩ := reached
  have long : 4 ≤ (name ++ suffix).length := by
    rw [String.length_append]
    exact Nat.le_add_left 4 _
  have downward : ∀ part ∈ [name ++ suffix], part ≠ ".." :=
    List.forall_mem_singleton.mpr fun same => absurd (same ▸ long) (by decide)
  rw [filePath_eq_join slashless, isFile_join wf leads downward]
  constructor
  · exact fun ⟨content, found⟩ => ⟨content, List.cons_ne_nil _ _, parts, leads, found⟩
  · rintro ⟨content, -, others, leads', found⟩
    rw [leads] at leads'
    cases leads'
    exact ⟨content, found⟩

/-- Both ways to a feature find the file of its name. -/
theorem found_of_liesBelow (wf : t.WellFormed) {content : Octets} {names : List String}
    (path : filePath directory name = directory.join { parts := names })
    (lies : t.LiesBelow directory names content) :
    checksum t directory name = .ok { feature := name, checksum := Md5.hexDigest content } ∧
      ∀ strict, (load t strict directory name).outcome =
        (Document.compileOctets { strict, source := some (filePath directory name).text }
          content).outcome := by
  have held := read_of_liesBelow wf lies
  have isFile := isFile_of_liesBelow wf lies
  rw [← path] at held isFile
  constructor
  · unfold checksum
    dsimp only
    rw [if_pos isFile, fileChecksum, held]
    rfl
  · intro strict
    unfold load
    dsimp only
    rw [if_pos isFile, compileFile, held]
    rfl

theorem missing_of_not_isFile (strict : Bool)
    (nothing : t.isFile (filePath directory name) = false) :
    checksum t directory name = .error (missing name (filePath directory name)) ∧
      (load t strict directory name).outcome =
        .error (missing name (filePath directory name)) := by
  unfold checksum load
  dsimp only
  rw [nothing]
  exact ⟨rfl, rfl⟩

/-- What a directory lists is sorted. A name is listed once for every file in the directory itself
that it makes with a suffix of the right letters, capital or small; so it is listed twice where two
such files are. A listed name is found exactly if the file with the small suffix is there, and then
it is that file which is compiled and digested. -/
theorem listed_features_found (wf : t.WellFormed) (directory : Path) :
    (names t directory).Pairwise (· ≤ ·) ∧
      (∀ name, name ∈ names t directory ↔
        name ≠ "" ∧ ∃ s ∈ spellings, Holds t directory (name ++ s)) ∧
      ((names t directory).Nodup ↔ ∀ name ≠ "", ∀ s ∈ spellings, ∀ s' ∈ spellings,
        Holds t directory (name ++ s) → Holds t directory (name ++ s') → s = s') ∧
      ∀ name ∈ names t directory,
        (∀ content, t.LiesBelow directory [name ++ suffix] content →
          checksum t directory name = .ok { feature := name, checksum := Md5.hexDigest content } ∧
          ∀ strict, (load t strict directory name).outcome =
              (Document.compileOctets { strict, source := some (filePath directory name).text }
                content).outcome ∧
            ¬Unfound (load t strict directory name).outcome) ∧
        (¬Holds t directory (name ++ suffix) →
          checksum t directory name = .error (missing name (filePath directory name)) ∧
          ∀ strict, (load t strict directory name).outcome =
            .error (missing name (filePath directory name))) := by
  refine ⟨names_sorted t directory, fun _ => mem_names wf, names_nodup_iff wf, ?_⟩
  intro name listed
  obtain ⟨-, s, -, content, lies⟩ := (mem_names wf).mp listed
  -- A listed name is part of the name of a file, so it holds no slash.
  have slashless : '/' ∉ name.toList := by
    have whole := (isName_of_liesBelow wf lies _ (List.mem_singleton_self _)).whole
    rw [String.toList_append] at whole
    exact fun member => whole (List.mem_append_left _ member)
  have reached : ∃ parts, t.place directory = .ok (.inside parts) :=
    lies.2.imp fun _ here => here.1
  constructor
  · intro content lies
    obtain ⟨digested, compiled⟩ := found_of_liesBelow wf (filePath_eq_join slashless) lies
    refine ⟨digested, fun strict => ⟨compiled strict, ?_⟩⟩
    rintro ⟨f, failed, lookup⟩
    rw [compiled strict] at failed
    rw [Compile.isLookup_of_compileOctets failed] at lookup
    cases lookup
  · intro absent
    have nothing : t.isFile (filePath directory name) = false :=
      Bool.eq_false_iff.mpr (mt (isFile_filePath wf slashless reached).mp absent)
    exact ⟨(missing_of_not_isFile false nothing).1,
      fun strict => (missing_of_not_isFile strict nothing).2⟩

def mixedShelf : FileTree where
  files := [(["s", "X.XML"], []), (["s", "b.xml"], []), (["s", "b.Xml"], [0])]

theorem mixedShelf_wellFormed : mixedShelf.WellFormed where
  rooted := by decide
  named := by decide
  madeNamed := by decide
  inside := by decide
  distinct := by decide
  apart := by decide
  leaf := by decide

theorem small_suffix_found :
    mixedShelf.WellFormed ∧ "b" ∈ names mixedShelf { parts := ["s"] } ∧
      checksum mixedShelf { parts := ["s"] } "b" =
        .ok { feature := "b", checksum := Md5.hexDigest [] } := by
  have lies : mixedShelf.LiesBelow { parts := ["s"] } ["b" ++ suffix] [] :=
    ⟨by decide, ["s"], by decide, by decide⟩
  have listed : "b" ∈ names mixedShelf { parts := ["s"] } :=
    (mem_names mixedShelf_wellFormed).mpr ⟨by decide, ".xml", by decide, [], lies⟩
  obtain ⟨-, -, -, found⟩ := listed_features_found mixedShelf_wellFormed { parts := ["s"] }
  exact ⟨mixedShelf_wellFormed, listed, ((found "b" listed).1 [] lies).1⟩

/-- A file with a capital suffix is listed and not found, and two files make one name twice. -/
theorem capital_suffix_unfound :
    names mixedShelf { parts := ["s"] } = ["X", "b", "b"] ∧
      checksum mixedShelf { parts := ["s"] } "X" =
        .error (missing "X" { parts := ["s", "X.xml"] }) ∧
      (load mixedShelf false { parts := ["s"] } "X").outcome =
        .error (missing "X" { parts := ["s", "X.xml"] }) := by
  refine ⟨?_, ?_, ?_⟩
  · have unsorted : (mixedShelf.below { parts := ["s"] }).filterMap featureOf? =
        ["X", "b", "b"] := by
      with_unfolding_all rfl
    rw [names_eq, unsorted]
    exact List.mergeSort_of_pairwise (by decide)
  · with_unfolding_all rfl
  · with_unfolding_all rfl

end FeatureSpec.SpecDirectory
