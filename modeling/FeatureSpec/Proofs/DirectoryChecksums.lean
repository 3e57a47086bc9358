import FeatureSpec.Proofs.FeatureListing
import FeatureSpec.Proofs.FirstOccurrences
import Mathlib.Data.List.Lex
/-!
The checksums of a directory: one for every feature file below it, at any depth, under the names
that lead there. What happens to one file shows in its own checksum only.
-/
namespace FeatureSpec

namespace Path

theorem partsLe_iff (p q : List String) : partsLe p q = true ↔ p ≤ q := by
  have before : p.le q ↔ ¬q < p := Iff.rfl
  unfold partsLe
  rw [decide_eq_true_iff, before, not_lt]

theorem ofString_joined {parts : List String}
    (named : ∀ part ∈ parts, isPart part = true ∧ '/' ∉ part.toList) (nonempty : parts ≠ []) :
    ofString (joined parts) = { parts } := by
  have back := ofString_text (p := { parts }) ⟨.head _, named⟩
  rwa [text, if_neg (by simpa using nonempty), String.empty_append] at back

end Path

namespace SpecDirectory

open FileTree

/-- A feature file lies below a directory, at these names from there: the last of them is a stem
with the suffix after it, in capital or small letters. -/
def HoldsFeature (t : FileTree) (directory : Path) (names : List String) (content : Octets) :
    Prop :=
  t.LiesBelow directory names content ∧
    ∃ front stem, stem ≠ "" ∧ ∃ s ∈ spellings, names = front ++ [stem ++ s]

/-- The entry of a file: what leads to it, with slashes between the names, and its digest. -/
def entryOf (f : List String × Octets) : String × String := (Path.joined f.1, Md5.hexDigest f.2)

variable {t u : FileTree} {directory : Path} {names : List String} {content : Octets}

theorem checksums_eq (t : FileTree) (directory : Path) :
    checksums t directory = (files t directory).map entryOf := rfl

theorem mem_files (wf : t.WellFormed) :
    (names, content) ∈ files t directory ↔ HoldsFeature t directory names content := by
  rw [files, List.mem_mergeSort, List.mem_filter, mem_below wf]
  refine and_congr_right fun lies => ?_
  dsimp only
  rw [isFeatureName_iff]
  obtain ⟨front, last, rfl⟩ := List.eq_nil_or_concat names |>.resolve_left lies.1
  simp only [List.concat_eq_append, List.getLastD_concat]
  constructor
  · rintro ⟨stem, named, s, spelled, rfl⟩
    exact ⟨front, stem, named, s, spelled, rfl⟩
  · rintro ⟨front', stem, named, s, spelled, same⟩
    obtain ⟨-, single⟩ := List.append_inj' same rfl
    exact ⟨stem, named, s, spelled, List.singleton_inj.mp single⟩

theorem files_sorted (wf : t.WellFormed) (directory : Path) :
    (files t directory).Pairwise fun f g => f.1 < g.1 := by
  have transitive (f g h : List String × Octets) (one : Path.partsLe f.1 g.1 = true)
      (two : Path.partsLe g.1 h.1 = true) : Path.partsLe f.1 h.1 = true := by
    rw [Path.partsLe_iff] at one two ⊢
    exact le_trans one two
  have total (f g : List String × Octets) :
      (Path.partsLe f.1 g.1 || Path.partsLe g.1 f.1) = true := by
    rw [Bool.or_eq_true, Path.partsLe_iff, Path.partsLe_iff]
    exact le_total _ _
  have sorted := List.pairwise_mergeSort transitive total
    ((t.below directory).filter fun f => isFeatureName (f.1.getLastD ""))
  -- Sorting leaves equal neighbours; no two files have the same parts, so there are none.
  have distinct : ((files t directory).map Prod.fst).Nodup := by
    rw [files, ((List.mergeSort_perm _ _).map _).nodup_iff]
    exact (below_distinct wf directory).sublist (List.filter_sublist.map _)
  rw [List.nodup_iff_pairwise_ne, List.pairwise_map] at distinct
  refine (sorted.and distinct).imp ?_
  intro f g ⟨le, other⟩
  exact lt_of_le_of_ne ((Path.partsLe_iff _ _).mp le) other

theorem part_of_holdsFeature (wf : t.WellFormed)
    (holds : HoldsFeature t directory names content) :
    ∀ part ∈ names, Path.isPart part = true ∧ '/' ∉ part.toList := by
  intro part among
  have named := isName_of_liesBelow wf holds.1 part among
  exact ⟨named.part, named.whole⟩

theorem joined_injective (wf : t.WellFormed) (wf' : u.WellFormed) {others : List String}
    {content' : Octets} (holds : HoldsFeature t directory names content)
    (holds' : HoldsFeature u directory others content')
    (same : Path.joined names = Path.joined others) : names = others := by
  rw [← Path.parts_of_joined (part_of_holdsFeature wf holds), same,
    Path.parts_of_joined (part_of_holdsFeature wf' holds')]

theorem keys_nodup (wf : t.WellFormed) (directory : Path) :
    (Entries.keys (checksums t directory)).Nodup := by
  rw [Entries.keys, checksums_eq, List.map_map, List.nodup_iff_pairwise_ne, List.pairwise_map]
  refine (files_sorted wf directory).imp_of_mem ?_
  intro f g member among before same
  have one := (mem_files wf).mp member
  have two := (mem_files wf).mp among
  exact before.ne (joined_injective wf wf one two same)

theorem mem_checksums (wf : t.WellFormed) {key digest : String} :
    (key, digest) ∈ checksums t directory ↔ ∃ names content,
      HoldsFeature t directory names content ∧ entryOf (names, content) = (key, digest) := by
  rw [checksums_eq, List.mem_map, Prod.exists]
  exact exists_congr fun _ => exists_congr fun _ => and_congr_left fun _ => mem_files wf

/-- A feature file is found by its key without the suffix. -/
theorem checksum_of_entry (wf : t.WellFormed) {name digest : String}
    (listed : (name ++ suffix, digest) ∈ checksums t directory) :
    checksum t directory name = .ok { feature := name, checksum := digest } := by
  obtain ⟨names, content, holds, entry⟩ := (mem_checksums wf).mp listed
  obtain ⟨key, rfl⟩ := Prod.mk.inj entry
  have path : filePath directory name = directory.join { parts := names } := by
    rw [filePath, ← key, Path.ofString_joined (part_of_holdsFeature wf holds) holds.1.1]
  exact (found_of_liesBelow wf path holds.1).1

/-- An entry that is not of the file at a place stays when only that file changes. -/
theorem get?_kept (wf : t.WellFormed) (wf' : u.WellFormed) {place : List String}
    (apart : ApartAt place t u)
    (same : ".." ∈ directory.parts → ∀ parts, u.hasDirectory parts = t.hasDirectory parts)
    {key digest : String}
    (other : ∀ parts names, t.place directory = .ok (.inside parts) →
      place = parts ++ names → key ≠ Path.joined names)
    (found : Entries.get? (checksums t directory) key = some digest) :
    Entries.get? (checksums u directory) key = some digest := by
  rw [Entries.get?_eq_some_iff (keys_nodup wf directory)] at found
  rw [Entries.get?_eq_some_iff (keys_nodup wf' directory)]
  obtain ⟨names, content, holds, entry⟩ := (mem_checksums wf).mp found
  refine (mem_checksums wf').mpr ⟨names, content, ⟨?_, holds.2⟩, entry⟩
  refine holds.1.kept wf' apart same fun parts leads here => ?_
  exact other parts names leads here.symm (Prod.mk.inj entry).1.symm

/-- The checksums of a directory are the digests of all feature files that lie below it, by the
names that lead to them, in the order of these names one after another and none twice. There are
none of a directory that is not there, and a feature is found by its key without the suffix. Where
two trees differ in one file, no entry differs but that of this file; if the directory is reached
by way of others that are left again, those are to be the same. -/
theorem directory_checksums_exact (wf : t.WellFormed) (directory : Path) :
    (∃ fs : List (List String × Octets), checksums t directory = fs.map entryOf ∧
        (fs.Pairwise fun f g => f.1 < g.1) ∧
        ∀ names content, (names, content) ∈ fs ↔ HoldsFeature t directory names content) ∧
      (Entries.keys (checksums t directory)).Nodup ∧
      (t.isDirectory directory = false → checksums t directory = []) ∧
      (∀ name digest, (name ++ suffix, digest) ∈ checksums t directory →
        checksum t directory name = .ok { feature := name, checksum := digest }) ∧
      ∀ u place, u.WellFormed → ApartAt place t u →
        (".." ∈ directory.parts → ∀ parts, u.hasDirectory parts = t.hasDirectory parts) →
        ∀ key, Entries.get? (checksums u directory) key ≠ Entries.get? (checksums t directory) key →
          ∃ parts names, place = parts ++ names ∧ key = Path.joined names ∧
            (t.place directory = .ok (.inside parts) ∨
              u.place directory = .ok (.inside parts)) := by
  refine ⟨?exact, keys_nodup wf directory, ?missing, fun _ _ => checksum_of_entry wf, ?changed⟩
  case exact =>
    exact ⟨files t directory, rfl, files_sorted wf directory, fun _ _ => mem_files wf⟩
  case missing =>
    intro missing
    rw [checksums_eq, files, below_eq_nil missing, List.filter_nil, List.mergeSort_nil,
      List.map_nil]
  case changed =>
    intro u place wf' apart same key changed
    by_contra own
    push Not at own
    -- An entry of either tree that is not of this file stands in the other one.
    refine changed (Option.ext fun digest => ⟨?_, ?_⟩)
    · refine get?_kept wf' wf apart.symm (fun up parts => (same up parts).symm) ?_
      intro parts names leads here spelled
      exact (own parts names here spelled).2 leads
    · refine get?_kept wf wf' apart same ?_
      intro parts names leads here spelled
      exact (own parts names here spelled).1 leads

def deepShelf : FileTree where
  files := [(["s", "a.xml"], [1]), (["s", "a", "b.xml"], [2]), (["s", "c.xml", "d.XML"], [3]),
    (["s", ".xml"], [4])]

theorem deepShelf_wellFormed : deepShelf.WellFormed where
  rooted := by decide
  named := by decide
  madeNamed := by decide
  inside := by decide
  distinct := by decide
  apart := by decide
  leaf := by decide

theorem deepShelf_put_wellFormed : (deepShelf.put ["s", "a", "b.xml"] [5]).WellFormed where
  rooted := by decide
  named := by decide
  madeNamed := by decide
  inside := by decide
  distinct := by decide
  apart := by decide
  leaf := by decide

/-- A file in a directory below is found by its key, and another one keeps its checksum when it
changes. -/
theorem deep_file_digested :
    checksum deepShelf { parts := ["s"] } "a/b" =
        .ok { feature := "a/b", checksum := Md5.hexDigest [2] } ∧
      Entries.get? (checksums (deepShelf.put ["s", "a", "b.xml"] [5]) { parts := ["s"] })
          "c.xml/d.XML" =
        Entries.get? (checksums deepShelf { parts := ["s"] }) "c.xml/d.XML" := by
  obtain ⟨-, -, -, found, changed⟩ :=
    directory_checksums_exact deepShelf_wellFormed { parts := ["s"] }
  constructor
  · refine found "a/b" (Md5.hexDigest [2]) ((mem_checksums deepShelf_wellFormed).mpr ?_)
    refine ⟨["a", "b.xml"], [2], ⟨⟨by decide, ["s"], by decide, by decide⟩, ?_⟩, rfl⟩
    exact ⟨["a"], "b", by decide, ".xml", by decide, rfl⟩
  · by_contra other
    obtain ⟨parts, names, at?, key, leads⟩ := changed _ ["s", "a", "b.xml"]
      deepShelf_put_wellFormed (apartAt_put _ _ _) (fun up => absurd up (by decide)) _ other
    have start : parts = ["s"] := by
      rcases leads with one | two
      · cases one
        rfl
      · cases two
        rfl
    subst start
    obtain rfl : ["a", "b.xml"] = names := (List.cons.inj at?).2
    exact absurd key (by decide)

end SpecDirectory
end FeatureSpec
