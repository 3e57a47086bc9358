import FeatureSpec.Proofs.Requestable
import Mathlib
/-!
How an address is requested that stands below the address of a server. The latter keeps the form
in which it is requested alone, and what follows it is written as it stands, as long as no segment
of it is a dot segment.
-/
namespace FeatureSpec

namespace Escape

theorem escaped_append (isPlain : Char → Bool) (cs ds : List Char) :
    escaped isPlain (cs ++ ds) = escaped isPlain cs ++ escaped isPlain ds :=
  List.flatMap_append

theorem escaped_of_plain {isPlain : Char → Bool} {cs : List Char}
    (plain : ∀ c ∈ cs, isPlain c = true) : escaped isPlain cs = cs := by
  induction cs with
  | nil => rfl
  | cons c cs ih =>
    have first := plain c List.mem_cons_self
    have rest := ih fun d member => plain d (List.mem_cons_of_mem c member)
    rw [escaped, List.flatMap_cons, if_pos first]
    exact congrArg (c :: ·) rest

end Escape

namespace Address

variable {tail : List Char}

def Undotted (tail : List Char) : Prop := ∀ s ∈ tail.splitOn '/', s ≠ ['.'] ∧ s ≠ ['.', '.']

/-- The segments that are kept, last first, after one more. -/
def keep (kept : List (List Char)) (s : List Char) : List (List Char) :=
  if s = ['.'] then kept
  else if s = ['.', '.'] then (if kept = [[]] then kept else kept.drop 1)
  else s :: kept

theorem resolveDots_eq (segments : List (List Char)) :
    resolveDots segments = (segments.foldl keep []).reverse := rfl

theorem foldl_keep_undotted {added : List (List Char)}
    (undotted : ∀ s ∈ added, s ≠ ['.'] ∧ s ≠ ['.', '.']) (kept : List (List Char)) :
    added.foldl keep kept = added.reverse ++ kept := by
  induction added generalizing kept with
  | nil => rfl
  | cons s rest ih =>
    have here := undotted s List.mem_cons_self
    have later := fun t member => undotted t (List.mem_cons_of_mem s member)
    rw [List.foldl_cons, keep, if_neg here.1, if_neg here.2, ih later]
    simp

/-- What stands before the first slash of a path is empty, and no dots drop it. -/
theorem keep_rooted {kept : List (List Char)} (rooted : kept.getLast? = some [])
    (s : List Char) : (keep kept s).getLast? = some [] := by
  rcases kept with _ | ⟨last, earlier⟩
  · cases rooted
  unfold keep
  by_cases one : s = ['.']
  · rw [if_pos one]
    exact rooted
  by_cases two : s = ['.', '.']
  · rw [if_neg one, if_pos two]
    by_cases root : last :: earlier = [[]]
    · rw [if_pos root]
      exact rooted
    -- Two dots drop a segment, but then there is another one below it.
    · rw [if_neg root]
      rcases earlier with _ | ⟨next, more⟩
      · rw [List.getLast?_singleton] at rooted
        exact absurd (congrArg (fun s => [s]) (Option.some.inj rooted)) root
      · simpa using rooted
  · rw [if_neg one, if_neg two]
    simpa using rooted

theorem foldl_keep_rooted (segments : List (List Char)) {kept : List (List Char)}
    (rooted : kept.getLast? = some []) : (segments.foldl keep kept).getLast? = some [] := by
  induction segments generalizing kept with
  | nil => exact rooted
  | cons s rest ih =>
    rw [List.foldl_cons]
    apply ih
    exact keep_rooted rooted s

theorem splitOn_slash (cs : List Char) : ('/' :: cs).splitOn '/' = [] :: cs.splitOn '/' :=
  List.splitOn_append_cons_self [] cs

theorem splitOn_of_rooted {path : List Char} (rooted : ∀ c ∈ path.head?, c = '/') :
    ∃ more, path.splitOn '/' = [] :: more := by
  rcases path with _ | ⟨c, rest⟩
  · exact ⟨[], rfl⟩
  · obtain rfl : c = '/' := rooted c rfl
    exact ⟨rest.splitOn '/', splitOn_slash rest⟩

theorem resolveDots_ne_nil {path : List Char} (rooted : ∀ c ∈ path.head?, c = '/') :
    resolveDots (path.splitOn '/') ≠ [] := by
  obtain ⟨more, pieces⟩ := splitOn_of_rooted rooted
  have bottom : (more.foldl keep [[]]).getLast? = some [] := foldl_keep_rooted more rfl
  have resolved : resolveDots ([] :: more) = (more.foldl keep [[]]).reverse := rfl
  rw [pieces, resolved]
  intro none
  rw [List.reverse_eq_nil_iff.mp none] at bottom
  cases bottom

theorem intercalate_append {sign : Char} {first later : List (List Char)} (h : first ≠ [])
    (h' : later ≠ []) : [sign].intercalate (first ++ later) =
      [sign].intercalate first ++ sign :: [sign].intercalate later := by
  induction first with
  | nil => exact absurd rfl h
  | cons s rest ih =>
    by_cases last : rest = []
    · subst last
      rw [List.singleton_append, List.intercalate_cons_of_ne_nil h', List.intercalate_singleton]
      simp
    · have more : rest ++ later ≠ [] := by simp [last]
      rw [List.cons_append, List.intercalate_cons_of_ne_nil more,
        List.intercalate_cons_of_ne_nil last, ih last]
      simp

theorem normalPath_append {path : List Char} (rooted : ∀ c ∈ path.head?, c = '/')
    (below : Below tail) (undotted : Undotted tail) :
    normalPath (path ++ tail) = normalPath path ++ tail := by
  rcases tail with _ | ⟨c, rest⟩
  · rw [List.append_nil, List.append_nil]
  obtain rfl : c = '/' := below.slash c rfl
  have plain : ∀ s ∈ rest.splitOn '/', s ≠ ['.'] ∧ s ≠ ['.', '.'] := by
    intro s member
    apply undotted
    rw [splitOn_slash]
    exact List.mem_cons_of_mem [] member
  have kept := resolveDots_ne_nil rooted
  -- The first slash of the tail ends the last segment of the path, so no segment is shared.
  have resolved : resolveDots ((path ++ '/' :: rest).splitOn '/') =
      resolveDots (path.splitOn '/') ++ rest.splitOn '/' := by
    rw [List.splitOn_append_cons_self, resolveDots_eq, List.foldl_append,
      foldl_keep_undotted plain, List.reverse_append, List.reverse_reverse, ← resolveDots_eq]
  rw [normalPath, resolved, intercalate_append kept (List.splitOn_ne_nil '/' rest),
    List.intercalate_splitOn]
  rfl

theorem spanBefore_stop (ends : String) (cs : List Char) :
    ∀ c ∈ (spanBefore ends cs).2.head?, ends.contains c = true := by
  intro c member
  rw [spanBefore, List.span_eq_takeWhile_dropWhile] at member
  have stop := List.head?_dropWhile_not (fun c => !ends.contains c) cs
  rw [member] at stop
  simpa using stop

theorem spanBefore_parts (ends : String) (cs : List Char) :
    (spanBefore ends cs).1 ++ (spanBefore ends cs).2 = cs := by
  rw [spanBefore, List.span_eq_takeWhile_dropWhile]
  exact List.takeWhile_append_dropWhile

theorem spanBefore_uncut_iff {ends : String} {cs : List Char} :
    (spanBefore ends cs).2 = [] ↔ ∀ c ∈ cs, ends.contains c = false := by
  rw [spanBefore, List.span_eq_takeWhile_dropWhile, List.dropWhile_eq_nil_iff]
  simp

theorem spanBefore_uncut {ends : String} {cs : List Char} (uncut : (spanBefore ends cs).2 = []) :
    spanBefore ends cs = (cs, []) := by
  have parts := spanBefore_parts ends cs
  rw [uncut, List.append_nil] at parts
  exact Prod.ext parts uncut

/-- A text is cut at the same place when what follows holds no end; if it was not cut, then all of
it is kept. -/
theorem spanBefore_append {ends : String} (free : ∀ c ∈ tail, ends.contains c = false)
    (cs : List Char) :
    spanBefore ends (cs ++ tail) =
      if (spanBefore ends cs).2 = [] then (cs ++ tail, [])
      else ((spanBefore ends cs).1, (spanBefore ends cs).2 ++ tail) := by
  by_cases uncut : (spanBefore ends cs).2 = []
  · rw [if_pos uncut]
    apply spanBefore_uncut
    rw [spanBefore_uncut_iff] at uncut ⊢
    intro c member
    rcases List.mem_append.mp member with before | behind
    · exact uncut c before
    · exact free c behind
  · rw [if_neg uncut]
    exact span_append_of_cut uncut tail

def extended (a : Address) (tail : List Char) : Address :=
  match a.fragment, a.query with
  | some fragment, _ => { a with fragment := some (fragment ++ tail) }
  | none, some query => { a with query := some (query ++ tail) }
  | none, none => { a with path := a.path ++ tail }

theorem rooted_of_uncut {cs : List Char} (stop : ∀ c ∈ cs.head?, "/?#".contains c = true)
    (uncut : (spanBefore "?#" cs).2 = []) : ∀ c ∈ cs.head?, c = '/' := by
  intro c member
  have sign : c = '/' ∨ c = '?' ∨ c = '#' := by simpa using stop c member
  have kept : c ≠ '?' ∧ c ≠ '#' := by
    simpa using spanBefore_uncut_iff.mp uncut c (List.mem_of_head? member)
  tauto

theorem after?_cons (sign : Char) (cs : List Char) : after? sign (sign :: cs) = some cs := by
  simp [after?]

theorem query_of_cut {cs : List Char} (h : cs ≠ [])
    (stop : ∀ c ∈ cs.head?, "?#".contains c = true) (uncut : (spanBefore "#" cs).2 = []) :
    ∃ query, cs = '?' :: query := by
  rcases cs with _ | ⟨c, query⟩
  · exact absurd rfl h
  have sign : c = '?' ∨ c = '#' := by simpa using stop c rfl
  have kept : c ≠ '#' := by simpa using spanBefore_uncut_iff.mp uncut c List.mem_cons_self
  exact ⟨query, by rw [sign.resolve_right kept]⟩

theorem fragment_of_cut {cs : List Char} (cut : (spanBefore "#" cs).2 ≠ []) :
    ∃ fragment, (spanBefore "#" cs).2 = '#' :: fragment := by
  have stop := spanBefore_stop "#" cs
  rcases opened : (spanBefore "#" cs).2 with _ | ⟨c, fragment⟩
  · exact absurd opened cut
  · rw [opened] at stop
    have sign : c = '#' := by simpa using stop c rfl
    exact ⟨fragment, by rw [sign]⟩

/-- What is plain in a path ends no part of an address, and is plain in the other parts. -/
theorem free_of_plain {c : Char} (plain : isPathPlain c = true) :
    "?#".contains c = false ∧ "#".contains c = false ∧ isQueryPlain c = true ∧
      isFragmentPlain c = true := by
  have facts := isPathPlain_iff.mp plain
  simp [isQueryPlain, isFragmentPlain, isPlainExcept] at facts ⊢
  tauto

theorem withRemainder_append (a : Address) {cs : List Char}
    (stop : ∀ c ∈ cs.head?, "/?#".contains c = true) (below : Below tail)
    (plain : ∀ c ∈ tail, isPathPlain c = true) (undotted : Undotted tail) :
    a.withRemainder (cs ++ tail) = (a.withRemainder cs).extended tail := by
  have free := fun c member => free_of_plain (plain c member)
  have anyQuery := Escape.escaped_of_plain fun c member => (free c member).2.2.1
  have anyFragment := Escape.escaped_of_plain fun c member => (free c member).2.2.2
  unfold withRemainder
  rw [spanBefore_append fun c member => (free c member).1]
  -- What follows belongs to the last part that is there: path, query or fragment.
  by_cases pathOnly : (spanBefore "?#" cs).2 = []
  · have rooted := rooted_of_uncut stop pathOnly
    rw [if_pos pathOnly, spanBefore_uncut pathOnly]
    dsimp only
    rw [normalPath_append rooted below undotted, Escape.escaped_append,
      Escape.escaped_of_plain plain]
    rfl
  · have opening := spanBefore_stop "?#" cs
    rw [if_neg pathOnly]
    dsimp only
    generalize (spanBefore "?#" cs).2 = more at pathOnly opening ⊢
    rw [spanBefore_append fun c member => (free c member).2.1]
    by_cases queryOnly : (spanBefore "#" more).2 = []
    · obtain ⟨query, rfl⟩ := query_of_cut pathOnly opening queryOnly
      rw [if_pos queryOnly, spanBefore_uncut queryOnly]
      dsimp only
      rw [List.cons_append, after?_cons, after?_cons, Option.map_some, Option.map_some,
        Escape.escaped_append, anyQuery]
      rfl
    · obtain ⟨fragment, opened⟩ := fragment_of_cut queryOnly
      rw [if_neg queryOnly, opened]
      dsimp only
      rw [List.cons_append, after?_cons, after?_cons, Option.map_some, Option.map_some,
        Escape.escaped_append, anyFragment]
      rfl

theorem isAbsolute_extended (a : Address) (tail : List Char) :
    (a.extended tail).isAbsolute = a.isAbsolute := by
  unfold extended
  split <;> rfl

theorem text_extended (a : Address) (tail : List Char) :
    (a.extended tail).text.toList = a.text.toList ++ tail := by
  unfold extended
  rcases fragment : a.fragment with _ | f <;> rcases query : a.query with _ | q <;>
    simp [text, fragment, query]

theorem remainder_stop {cs : List Char} (h : Reaches cs) :
    ∀ c ∈ (remainder cs).head?, "/?#".contains c = true := by
  have named := authority_ne_nil h
  unfold remainder
  unfold spanAuthority at named ⊢
  split at named
  case h_1 rest _ => exact spanBefore_stop "/?#" rest
  case h_2 => exact absurd rfl named

/-- Below the address of a server, what follows is requested as it is written. -/
theorem ofChars_append (below : Below tail) (plain : ∀ c ∈ tail, isPathPlain c = true)
    (undotted : Undotted tail) {cs : List Char} {a : Address} (known : ofChars cs = .ok a)
    (absolute : a.isAbsolute = true) (short : (cs ++ tail).length ≤ lengthLimit) :
    ofChars (cs ++ tail) = .ok (a.extended tail) := by
  have reaches := reaches_of_absolute known absolute
  obtain ⟨shortBase, uncontrolled, -, named, numbered⟩ := ofChars_server known
  have alone := ofChars_of_server shortBase uncontrolled reaches.scheme named numbered
  have schemes := spanScheme_append below reaches.scheme
  have server := spanServer_append below reaches
  -- The server ends before the path, so what follows is no part of what is checked about it.
  have together := ofChars_of_server short (control?_append below uncontrolled)
    (by rw [schemes]; exact reaches.scheme)
    (by rw [serverOf_append below reaches]; exact named)
    (by rw [schemes, serverOf_append below reaches]; exact numbered)
  have same : serverAddress (cs ++ tail) = serverAddress cs := by
    unfold serverAddress
    rw [server, schemes]
  rw [together, remainder, server, same,
    withRemainder_append _ (remainder_stop reaches) below plain undotted,
    Except.ok.inj (alone.symm.trans known)]

end Address
end FeatureSpec
