import FeatureSpec.Placeholder
import FeatureSpec.Proofs.Spans
import FeatureSpec.Text.Blank
import Mathlib.Data.List.TakeWhile
import Mathlib.Data.Nat.Find
import Mathlib.Order.Bounds.Basic
/-!
Placeholders by their positions. A placeholder stands wherever a colon stands before a word,
whatever stands before the colon, and a reader who goes on behind each placeholder misses none.
-/
namespace FeatureSpec

namespace Text

def blankCodes : List Nat :=
  [9, 10, 11, 12, 13, 0x1C, 0x1D, 0x1E, 0x1F, 0x20, 0x85, 0xA0, 0x1680, 0x2000, 0x2001, 0x2002,
   0x2003, 0x2004, 0x2005, 0x2006, 0x2007, 0x2008, 0x2009, 0x200A, 0x2028, 0x2029, 0x202F, 0x205F,
   0x3000]

theorem mem_blankCodes {c : Char} (blank : isBlank c = true) : c.toNat ∈ blankCodes := by
  simp only [isBlank, isWhiteSpace, Bool.or_eq_true, Bool.and_eq_true, decide_eq_true_eq,
    beq_iff_eq] at blank
  simp only [blankCodes, List.mem_cons, List.not_mem_nil]
  omega

theorem isWord_of_blank {c : Char} (blank : isBlank c = true) : isWord c = false := by
  have disjoint : ∀ n ∈ blankCodes, inRanges wordRanges n = false := by decide +kernel
  exact disjoint _ (mem_blankCodes blank)

theorem ne_colon_of_word {c : Char} (word : isWord c = true) : c ≠ ':' := by
  rintro rfl
  have colon : isWord ':' = false := by decide
  rw [colon] at word
  cases word

theorem ne_colon_of_blank {c : Char} (blank : isBlank c = true) : c ≠ ':' := by
  rintro rfl
  have colon : isBlank ':' = false := by decide
  rw [colon] at blank
  cases blank

theorem trimBy_framed {α : Type} (p : α → Bool) (xs : List α) :
    ∃ lead tail, xs = lead ++ trimBy p xs ++ tail ∧ (∀ x ∈ lead, p x = true) ∧
      ∀ x ∈ tail, p x = true := by
  have front := List.takeWhile_append_dropWhile (p := p) (l := xs)
  have back := List.takeWhile_append_dropWhile (p := p) (l := (xs.dropWhile p).reverse)
  refine ⟨xs.takeWhile p, ((xs.dropWhile p).reverse.takeWhile p).reverse, ?_, ?_, ?_⟩
  · have turned := congrArg List.reverse back
    rw [List.reverse_append, List.reverse_reverse] at turned
    rw [trimBy, List.append_assoc, turned, front]
  · exact fun x member => List.mem_takeWhile_imp member
  · exact fun x member => List.mem_takeWhile_imp (List.mem_reverse.mp member)

end Text

namespace Placeholder

open Text

/-- The run of word characters from `i` on, which ends where no word character follows. -/
structure RunAt (cs : List Char) (i : Nat) (run : List Char) : Prop where
  here : run <+: cs.drop i
  word : ∀ c ∈ run, isWord c = true
  ends : ∀ c, cs[i + run.length]? = some c → isWord c = false

structure StandsAt (cs : List Char) (i : Nat) (name : List Char) : Prop
    extends RunAt cs (i + 1) name where
  colon : cs[i]? = some ':'
  nonempty : name ≠ []

/-- The run is what a reader takes who reads as long as there are word characters. -/
theorem runAt_iff {cs run : List Char} {i : Nat} :
    RunAt cs i run ↔ run = (cs.drop i).takeWhile isWord := by
  constructor
  · rintro ⟨⟨tail, joined⟩, word, ends⟩
    have stop : ∀ c ∈ tail.head?, isWord c = false := by
      intro c first
      apply ends
      rw [← List.getElem?_drop, ← joined, List.getElem?_append_right (Nat.le_refl _), Nat.sub_self,
        ← List.head?_eq_getElem?]
      exact first
    rw [← joined, List.takeWhile_append_of_pos word, (takeWhile_dropWhile_of_stop stop).1,
      List.append_nil]
  · rintro rfl
    refine ⟨List.takeWhile_prefix _, fun c => List.mem_takeWhile_imp, ?_⟩
    intro c next
    have stop := List.head?_dropWhile_not isWord (cs.drop i)
    have behind : ((cs.drop i).takeWhile isWord ++ (cs.drop i).dropWhile isWord)[
        ((cs.drop i).takeWhile isWord).length]? = ((cs.drop i).dropWhile isWord).head? := by
      rw [List.getElem?_append_right (Nat.le_refl _), Nat.sub_self, List.head?_eq_getElem?]
    rw [List.takeWhile_append_dropWhile, List.getElem?_drop, next] at behind
    rw [← behind] at stop
    exact stop

theorem standsAt_iff {cs : List Char} {i : Nat} {name : List Char} :
    StandsAt cs i name ↔
      cs[i]? = some ':' ∧ name ≠ [] ∧ name = (cs.drop (i + 1)).takeWhile isWord := by
  rw [← runAt_iff]
  constructor
  · intro stands
    exact ⟨stands.colon, stands.nonempty, stands.toRunAt⟩
  · rintro ⟨colon, nonempty, run⟩
    exact ⟨run, colon, nonempty⟩

theorem takeWhile_ne_nil_iff (cs : List Char) :
    cs.takeWhile isWord ≠ [] ↔ cs.head?.any isWord = true := by
  cases cs with
  | nil => simp
  | cons c rest => cases word : isWord c <;> simp [word]

theorem standsAt_zero {c : Char} {rest name : List Char} :
    StandsAt (c :: rest) 0 name ↔
      (c = ':' ∧ rest.head?.any isWord = true) ∧ name = rest.takeWhile isWord := by
  rw [standsAt_iff, ← takeWhile_ne_nil_iff]
  constructor
  · rintro ⟨colon, nonempty, rfl⟩
    exact ⟨⟨by simpa using colon, nonempty⟩, rfl⟩
  · rintro ⟨⟨rfl, nonempty⟩, rfl⟩
    exact ⟨rfl, nonempty, rfl⟩

theorem standsAt_succ {c : Char} {rest name : List Char} {i : Nat} :
    StandsAt (c :: rest) (i + 1) name ↔ StandsAt rest i name := by
  simp [standsAt_iff]

/-! ### Positions -/

/-- The placeholders of a text with their positions, the first character being at `k`. -/
def located : Nat → List Char → List (Nat × List Char)
  | _, [] => []
  | k, c :: rest =>
    if c = ':' ∧ rest.head?.any isWord = true then
      (k, rest.takeWhile isWord) :: located (k + 1) rest
    else located (k + 1) rest

theorem names_located (k : Nat) (cs : List Char) :
    (located k cs).map Prod.snd = occurrences cs := by
  induction cs generalizing k with
  | nil => rfl
  | cons c rest ih =>
    unfold located occurrences
    split <;> simp [ih]

theorem mem_located {k i : Nat} {cs name : List Char} :
    (i, name) ∈ located k cs ↔ ∃ j, i = k + j ∧ StandsAt cs j name := by
  induction cs generalizing k with
  | nil => simp [located, standsAt_iff]
  | cons c rest ih =>
    have split_first : (∃ j, i = k + j ∧ StandsAt (c :: rest) j name) ↔
        (i = k ∧ StandsAt (c :: rest) 0 name) ∨ ∃ j, i = k + 1 + j ∧ StandsAt rest j name := by
      constructor
      · rintro ⟨_ | j, at_j, stands⟩
        · exact .inl ⟨at_j, stands⟩
        · exact .inr ⟨j, by omega, standsAt_succ.mp stands⟩
      · rintro (⟨at_k, stands⟩ | ⟨j, at_j, stands⟩)
        · exact ⟨0, at_k, stands⟩
        · exact ⟨j + 1, by omega, standsAt_succ.mpr stands⟩
    rw [split_first, standsAt_zero, ← ih, located]
    split
    case isTrue opens => simp [opens]
    case isFalse closed => simp [closed]

theorem located_sorted (k : Nat) (cs : List Char) :
    (located k cs).Pairwise fun p q => p.1 < q.1 := by
  induction cs generalizing k with
  | nil => exact List.Pairwise.nil
  | cons c rest ih =>
    unfold located
    split
    case isFalse => exact ih (k + 1)
    case isTrue opens =>
      refine List.pairwise_cons.mpr ⟨?_, ih (k + 1)⟩
      rintro ⟨i, name⟩ later
      obtain ⟨j, rfl, -⟩ := mem_located.mp later
      dsimp only
      omega

theorem mem_occurrences {cs name : List Char} :
    name ∈ occurrences cs ↔ ∃ i, StandsAt cs i name := by
  rw [← names_located 0]
  simp [mem_located]

theorem mem_cons_of_other {β : Type} {rest : List (Nat × β)} {j k : Nat} {b x : β}
    (other : b ≠ x) : (j, b) ∈ (k, x) :: rest ↔ (j, b) ∈ rest := by
  simp [other]

/-- Of things that stand in the order of their positions, the distinct ones stand in the order of
their first positions. -/
theorem eraseDups_ordered {β : Type} [BEq β] [LawfulBEq β] {ps : List (Nat × β)}
    (sorted : ps.Pairwise fun p q => p.1 < q.1) :
    (ps.map Prod.snd).eraseDups.Pairwise fun a b =>
      ∃ i, (i, a) ∈ ps ∧ ∀ j, (j, b) ∈ ps → i < j := by
  -- One name is taken out at a time, which may shorten the list by more than one.
  induction size : ps.length using Nat.strongRecOn generalizing ps with
  | ind n ih =>
    rcases ps with _ | ⟨⟨k, x⟩, rest⟩
    · exact List.Pairwise.nil
    obtain ⟨first, sorted⟩ := List.pairwise_cons.mp sorted
    let others := rest.filter fun p => !p.2 == x
    have fewer : others.length < n := by
      have shorter : others.length ≤ rest.length := List.length_filter_le _ _
      rw [← size, List.length_cons]
      omega
    have among : ∀ i a, (i, a) ∈ others ↔ (i, a) ∈ rest ∧ a ≠ x := by
      simp [others, List.mem_filter]
    have names : (rest.map Prod.snd).filter (fun b => !b == x) = others.map Prod.snd := by
      rw [List.filter_map]
      rfl
    have different : ∀ b ∈ (others.map Prod.snd).eraseDups, b ≠ x := by
      intro b later
      obtain ⟨⟨m, y⟩, placed, rfl⟩ := List.mem_map.mp (List.mem_eraseDups.mp later)
      exact ((among m y).mp placed).2
    rw [List.map_cons, List.eraseDups_cons, names, List.pairwise_cons]
    refine ⟨?_, (ih _ fewer (sorted.filter _) rfl).imp_of_mem ?_⟩
    · intro b later
      refine ⟨k, List.mem_cons_self, ?_⟩
      intro j at_j
      exact first _ ((mem_cons_of_other (different b later)).mp at_j)
    · rintro a b - later ⟨i, at_i, before⟩
      refine ⟨i, List.mem_cons_of_mem _ ((among i a).mp at_i).1, ?_⟩
      intro j at_j
      have behind := (mem_cons_of_other (different b later)).mp at_j
      exact before j ((among j b).mpr ⟨behind, different b later⟩)

def FirstAt (text name : String) (i : Nat) : Prop :=
  IsLeast { j | StandsAt text.toList j name.toList } i

theorem exists_firstAt {text name : String} {i : Nat}
    (stands : StandsAt text.toList i name.toList) : ∃ j, FirstAt text name j := by
  classical
  have some : ∃ j, StandsAt text.toList j name.toList := ⟨i, stands⟩
  exact ⟨Nat.find some, Nat.find_spec some, fun j other => Nat.find_min' some other⟩

/-- Names are those of the placeholders of a text, each once, in the order of their first
positions. -/
structure Lists (text : String) (names : List String) : Prop where
  nodup : names.Nodup
  mem : ∀ name, name ∈ names ↔ ∃ i, StandsAt text.toList i name.toList
  ordered : names.Pairwise fun a b => ∃ i j, FirstAt text a i ∧ FirstAt text b j ∧ i < j

theorem mem_names {text name : String} :
    name ∈ names text ↔ ∃ i, StandsAt text.toList i name.toList := by
  rw [← mem_occurrences, names, List.mem_map]
  constructor
  · rintro ⟨cs, member, rfl⟩
    rw [String.toList_ofList]
    exact List.mem_eraseDups.mp member
  · intro member
    exact ⟨name.toList, List.mem_eraseDups.mpr member, String.ofList_toList⟩

theorem names_ordered (text : String) :
    (names text).Pairwise fun a b => ∃ i j, FirstAt text a i ∧ FirstAt text b j ∧ i < j := by
  have ordered := eraseDups_ordered (located_sorted 0 text.toList)
  rw [names_located] at ordered
  refine List.pairwise_map.mpr (ordered.imp_of_mem ?_)
  rintro a b - later ⟨i, at_i, before⟩
  have stands : ∀ {j : Nat} {name : List Char}, (j, name) ∈ located 0 text.toList ↔
      StandsAt text.toList j (String.ofList name).toList := by
    intro j name
    rw [mem_located, String.toList_ofList]
    simp
  obtain ⟨m, last⟩ := mem_occurrences.mp (List.mem_eraseDups.mp later)
  rw [← String.toList_ofList (l := b)] at last
  obtain ⟨first, firstAt⟩ := exists_firstAt (stands.mp at_i)
  obtain ⟨second, secondAt⟩ := exists_firstAt last
  refine ⟨first, second, firstAt, secondAt, ?_⟩
  calc
    first ≤ i := firstAt.2 (stands.mp at_i)
    _ < second := before second (stands.mpr secondAt.1)

theorem names_nodup (text : String) : (names text).Nodup := by
  refine (names_ordered text).imp ?_
  rintro a b ⟨i, j, firstA, firstB, before⟩ rfl
  have same : i = j := firstA.unique firstB
  omega

theorem lists_names (text : String) : Lists text (names text) where
  nodup := names_nodup text
  mem := fun _ => mem_names
  ordered := names_ordered text

example : names "SELECT a::int WHERE b = :id:kind OR c = :id : d" = ["int", "id", "kind"] := by
  decide +kernel

/-! ### Blanks around a text -/

theorem occurrences_append_left {lead : List Char} (plain : ∀ c ∈ lead, c ≠ ':')
    (cs : List Char) : occurrences (lead ++ cs) = occurrences cs := by
  induction lead with
  | nil => rfl
  | cons c lead ih =>
    obtain ⟨other, plain⟩ := List.forall_mem_cons.mp plain
    rw [List.cons_append, occurrences, if_neg (fun opens => other opens.1), ih plain]

theorem occurrences_of_plain {cs : List Char} (plain : ∀ c ∈ cs, c ≠ ':') :
    occurrences cs = [] := by
  have none := occurrences_append_left plain []
  rwa [List.append_nil] at none

theorem occurrences_append_right {tail : List Char} (plain : ∀ c ∈ tail, c ≠ ':')
    (stop : ∀ c ∈ tail.head?, isWord c = false) (cs : List Char) :
    occurrences (cs ++ tail) = occurrences cs := by
  induction cs with
  | nil => exact occurrences_of_plain plain
  | cons c rest ih =>
    have run : (rest ++ tail).takeWhile isWord = rest.takeWhile isWord := by
      have cut := span_append_of_stop stop rest
      simp only [List.span_eq_takeWhile_dropWhile, Prod.mk.injEq] at cut
      exact cut.1
    have opens : (rest ++ tail).head?.any isWord = rest.head?.any isWord := by
      rw [Bool.eq_iff_iff, ← takeWhile_ne_nil_iff, ← takeWhile_ne_nil_iff, run]
    rw [List.cons_append, occurrences, occurrences, run, opens, ih]

theorem occurrences_trimChars (cs : List Char) : occurrences (trimChars cs) = occurrences cs := by
  obtain ⟨lead, tail, framed, before, behind⟩ := trimBy_framed isBlank cs
  have plain : ∀ c ∈ tail, c ≠ ':' := fun c member => ne_colon_of_blank (behind c member)
  have stop : ∀ c ∈ tail.head?, isWord c = false := fun c first =>
    isWord_of_blank (behind c (List.mem_of_mem_head? first))
  calc
    occurrences (trimChars cs)
      = occurrences (lead ++ trimChars cs) :=
        (occurrences_append_left (fun c member => ne_colon_of_blank (before c member)) _).symm
    _ = occurrences (lead ++ trimChars cs ++ tail) :=
        (occurrences_append_right plain stop _).symm
    _ = occurrences cs := congrArg occurrences framed.symm

theorem names_trim (text : String) : names (trim text) = names text := by
  rw [names, trim, String.toList_ofList, occurrences_trimChars, names]

theorem parameters_trim (text : String) : parameters (trim text) = parameters text := by
  rw [parameters, names_trim, parameters]

/-! ### Reading on behind each placeholder -/

/-- A part of a text: a character that stands for itself, or a placeholder. -/
inductive Part where
  | plain (c : Char)
  | placeholder (name : List Char)
  deriving DecidableEq, Repr

/-- The parts of a text from left to right. What a placeholder takes is not read again. -/
def parts (cs : List Char) : List Part :=
  match cs with
  | [] => []
  | c :: rest =>
    if c = ':' ∧ rest.head?.any isWord = true then
      .placeholder (rest.takeWhile isWord) :: parts (rest.dropWhile isWord)
    else .plain c :: parts rest
  termination_by cs.length
  decreasing_by
    · have := (List.dropWhile_sublist isWord (l := rest)).length_le
      simp only [List.length_cons]
      omega
    · simp

namespace Part

def name? : Part → Option (List Char)
  | plain _ => none
  | placeholder name => some name

def chars (mark : Char) : Part → List Char
  | plain c => [c]
  | placeholder name => mark :: name

end Part

/-- A word holds no placeholder, so that nothing is missed by going on behind it. -/
theorem occurrences_dropWhile (cs : List Char) :
    occurrences (cs.dropWhile isWord) = occurrences cs := by
  have plain : ∀ c ∈ cs.takeWhile isWord, c ≠ ':' := fun c member =>
    ne_colon_of_word (List.mem_takeWhile_imp member)
  calc
    occurrences (cs.dropWhile isWord)
      = occurrences (cs.takeWhile isWord ++ cs.dropWhile isWord) :=
        (occurrences_append_left plain _).symm
    _ = occurrences cs := by rw [List.takeWhile_append_dropWhile]

theorem occurrences_eq_parts (cs : List Char) :
    occurrences cs = (parts cs).filterMap Part.name? := by
  fun_induction parts cs with
  | case1 => rfl
  | case2 c rest opens ih =>
    rw [occurrences, if_pos opens, ← occurrences_dropWhile rest, ih]
    rfl
  | case3 c rest closed ih =>
    rw [occurrences, if_neg closed, ih]
    rfl

end Placeholder
end FeatureSpec
