import FeatureSpec.Proofs.Placeholders
/-!
Placeholders in the writing of a driver. The colons of placeholders are marked and nothing else is
touched, so that no placeholder is left behind.
-/
namespace FeatureSpec.Placeholder

open Text

def OpensAt (cs : List Char) (i : Nat) : Prop :=
  cs[i]? = some ':' ∧ ∃ c, cs[i + 1]? = some c ∧ isWord c = true

theorem opensAt_iff {cs : List Char} {i : Nat} :
    OpensAt cs i ↔ cs[i]? = some ':' ∧ (cs.drop (i + 1)).takeWhile isWord ≠ [] := by
  have next : (∃ c, cs[i + 1]? = some c ∧ isWord c = true) ↔
      (cs.drop (i + 1)).head?.any isWord = true := by
    rw [List.head?_drop]
    cases cs[i + 1]? <;> simp
  rw [OpensAt, next, takeWhile_ne_nil_iff]

theorem standsAt_iff_opensAt {cs name : List Char} {i : Nat} :
    StandsAt cs i name ↔ OpensAt cs i ∧ RunAt cs (i + 1) name := by
  rw [standsAt_iff, opensAt_iff, runAt_iff]
  constructor
  · rintro ⟨colon, nonempty, rfl⟩
    exact ⟨⟨colon, nonempty⟩, rfl⟩
  · rintro ⟨⟨colon, nonempty⟩, rfl⟩
    exact ⟨colon, nonempty, rfl⟩

theorem opensAt_succ {c : Char} {rest : List Char} {i : Nat} :
    OpensAt (c :: rest) (i + 1) ↔ OpensAt rest i := by
  simp [OpensAt]

theorem opensAt_zero {c : Char} {rest : List Char} :
    OpensAt (c :: rest) 0 ↔ c = ':' ∧ rest.head?.any isWord = true := by
  rw [opensAt_iff, ← takeWhile_ne_nil_iff]
  simp

theorem length_remark (mark : Char) (cs : List Char) : (remark mark cs).length = cs.length := by
  induction cs with
  | nil => rfl
  | cons c rest ih => simp [remark, ih]

theorem remark_opening {mark : Char} {cs : List Char} {i : Nat} (opens : OpensAt cs i) :
    (remark mark cs)[i]? = some mark := by
  induction cs generalizing i with
  | nil => simp [OpensAt] at opens
  | cons c rest ih =>
    cases i with
    | zero => simp [remark, opensAt_zero.mp opens]
    | succ i =>
      rw [remark, List.getElem?_cons_succ]
      exact ih (opensAt_succ.mp opens)

theorem remark_elsewhere {mark : Char} {cs : List Char} {i : Nat} (closed : ¬OpensAt cs i) :
    (remark mark cs)[i]? = cs[i]? := by
  induction cs generalizing i with
  | nil => rfl
  | cons c rest ih =>
    cases i with
    | zero =>
      have other := mt opensAt_zero.mpr closed
      rw [remark, if_neg other, List.getElem?_cons_zero, List.getElem?_cons_zero]
    | succ i =>
      rw [remark, List.getElem?_cons_succ, List.getElem?_cons_succ]
      exact ih (mt opensAt_succ.mpr closed)

theorem remark_of_none {mark : Char} {cs : List Char} (none : ∀ i, ¬OpensAt cs i) :
    remark mark cs = cs :=
  List.ext_getElem? fun i => remark_elsewhere (none i)

/-- A mark that is neither a colon nor part of a word leaves no placeholder behind: a colon that is
still there has no word behind it, since it had none before. -/
theorem not_opensAt_remark {mark : Char} (other : mark ≠ ':') (noWord : isWord mark = false)
    (cs : List Char) (i : Nat) : ¬OpensAt (remark mark cs) i := by
  rintro ⟨colon, c, next, word⟩
  by_cases first : OpensAt cs i
  · rw [remark_opening first] at colon
    exact other (Option.some.inj colon)
  rw [remark_elsewhere first] at colon
  by_cases second : OpensAt cs (i + 1)
  · rw [remark_opening second] at next
    cases next
    rw [noWord] at word
    cases word
  · rw [remark_elsewhere second] at next
    exact first ⟨colon, c, next, word⟩

theorem remark_append_plain {mark : Char} {lead : List Char} (plain : ∀ c ∈ lead, c ≠ ':')
    (cs : List Char) : remark mark (lead ++ cs) = lead ++ remark mark cs := by
  induction lead with
  | nil => rfl
  | cons c lead ih =>
    obtain ⟨other, plain⟩ := List.forall_mem_cons.mp plain
    rw [List.cons_append, remark, if_neg (fun opens => other opens.1), ih plain, List.cons_append]

theorem remark_eq_parts (mark : Char) (cs : List Char) :
    remark mark cs = (parts cs).flatMap (Part.chars mark) := by
  fun_induction parts cs with
  | case1 => rfl
  | case2 c rest opens ih =>
    have plain : ∀ c ∈ rest.takeWhile isWord, c ≠ ':' := fun c member =>
      ne_colon_of_word (List.mem_takeWhile_imp member)
    have behind : remark mark rest =
        rest.takeWhile isWord ++ remark mark (rest.dropWhile isWord) := by
      rw [← remark_append_plain plain, List.takeWhile_append_dropWhile]
    rw [remark, if_pos opens, behind, ih]
    rfl
  | case3 c rest closed ih =>
    rw [remark, if_neg closed, ih]
    rfl

/-- The drivers that write another mark, by the lower case of their names. -/
def Marks (driver : String) : Prop := lower driver = "sqlserver" ∨ lower driver = "mssql"

theorem convert_of_marks {driver : String} (marks : Marks driver) (text : String) :
    convert driver text = String.ofList (remark '@' text.toList) := by
  have marked : driverMark? driver = some '@' := by
    rcases marks with same | same <;> simp [driverMark?, same]
  rw [convert, marked]

theorem convert_of_others {driver : String} (others : ¬Marks driver) (text : String) :
    convert driver text = text := by
  have unmarked : driverMark? driver = none := by
    simpa [driverMark?, Marks] using others
  rw [convert, unmarked]

/-- The conversion of a text. Every position is as it was or starts a placeholder, whose colon is
now marked; no placeholder is left, and the changed positions are those of the placeholders. -/
structure Converted (text out : String) : Prop where
  length : out.length = text.length
  marked : ∀ i, OpensAt text.toList i → out.toList[i]? = some '@'
  kept : ∀ i, ¬OpensAt text.toList i → out.toList[i]? = text.toList[i]?
  partwise : out.toList = (parts text.toList).flatMap (Part.chars '@')
  unnamed : names out = []
  settled : ∀ driver, convert driver out = out
  changed : ∀ name, name ∈ names text ↔
    ∃ i, out.toList[i]? ≠ text.toList[i]? ∧ RunAt text.toList (i + 1) name.toList
  distinct : (names text).Nodup

theorem names_remark {mark : Char} (other : mark ≠ ':') (noWord : isWord mark = false)
    (cs : List Char) : names (String.ofList (remark mark cs)) = [] := by
  refine List.eq_nil_iff_forall_not_mem.mpr ?_
  intro name member
  obtain ⟨i, stands⟩ := mem_names.mp member
  rw [String.toList_ofList] at stands
  exact not_opensAt_remark other noWord cs i (standsAt_iff_opensAt.mp stands).1

theorem converted_remark (text : String) :
    Converted text (String.ofList (remark '@' text.toList)) := by
  have noWord : isWord '@' = false := by decide
  have other : '@' ≠ ':' := by decide
  -- The mark is not a colon, so that every placeholder shows a change.
  have changed : ∀ i, (remark '@' text.toList)[i]? ≠ text.toList[i]? ↔ OpensAt text.toList i := by
    intro i
    constructor
    · exact fun differs => by_contra fun closed => differs (remark_elsewhere closed)
    · intro opens same
      rw [remark_opening opens, opens.1] at same
      exact other (Option.some.inj same)
  refine ⟨?length, ?marked, ?kept, ?partwise, ?unnamed, ?settled, ?changed, names_nodup text⟩
  case length =>
    rw [String.length_ofList, length_remark, String.length_toList]
  case marked =>
    intro i opens
    rw [String.toList_ofList]
    exact remark_opening opens
  case kept =>
    intro i closed
    rw [String.toList_ofList]
    exact remark_elsewhere closed
  case partwise => rw [String.toList_ofList, remark_eq_parts]
  case unnamed => exact names_remark other noWord text.toList
  case settled =>
    intro driver
    by_cases marks : Marks driver
    · rw [convert_of_marks marks, String.toList_ofList,
        remark_of_none (not_opensAt_remark other noWord text.toList)]
    · exact convert_of_others marks _
  case changed =>
    intro name
    rw [mem_names, String.toList_ofList]
    simp only [changed, standsAt_iff_opensAt]

/-- A driver that writes another mark has it in place of the colon of every placeholder and finds
all else as it was; for the other drivers a text stays as it is. -/
theorem placeholders_converted (driver text : String) :
    (Marks driver → Converted text (convert driver text)) ∧
      (¬Marks driver → convert driver text = text) := by
  refine ⟨fun marks => ?_, fun others => convert_of_others others text⟩
  rw [convert_of_marks marks]
  exact converted_remark text

example : convert "MSSQL" "SELECT a::int WHERE b = :id:kind : d" =
    "SELECT a:@int WHERE b = @id@kind : d" := by
  decide +kernel

end FeatureSpec.Placeholder
