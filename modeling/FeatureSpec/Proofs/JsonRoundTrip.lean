import FeatureSpec.Proofs.JsonScalars
import Mathlib.Data.List.Nodup
/-!
Written JSON reads back as the value it was written of, in every style: numbers have to read back
one by one, and no object may have a key twice.
-/
namespace FeatureSpec

namespace Entries

variable {α : Type}

theorem put_of_fresh {m : Entries α} {key : String} (fresh : key ∉ m.keys) (v : α) :
    m.put key v = m ++ [(key, v)] := by
  induction m with
  | nil => rfl
  | cons e rest ih =>
    obtain ⟨k, w⟩ := e
    obtain ⟨other, later⟩ : key ≠ k ∧ key ∉ keys rest := by simpa [keys] using fresh
    rw [put, if_neg (Ne.symm other), ih later, List.cons_append]

theorem merge_of_nodup {m n : Entries α} (distinct : (keys (m ++ n)).Nodup) :
    m.merge n = m ++ n := by
  induction n generalizing m with
  | nil => exact (List.append_nil m).symm
  | cons e rest ih =>
    obtain ⟨k, v⟩ := e
    have fresh : k ∉ m.keys := by
      rw [keys, List.map_append, List.map_cons, List.nodup_middle] at distinct
      exact fun known => (List.nodup_cons.mp distinct).1 (List.mem_append_left _ known)
    have moved : m ++ (k, v) :: rest = (m ++ [(k, v)]) ++ rest := by simp
    have step : m.merge ((k, v) :: rest) = (m.put k v).merge rest := rfl
    rw [step, put_of_fresh fresh v, moved]
    exact ih (moved ▸ distinct)

theorem ofList_of_nodup {kvs : List (String × α)} (distinct : (keys kvs).Nodup) :
    ofList kvs = kvs :=
  merge_of_nodup (m := []) distinct

end Entries

namespace Json

open Text Number

/-- A floating-point number that is read again from what is written of it. -/
def ReadsBack (x : Binary64) : Prop :=
  ∀ rest, endsNumber rest = true → scalar (floatChars x ++ rest) = .ok (.float x, rest)

mutual

/-- What can be read again: integers of no more digits than are read, floating-point numbers
that read back, objects with distinct keys. -/
def Legible : Json → Prop
  | .int n => n.natAbs < 10 ^ integerDigitLimit
  | .float x => ReadsBack x
  | .array items => LegibleItems items
  | .object members => (members.map Prod.fst).Nodup ∧ LegibleMembers members
  | _ => True

def LegibleItems : List Json → Prop
  | [] => True
  | v :: rest => v.Legible ∧ LegibleItems rest

def LegibleMembers : List (String × Json) → Prop
  | [] => True
  | (_, v) :: rest => v.Legible ∧ LegibleMembers rest

end

/-! ### Spaces -/

theorem isSpace_of_lineBreak (style : Style) (level : Nat) :
    ∀ c ∈ lineBreak style level, isSpace c = true := by
  intro c member
  unfold lineBreak at member
  split at member
  · cases member
  · rcases List.mem_cons.mp member with rfl | blank
    · rfl
    · rw [List.eq_of_mem_replicate blank]
      rfl

theorem skipSpace_append {spaces : List Char} (all : ∀ c ∈ spaces, isSpace c = true)
    (rest : List Char) : skipSpace (spaces ++ rest) = skipSpace rest :=
  List.dropWhile_append_of_pos all

theorem skipSpace_cons {c : Char} (visible : isSpace c = false) (rest : List Char) :
    skipSpace (c :: rest) = c :: rest :=
  List.dropWhile_cons_of_neg (by simp [visible])

theorem endsNumber_lineBreak (style : Style) (level : Nat) {rest : List Char}
    (ends : endsNumber rest = true) : endsNumber (lineBreak style level ++ rest) = true := by
  unfold lineBreak
  split
  · exact ends
  · rfl

/-! ### Values -/

theorem value_head {fuel : Nat} {cs : List Char} {read : Json × List Char}
    (h : value fuel cs = .ok read) :
    ∃ c rest, cs = c :: rest ∧ isSpace c = false ∧ c ≠ ']' := by
  rcases fuel with _ | fuel
  · cases h
  rcases cs with _ | ⟨c, rest⟩
  · cases h
  refine ⟨c, rest, rfl, ?_, ?_⟩
  · refine Bool.eq_false_iff.mpr fun space => ?_
    simp only [isSpace, Bool.or_eq_true, beq_iff_eq] at space
    rcases space with ((rfl | rfl) | rfl) | rfl <;> cases h
  · rintro rfl
    cases h

theorem value_of_scalar {fuel : Nat} {cs : List Char} {read : Json × List Char}
    (h : scalar cs = .ok read) : value (fuel + 1) cs = .ok read := by
  rw [← h, value.eq_def]
  dsimp only
  split
  all_goals first | rfl | cases h

/-- A text of a value, which is read as that value wherever it ends. -/
def ReadAs (text : List Char) (v : Json) : Prop :=
  ∀ fuel rest, text.length ≤ fuel → endsNumber rest = true →
    value fuel (text ++ rest) = .ok (v, rest)

theorem readAs_scalar {text : List Char} {v : Json} (written : text ≠ [])
    (h : ∀ rest, endsNumber rest = true → scalar (text ++ rest) = .ok (v, rest)) :
    ReadAs text v := by
  intro fuel rest enough ends
  have positive : 0 < fuel := Nat.lt_of_lt_of_le (List.length_pos_of_ne_nil written) enough
  obtain ⟨fuel, rfl⟩ := Nat.exists_eq_add_one_of_ne_zero (Nat.ne_of_gt positive)
  exact value_of_scalar (h rest ends)

theorem readAs_string (ascii : Bool) (s : String) : ReadAs (quotedChars ascii s) (.string s) := by
  intro fuel rest enough _
  rcases fuel with _ | fuel
  · cases enough
  rw [quotedChars, List.cons_append, List.cons_append, List.append_assoc, value]
  simp only [List.singleton_append, stringToken_quoted]
  rfl

theorem readAs_bool (b : Bool) (style : Style) (level : Nat) :
    ReadAs (chars style level (.bool b)) (.bool b) := by
  cases b
  · exact readAs_scalar (List.cons_ne_nil _ _) fun _ _ => rfl
  · exact readAs_scalar (List.cons_ne_nil _ _) fun _ _ => rfl

theorem readAs_int {n : Int} (short : n.natAbs < 10 ^ integerDigitLimit) :
    ReadAs (intChars n) (.int n) := by
  refine readAs_scalar ?_ fun rest ends => scalar_intChars short ends
  intro empty
  have read : scalar (intChars n ++ []) = .ok (.int n, []) := scalar_intChars short rfl
  rw [empty] at read
  cases read

theorem readAs_float {x : Binary64} (h : ReadsBack x) : ReadAs (floatChars x) (.float x) := by
  refine readAs_scalar ?_ h
  intro empty
  have read := h [] rfl
  rw [empty] at read
  cases read

section

variable {text : List Char} {v : Json} {fuel : Nat} {spaces tail : List Char}

theorem skipSpace_readAs (h : ReadAs text v) (ends : endsNumber tail = true) :
    skipSpace (text ++ tail) = text ++ tail := by
  obtain ⟨c, rest, starts, visible, -⟩ := value_head (h text.length tail (Nat.le_refl _) ends)
  rw [starts]
  exact skipSpace_cons visible rest

theorem elements_last (h : ReadAs text v) (enough : text.length ≤ fuel)
    (blank : ∀ c ∈ spaces, isSpace c = true) (ends : endsNumber (spaces ++ ']' :: tail) = true) :
    elements (fuel + 1) (text ++ (spaces ++ ']' :: tail)) = .ok ([v], tail) := by
  rw [elements, h fuel _ enough ends]
  simp only [bind, Except.bind, skipSpace_append blank, skipSpace_cons (rfl : isSpace ']' = false)]
  rfl

theorem elements_more (h : ReadAs text v) (enough : text.length ≤ fuel) {items : List Json}
    {rest : List Char} (later : elements fuel (skipSpace tail) = .ok (items, rest)) :
    elements (fuel + 1) (text ++ ',' :: tail) = .ok (v :: items, rest) := by
  rw [elements, h fuel _ enough rfl]
  simp only [bind, Except.bind, skipSpace_cons (rfl : isSpace ',' = false), later]
  rfl

/-- A key and what stands before the text of its value. -/
def keyChars (ascii : Bool) (key : String) : List Char := quotedChars ascii key ++ [':', ' ']

theorem keyChars_append (ascii : Bool) (key : String) (rest : List Char) :
    keyChars ascii key ++ rest =
      '"' :: (key.toList.flatMap (escapeChar ascii) ++ '"' :: ':' :: ' ' :: rest) := by
  simp [keyChars, quotedChars]

theorem members_last (ascii : Bool) (key : String) (h : ReadAs text v)
    (enough : text.length ≤ fuel) (blank : ∀ c ∈ spaces, isSpace c = true)
    (ends : endsNumber (spaces ++ '}' :: tail) = true) :
    members (fuel + 1) (keyChars ascii key ++ (text ++ (spaces ++ '}' :: tail))) =
      .ok ([(key, v)], tail) := by
  have start : skipSpace (' ' :: (text ++ (spaces ++ '}' :: tail))) =
      text ++ (spaces ++ '}' :: tail) := skipSpace_readAs h ends
  rw [keyChars_append, members, stringToken_quoted]
  simp only [bind, Except.bind, skipSpace_cons (rfl : isSpace ':' = false), start,
    h fuel _ enough ends, skipSpace_append blank, skipSpace_cons (rfl : isSpace '}' = false)]
  rfl

theorem members_more (ascii : Bool) (key : String) (h : ReadAs text v)
    (enough : text.length ≤ fuel) {more : List (String × Json)} {rest : List Char}
    (later : members fuel (skipSpace tail) = .ok (more, rest)) :
    members (fuel + 1) (keyChars ascii key ++ (text ++ ',' :: tail)) =
      .ok ((key, v) :: more, rest) := by
  have start : skipSpace (' ' :: (text ++ ',' :: tail)) = text ++ ',' :: tail :=
    skipSpace_readAs h rfl
  rw [keyChars_append, members, stringToken_quoted]
  simp only [bind, Except.bind, skipSpace_cons (rfl : isSpace ':' = false), start,
    h fuel (',' :: tail) enough rfl, skipSpace_cons (rfl : isSpace ',' = false), later]
  rfl

end

section

variable (style : Style) (level : Nat)

theorem separator_eq :
    ∃ spaces, separator style level = ',' :: spaces ∧ ∀ c ∈ spaces, isSpace c = true := by
  unfold separator
  split
  · exact ⟨[' '], rfl, List.forall_mem_singleton.mpr rfl⟩
  · exact ⟨lineBreak style level, rfl, isSpace_of_lineBreak style level⟩

theorem endsNumber_itemChars (items : List Json) {rest : List Char}
    (ends : endsNumber rest = true) :
    endsNumber (itemChars style level items ++ rest) = true := by
  cases items with
  | nil => exact ends
  | cons v more =>
    obtain ⟨spaces, separated, -⟩ := separator_eq style level
    rw [itemChars, separated]
    rfl

/-! ### Nesting -/

/-- A list, its items behind the first one in the form of further items. -/
theorem readAs_array {text : List Char} {v : Json} {items : List Json} (first : ReadAs text v)
    (others : ∀ fuel tail, text.length + (itemChars style (level + 1) items).length < fuel →
      elements fuel (text ++ (itemChars style (level + 1) items ++
        (lineBreak style level ++ ']' :: tail))) = .ok (v :: items, tail)) :
    ReadAs ('[' :: lineBreak style (level + 1) ++ text ++ itemChars style (level + 1) items ++
      lineBreak style level ++ [']']) (.array (v :: items)) := by
  intro fuel rest enough _
  rcases fuel with _ | fuel
  · cases enough
  have room : text.length + (itemChars style (level + 1) items).length < fuel := by
    simp only [List.length_append, List.length_cons, List.length_nil] at enough
    omega
  have ends : endsNumber (itemChars style (level + 1) items ++
      (lineBreak style level ++ ']' :: rest)) = true :=
    endsNumber_itemChars style _ items (endsNumber_lineBreak style level rfl)
  -- The first item does not start with the bracket that would end an empty array.
  obtain ⟨c, more, starts, visible, other⟩ :=
    value_head (first text.length _ (Nat.le_refl _) ends)
  have read := others fuel rest room
  simp only [List.cons_append, List.append_assoc, List.nil_append]
  rw [value, skipSpace_append (isSpace_of_lineBreak style (level + 1))]
  rw [starts] at read ⊢
  rw [skipSpace_cons visible]
  split
  · rename_i closed
    exact absurd (List.cons.inj closed).1 other
  · rw [read]
    rfl

/-- An object, its members behind the first one in the form of further members. -/
theorem readAs_object {text : List Char} {key : String} {v : Json}
    {others : List (String × Json)} (distinct : (Entries.keys ((key, v) :: others)).Nodup)
    (read : ∀ fuel tail, text.length + (memberChars style (level + 1) others).length < fuel →
      members fuel (keyChars style.ascii key ++ (text ++ (memberChars style (level + 1) others ++
        (lineBreak style level ++ '}' :: tail)))) = .ok ((key, v) :: others, tail)) :
    ReadAs ('{' :: lineBreak style (level + 1) ++ quotedChars style.ascii key ++ [':', ' '] ++
      text ++ memberChars style (level + 1) others ++ lineBreak style level ++ ['}'])
      (.object ((key, v) :: others)) := by
  intro fuel rest enough _
  rcases fuel with _ | fuel
  · cases enough
  have room : text.length + (memberChars style (level + 1) others).length < fuel := by
    simp only [List.length_append, List.length_cons, List.length_nil] at enough
    omega
  have read := read fuel rest room
  have shape : '{' :: lineBreak style (level + 1) ++ quotedChars style.ascii key ++ [':', ' '] ++
      text ++ memberChars style (level + 1) others ++ lineBreak style level ++ ['}'] ++ rest =
      '{' :: (lineBreak style (level + 1) ++ (keyChars style.ascii key ++ (text ++
        (memberChars style (level + 1) others ++ (lineBreak style level ++ '}' :: rest))))) := by
    simp [keyChars]
  rw [shape, value, skipSpace_append (isSpace_of_lineBreak style (level + 1))]
  rw [keyChars_append] at read ⊢
  rw [skipSpace_cons (rfl : isSpace '"' = false)]
  split
  · rename_i closed
    cases closed
  · rw [read]
    exact congrArg (fun kept => Except.ok (Json.object kept, rest))
      (Entries.ofList_of_nodup distinct)

end

mutual

/-- A value reads back from its text in any style, at any level. -/
theorem readAs_chars (style : Style) : ∀ (v : Json) (level : Nat), v.Legible →
    ReadAs (chars style level v) v
  | .null, _, _ => readAs_scalar (List.cons_ne_nil _ _) fun _ _ => rfl
  | .bool b, level, _ => readAs_bool b style level
  | .int _, _, short => readAs_int short
  | .float _, _, back => readAs_float back
  | .string s, _, _ => readAs_string style.ascii s
  | .array [], _, _ => by
    rintro (_ | fuel) rest enough -
    · cases enough
    · rfl
  | .array (v :: items), level, legible =>
    readAs_array style level (readAs_chars style v (level + 1) legible.1) fun fuel tail room =>
      elements_itemChars style level items legible.2 (readAs_chars style v (level + 1) legible.1)
        fuel tail room
  | .object [], _, _ => by
    rintro (_ | fuel) rest enough -
    · cases enough
    · rfl
  | .object ((key, v) :: others), level, legible =>
    readAs_object style level legible.1 fun fuel tail room =>
      members_memberChars style level others legible.2.2 key
        (readAs_chars style v (level + 1) legible.2.1) fuel tail room

/-- Further items and the closing bracket, behind the text of an item. -/
theorem elements_itemChars (style : Style) (level : Nat) : ∀ items : List Json,
    LegibleItems items → ∀ {text : List Char} {v : Json}, ReadAs text v → ∀ fuel tail,
    text.length + (itemChars style (level + 1) items).length < fuel →
    elements fuel (text ++ (itemChars style (level + 1) items ++
      (lineBreak style level ++ ']' :: tail))) = .ok (v :: items, tail)
  | [], _, text, v, first, fuel, tail, room => by
    rcases fuel with _ | fuel
    · cases room
    exact elements_last first (by omega) (isSpace_of_lineBreak style level)
      (endsNumber_lineBreak style level rfl)
  | w :: more, legible, text, v, first, fuel, tail, room => by
    obtain ⟨spaces, separated, blank⟩ := separator_eq style (level + 1)
    have next : ReadAs (chars style (level + 1) w) w := readAs_chars style w (level + 1) legible.1
    rcases fuel with _ | fuel
    · cases room
    simp only [itemChars, separated, List.length_append, List.length_cons] at room
    have later := elements_itemChars style level more legible.2 next fuel tail (by omega)
    have ends : endsNumber (itemChars style (level + 1) more ++
        (lineBreak style level ++ ']' :: tail)) = true :=
      endsNumber_itemChars style _ more (endsNumber_lineBreak style level rfl)
    rw [itemChars, separated, List.append_assoc, List.append_assoc, List.cons_append]
    refine elements_more first (by omega) ?_
    rw [skipSpace_append blank, skipSpace_readAs next ends]
    exact later

/-- Further members and the closing brace, behind a member. -/
theorem members_memberChars (style : Style) (level : Nat) : ∀ others : List (String × Json),
    LegibleMembers others → ∀ (key : String) {text : List Char} {v : Json}, ReadAs text v →
    ∀ fuel tail, text.length + (memberChars style (level + 1) others).length < fuel →
    members fuel (keyChars style.ascii key ++ (text ++ (memberChars style (level + 1) others ++
      (lineBreak style level ++ '}' :: tail)))) = .ok ((key, v) :: others, tail)
  | [], _, key, text, v, first, fuel, tail, room => by
    rcases fuel with _ | fuel
    · cases room
    exact members_last _ key first (by omega) (isSpace_of_lineBreak style level)
      (endsNumber_lineBreak style level rfl)
  | (k, w) :: more, legible, key, text, v, first, fuel, tail, room => by
    obtain ⟨spaces, separated, blank⟩ := separator_eq style (level + 1)
    have next : ReadAs (chars style (level + 1) w) w := readAs_chars style w (level + 1) legible.1
    rcases fuel with _ | fuel
    · cases room
    simp only [memberChars, separated, List.length_append, List.length_cons] at room
    have later := members_memberChars style level more legible.2 k next fuel tail (by omega)
    have shape : memberChars style (level + 1) ((k, w) :: more) ++
        (lineBreak style level ++ '}' :: tail) = ',' :: (spaces ++ (keyChars style.ascii k ++
          (chars style (level + 1) w ++ (memberChars style (level + 1) more ++
            (lineBreak style level ++ '}' :: tail))))) := by
      simp [memberChars, separated, keyChars]
    rw [shape]
    refine members_more _ key first (by omega) ?_
    rw [skipSpace_append blank, keyChars_append, skipSpace_cons (rfl : isSpace '"' = false),
      ← keyChars_append]
    exact later

end

/-- What is written of a legible value reads back as that value. -/
theorem read_write (style : Style) {v : Json} (legible : v.Legible) :
    read (write style v) = .ok v := by
  have text : ReadAs (chars style 0 v) v := readAs_chars style v 0 legible
  have start : skipSpace (chars style 0 v ++ []) = chars style 0 v ++ [] :=
    skipSpace_readAs text rfl
  have whole := text (2 * (chars style 0 v).length + 2) [] (by omega) rfl
  rw [List.append_nil] at start whole
  rw [read, write, String.toList_ofList, readChars, start, whole]
  rfl

end Json
end FeatureSpec
