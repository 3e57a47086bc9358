import FeatureSpec.Proofs.DoubleTexts
import FeatureSpec.Proofs.FirstOccurrences
import FeatureSpec.Proofs.LegibleFeature
/-!
What a JSON text is read as can be written and read again; and a text is said to hold an integer of
too many digits only if it has a run of that many digits in it.
-/
namespace FeatureSpec.Json

open Text Number

/-- A text with a run of this many digits in it, which are more than are read. -/
def HasLongRun (cs : List Char) (count : Nat) : Prop :=
  integerDigitLimit < count ∧
    ∃ digits, digits <:+: cs ∧ digits.length = count ∧ ∀ c ∈ digits, c.isDigit = true

variable {α β : Type} {good : α → Prop} {good' : β → Prop} {cs ds : List Char}

/-- What a reader makes of the front of a text: something good and a rest of the text, or a fault,
which is malformedness unless the text has too long a run of digits. -/
structure Sound (good : α → Prop) (cs : List Char) (x : Except Fault (α × List Char)) : Prop where
  value : ∀ a rest, x = .ok (a, rest) → good a ∧ rest <:+ cs
  fault : ∀ count, x = .error (.tooManyDigits count) → HasLongRun cs count

theorem HasLongRun.of_suffix {count : Nat} (long : HasLongRun ds count) (suffix : ds <:+ cs) :
    HasLongRun cs count := by
  obtain ⟨many, digits, run, rest⟩ := long
  exact ⟨many, digits, run.trans suffix.isInfix, rest⟩

theorem Sound.of_suffix {x : Except Fault (α × List Char)} (sound : Sound good ds x)
    (suffix : ds <:+ cs) : Sound good cs x where
  value a rest read := ⟨(sound.value a rest read).1, (sound.value a rest read).2.trans suffix⟩
  fault count failed := (sound.fault count failed).of_suffix suffix

theorem sound_ok {a : α} {rest : List Char} (fine : good a) (suffix : rest <:+ cs) :
    Sound good cs (.ok (a, rest)) where
  value b rest' read := by
    cases read
    exact ⟨fine, suffix⟩
  fault count failed := by cases failed

theorem sound_malformed : Sound good cs (.error .malformed) where
  value a rest read := by cases read
  fault count failed := by cases failed

theorem sound_bind {x : Except Fault (α × List Char)}
    {f : α × List Char → Except Fault (β × List Char)}
    (first : Sound good cs x) (next : ∀ a rest, good a → Sound good' rest (f (a, rest))) :
    Sound good' cs (x >>= f) := by
  rcases x with fault | ⟨a, rest⟩
  · constructor
    · intro b rest read
      cases read
    · intro count failed
      exact first.fault count (congrArg Except.error (Except.error.inj failed))
  · obtain ⟨fine, suffix⟩ := first.value a rest rfl
    exact (next a rest fine).of_suffix suffix

/-! ### Strings and numbers -/

theorem skipSpace_suffix (cs : List Char) : skipSpace cs <:+ cs := List.dropWhile_suffix _

theorem spanDigits_eq (cs : List Char) :
    (spanDigits cs).1 ++ (spanDigits cs).2 = cs ∧ ∀ c ∈ (spanDigits cs).1, c.isDigit = true := by
  rw [spanDigits, List.span_eq_takeWhile_dropWhile]
  exact ⟨List.takeWhile_append_dropWhile, fun _ => List.mem_takeWhile_imp⟩

theorem spanDigits_suffix (cs : List Char) : (spanDigits cs).2 <:+ cs :=
  ⟨_, (spanDigits_eq cs).1⟩

/-- What stands behind a string is not changed by the characters in front of it. -/
theorem rest_of_bind {x : Option (List Char × List Char)} {f : List Char → List Char}
    {body rest : List Char}
    (read : (x >>= fun p => match p with | (body, rest) => pure (f body, rest)) =
      some (body, rest)) : ∃ body', x = some (body', rest) := by
  obtain ⟨⟨body', rest'⟩, given, same⟩ := Option.bind_eq_some_iff.mp read
  cases same
  exact ⟨body', given⟩

theorem stringBody_suffix {pending : Option Nat} {body rest : List Char}
    (read : stringBody pending cs = some (body, rest)) : rest <:+ cs := by
  have deeper {c : Char} {ds es : List Char} (suffix : ds <:+ es) : ds <:+ c :: es :=
    suffix.trans (List.suffix_cons c es)
  fun_induction stringBody pending cs generalizing body rest with
  | case1 pending a b c d more plain surrogate =>
    obtain ⟨n, -, read⟩ := Option.bind_eq_some_iff.mp read
    -- An escape of a code unit takes six characters; a high surrogate stays pending.
    refine deeper (deeper (deeper (deeper (deeper (deeper ?_)))))
    split at read
    · split at read
      · obtain ⟨_, given⟩ := rest_of_bind read
        exact plain given
      · cases read
    · split at read
      · exact surrogate _ read
      · split at read
        · cases read
        · obtain ⟨_, given⟩ := rest_of_bind read
          exact plain given
  | case2 => cases read
  | case3 => cases read
  | case4 more =>
    cases read
    exact List.suffix_cons _ _
  | case5 c more _ ih =>
    obtain ⟨_, -, read⟩ := Option.bind_eq_some_iff.mp read
    obtain ⟨_, given⟩ := rest_of_bind read
    exact deeper (deeper (ih given))
  | case6 => cases read
  | case7 c more _ _ _ _ ih =>
    obtain ⟨⟨_, _⟩, given, same⟩ := Option.map_eq_some_iff.mp read
    cases same
    exact deeper (ih given)

theorem sound_stringToken (cs : List Char) : Sound (fun _ => True) cs (stringToken cs) := by
  unfold stringToken
  split
  · rename_i body rest read
    exact sound_ok trivial (stringBody_suffix read)
  · exact sound_malformed

theorem wholeDigits_suffix {whole rest : List Char} (read : wholeDigits? cs = some (whole, rest)) :
    whole ++ rest = cs ∧ ∀ c ∈ whole, c.isDigit = true := by
  unfold wholeDigits? at read
  split at read
  · cases read
    exact ⟨rfl, List.forall_mem_singleton.mpr rfl⟩
  · split at read
    · rename_i c more _ _
      have parts := spanDigits_eq (c :: more)
      rwa [Option.some.inj read] at parts
    · cases read
  · cases read

theorem fractionDigits_suffix (cs : List Char) : (fractionDigits cs).2 <:+ cs := by
  unfold fractionDigits
  split
  · dsimp only
    split
    · exact List.suffix_rfl
    · exact (spanDigits_suffix _).trans (List.suffix_cons _ _)
  · exact List.suffix_rfl

theorem spanSign_suffix (cs : List Char) : (spanSign cs).2 <:+ cs := by
  unfold spanSign
  split
  · exact List.suffix_cons _ _
  · exact List.suffix_cons _ _
  · exact List.suffix_rfl

theorem exponent_suffix (cs : List Char) : (exponent? cs).2 <:+ cs := by
  unfold exponent?
  split
  · split
    · dsimp only
      split
      · exact List.suffix_rfl
      · exact ((spanDigits_suffix _).trans (spanSign_suffix _)).trans (List.suffix_cons _ _)
    · exact List.suffix_rfl
  · exact List.suffix_rfl

theorem natOfDigits_lt {digits : List Char} (all : ∀ c ∈ digits, c.isDigit = true) :
    natOfDigits digits < 10 ^ digits.length := by
  have small : ∀ d ∈ digits.map fun c => c.toNat - 48, d < 10 := by
    intro d member
    obtain ⟨c, among, rfl⟩ := List.mem_map.mp member
    have digit := all c among
    simp only [Char.isDigit, Bool.and_eq_true, decide_eq_true_eq] at digit
    have most : c.toNat ≤ 57 := digit.2
    omega
  have bound := Compile.ofDigits_lt small
  rwa [List.length_map] at bound

/-- Only here are digits counted. -/
theorem sound_numberBody (negative : Bool) (cs : List Char) :
    Sound Legible cs (numberBody negative cs) := by
  unfold numberBody
  split
  · exact sound_malformed
  · rename_i whole rest read
    obtain ⟨parts, all⟩ := wholeDigits_suffix read
    have suffix : (exponent? (fractionDigits rest).2).2 <:+ cs :=
      ((exponent_suffix _).trans (fractionDigits_suffix _)).trans ⟨whole, parts⟩
    dsimp only
    split
    · split
      · rename_i long
        refine ⟨fun _ _ read => (by cases read), fun count failed => ?_⟩
        cases failed
        exact ⟨long, whole, ⟨[], rest, parts⟩, rfl, all⟩
      · rename_i short
        refine sound_ok ?_ suffix
        show (signed negative (natOfDigits whole)).natAbs < 10 ^ integerDigitLimit
        rw [Compile.natAbs_signed]
        calc natOfDigits whole < 10 ^ whole.length := natOfDigits_lt all
          _ ≤ 10 ^ integerDigitLimit := Nat.pow_le_pow_right (by decide) (Nat.not_lt.mp short)
    · exact sound_ok (readsBack _) suffix

theorem sound_scalar (cs : List Char) : Sound Legible cs (scalar cs) := by
  unfold scalar
  split
  · exact sound_ok trivial (List.suffix_append ['n', 'u', 'l', 'l'] _)
  · exact sound_ok trivial (List.suffix_append ['t', 'r', 'u', 'e'] _)
  · exact sound_ok trivial (List.suffix_append ['f', 'a', 'l', 's', 'e'] _)
  · exact sound_ok (readsBack _) (List.suffix_append ['N', 'a', 'N'] _)
  · exact sound_ok (readsBack _) (List.suffix_append ['I', 'n', 'f', 'i', 'n', 'i', 't', 'y'] _)
  · exact sound_ok (readsBack _)
      (List.suffix_append ['-', 'I', 'n', 'f', 'i', 'n', 'i', 't', 'y'] _)
  · exact (sound_numberBody true _).of_suffix (List.suffix_cons _ _)
  · exact sound_numberBody false cs

/-! ### Values -/

theorem forall_put {p : Json → Prop} {m : Entries Json} {key : String} {v : Json}
    (all : ∀ kv ∈ m, p kv.2) (one : p v) : ∀ kv ∈ m.put key v, p kv.2 := by
  induction m with
  | nil => exact List.forall_mem_singleton.mpr one
  | cons e rest ih =>
    obtain ⟨k, w⟩ := e
    obtain ⟨first, others⟩ := List.forall_mem_cons.mp all
    unfold Entries.put
    split
    · exact List.forall_mem_cons.mpr ⟨one, others⟩
    · exact List.forall_mem_cons.mpr ⟨first, ih others⟩

theorem forall_ofList {p : Json → Prop} {members : List (String × Json)}
    (all : ∀ kv ∈ members, p kv.2) : ∀ kv ∈ Entries.ofList members, p kv.2 := by
  induction members using List.reverseRecOn with
  | nil => exact nofun
  | append_singleton members last ih =>
    obtain ⟨others, one⟩ := List.forall_mem_append.mp all
    have step : Entries.ofList (members ++ [last]) =
        (Entries.ofList members).put last.1 last.2 := by
      simp [Entries.ofList, List.foldl_append]
    rw [step]
    exact forall_put (ih others) (one last List.mem_cons_self)

theorem legible_ofList {members : List (String × Json)}
    (legible : ∀ kv ∈ members, kv.2.Legible) : (Json.object (Entries.ofList members)).Legible := by
  refine ⟨?_, (legibleMembers_iff _).mpr (forall_ofList legible)⟩
  have keys := Entries.keys_ofList members
  rw [Entries.keys] at keys
  rw [keys]
  exact (firstOccurrences_eraseDups _).nodup

theorem sound_skipped {x : Except Fault (α × List Char)} (sound : Sound good (skipSpace cs) x) :
    Sound good cs x :=
  sound.of_suffix (skipSpace_suffix cs)

section

variable {fuel : Nat}

/-- What is sound of a value, if the readers of what stands in it are sound. -/
theorem sound_value_of
    (elements_sound : ∀ cs, Sound (fun items => ∀ v ∈ items, v.Legible) cs (elements fuel cs))
    (members_sound : ∀ cs,
      Sound (fun members => ∀ kv ∈ members, kv.2.Legible) cs (members fuel cs)) (cs : List Char) :
    Sound Legible cs (value (fuel + 1) cs) := by
  unfold value
  split
  case h_1 =>
    refine (sound_bind (sound_stringToken _) fun _ _ _ => ?_).of_suffix (List.suffix_cons _ _)
    exact sound_ok trivial List.suffix_rfl
  case h_2 =>
    refine (sound_skipped ?_).of_suffix (List.suffix_cons _ _)
    split
    · rename_i closed
      rw [closed]
      exact sound_ok trivial (List.suffix_cons _ _)
    · refine sound_bind (elements_sound _) fun items rest legible => ?_
      exact sound_ok ((legibleItems_iff items).mpr legible) List.suffix_rfl
  case h_3 =>
    refine (sound_skipped ?_).of_suffix (List.suffix_cons _ _)
    split
    · rename_i closed
      rw [closed]
      exact sound_ok ⟨List.nodup_nil, trivial⟩ (List.suffix_cons _ _)
    · refine sound_bind (members_sound _) fun members rest legible => ?_
      exact sound_ok (legible_ofList legible) List.suffix_rfl
  case h_4 => exact sound_scalar cs

theorem sound_elements_of (value_sound : ∀ cs, Sound Legible cs (value fuel cs))
    (elements_sound : ∀ cs, Sound (fun items => ∀ v ∈ items, v.Legible) cs (elements fuel cs))
    (cs : List Char) :
    Sound (fun items => ∀ v ∈ items, v.Legible) cs (elements (fuel + 1) cs) := by
  unfold elements
  refine sound_bind (value_sound cs) fun item rest legible => sound_skipped ?_
  dsimp only
  split
  · rename_i closed
    rw [closed]
    exact sound_ok (List.forall_mem_singleton.mpr legible) (List.suffix_cons _ _)
  · rename_i more separated
    rw [separated]
    refine (sound_skipped (sound_bind (elements_sound _) fun items rest others => ?_)).of_suffix
      (List.suffix_cons _ _)
    exact sound_ok (List.forall_mem_cons.mpr ⟨legible, others⟩) List.suffix_rfl
  · exact sound_malformed

theorem sound_members_of (value_sound : ∀ cs, Sound Legible cs (value fuel cs))
    (members_sound : ∀ cs,
      Sound (fun members => ∀ kv ∈ members, kv.2.Legible) cs (members fuel cs)) (cs : List Char) :
    Sound (fun members => ∀ kv ∈ members, kv.2.Legible) cs (members (fuel + 1) cs) := by
  unfold members
  split
  case h_2 => exact sound_malformed
  refine (sound_bind (sound_stringToken _) fun key rest _ => sound_skipped ?_).of_suffix
    (List.suffix_cons _ _)
  dsimp only
  split
  case h_2 => exact sound_malformed
  rename_i more separated
  rw [separated]
  refine (sound_skipped (sound_bind (value_sound _) fun item rest legible =>
    sound_skipped ?_)).of_suffix (List.suffix_cons _ _)
  dsimp only
  split
  · rename_i closed
    rw [closed]
    exact sound_ok (List.forall_mem_singleton.mpr legible) (List.suffix_cons _ _)
  · rename_i more separated
    rw [separated]
    refine (sound_skipped (sound_bind (members_sound _) fun items rest others => ?_)).of_suffix
      (List.suffix_cons _ _)
    exact sound_ok (List.forall_mem_cons.mpr ⟨legible, others⟩) List.suffix_rfl
  · exact sound_malformed

end

-- Values nest in each other, so the three readers are taken together, by induction on the fuel.
theorem sound_values (fuel : Nat) :
    (∀ cs, Sound Legible cs (value fuel cs)) ∧
      (∀ cs, Sound (fun items => ∀ v ∈ items, v.Legible) cs (elements fuel cs)) ∧
      ∀ cs, Sound (fun members => ∀ kv ∈ members, kv.2.Legible) cs (members fuel cs) := by
  induction fuel with
  | zero => exact ⟨fun _ => sound_malformed, fun _ => sound_malformed, fun _ => sound_malformed⟩
  | succ fuel ih =>
    obtain ⟨values, elementLists, memberLists⟩ := ih
    exact ⟨sound_value_of elementLists memberLists, sound_elements_of values elementLists,
      sound_members_of values memberLists⟩

/-- What is read is legible, and an integer that is not read is in the text. -/
theorem sound_readChars (cs : List Char) :
    (∀ v, readChars cs = .ok v → v.Legible) ∧
      ∀ count, readChars cs = .error (.tooManyDigits count) → HasLongRun cs count := by
  have sound := sound_skipped ((sound_values (2 * cs.length + 2)).1 (skipSpace cs))
  unfold readChars
  rcases front : value (2 * cs.length + 2) (skipSpace cs) with fault | ⟨v, rest⟩
  · refine ⟨nofun, fun count failed => sound.fault count (front.trans ?_)⟩
    exact congrArg Except.error (Except.error.inj failed)
  · have whole : (Except.ok (v, rest) >>= fun p : Json × List Char =>
        if (skipSpace p.2).isEmpty then (pure p.1 : Except Fault Json) else .error .malformed) =
        if (skipSpace rest).isEmpty then .ok v else .error .malformed := rfl
    constructor
    · intro w read
      have read' := whole.symm.trans read
      split at read' <;> cases read'
      exact (sound.value v rest front).1
    · intro count failed
      have failed' := whole.symm.trans failed
      split at failed' <;> cases failed'

/-- An integer by itself is not read if it has more digits than are read. -/
theorem readChars_of_digits {c : Char} {digits : List Char} (nonzero : c ≠ '0')
    (all : ∀ d ∈ c :: digits, d.isDigit = true)
    (long : integerDigitLimit < (c :: digits).length) :
    readChars (c :: digits) = .error (.tooManyDigits (c :: digits).length) := by
  have first : c.isDigit = true := all c List.mem_cons_self
  have visible : isSpace c = false := by
    by_contra blank
    simp only [isSpace, Bool.not_eq_false, Bool.or_eq_true, beq_iff_eq] at blank
    rcases blank with ((rfl | rfl) | rfl) | rfl <;> cases first
  have whole : wholeDigits? (c :: digits) = some (c :: digits, []) := by
    have read : wholeDigits? (c :: digits ++ []) = some (c :: digits, []) :=
      wholeDigits_of_head nonzero all rfl
    rwa [List.append_nil] at read
  have refused : scalar (c :: digits) = .error (.tooManyDigits (c :: digits).length) := by
    rw [scalar_of_digit first, numberBody, whole]
    exact if_pos long
  have value_eq (fuel : Nat) : value (fuel + 1) (c :: digits) = scalar (c :: digits) := by
    unfold value
    split
    case h_4 => rfl
    all_goals
      rename_i same
      cases same
      cases first
  unfold readChars
  rw [skipSpace_cons visible, value_eq, refused]
  rfl

end FeatureSpec.Json
