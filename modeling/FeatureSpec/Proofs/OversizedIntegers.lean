import FeatureSpec.Toml.Document
/-!
Why a TOML document is not read: it is malformed, or holds a decimal integer with more digits than
are read. The second is never said of a document without one.
-/
namespace FeatureSpec.Toml

/-- What is said to have too many digits has too many. -/
def Justified {α : Type} (x : Except Fault α) : Prop :=
  ∀ count, x = .error (.tooManyDigits count) → Number.integerDigitLimit < count

section

variable {α β : Type}

theorem justified_ok (a : α) : Justified (.ok a : Except Fault α) := by
  rintro count ⟨⟩

theorem justified_malformed : Justified (malformed : Except Fault α) := by
  rintro count ⟨⟩

theorem justified_bind {x : Except Fault α} {f : α → Except Fault β} (first : Justified x)
    (rest : ∀ a, Justified (f a)) : Justified (x >>= f) := by
  intro count failed
  cases x with
  | error fault =>
    obtain rfl := Except.error.inj failed
    exact first count rfl
  | ok a => exact rest a count failed

end

/-! ### Comments and strings -/

theorem justified_skipComment (cs : List Char) : Justified (skipComment cs) := by
  unfold skipComment
  split
  · dsimp only
    split
    · exact justified_malformed
    · exact justified_ok _
  · exact justified_ok _

theorem justified_skipLines (fuel : Nat) (cs : List Char) : Justified (skipLines fuel cs) := by
  induction fuel generalizing cs with
  | zero => exact justified_ok _
  | succ fuel ih =>
    unfold skipLines
    split
    · exact justified_bind (justified_skipComment _) ih
    · exact justified_ok _

theorem justified_literal (cs : List Char) : Justified (literal cs) := by
  fun_induction literal cs with
  | case1 => exact justified_malformed
  | case2 => exact justified_ok _
  | case3 => exact justified_malformed
  | case4 c rest _ _ ih => exact justified_bind ih fun _ => justified_ok _

theorem justified_literalLines (cs : List Char) : Justified (literalLines cs) := by
  fun_induction literalLines cs with
  | case1 => exact justified_malformed
  | case2 => exact justified_ok _
  | case3 => exact justified_malformed
  | case4 c rest _ _ ih => exact justified_bind ih fun _ => justified_ok _

theorem justified_escape (cs : List Char) : Justified (escape cs) := by
  unfold escape
  repeat' split
  all_goals first
    | exact justified_ok _
    | exact justified_malformed

theorem justified_basic (fuel : Nat) (cs : List Char) : Justified (basic fuel cs) := by
  induction fuel generalizing cs with
  | zero => exact justified_malformed
  | succ fuel ih =>
    unfold basic
    split
    · exact justified_malformed
    · exact justified_ok _
    · exact justified_bind (justified_escape _) fun _ =>
        justified_bind (ih _) fun _ => justified_ok _
    · split
      · exact justified_malformed
      · exact justified_bind (ih _) fun _ => justified_ok _

theorem justified_basicLines (fuel : Nat) (cs : List Char) : Justified (basicLines fuel cs) := by
  induction fuel generalizing cs with
  | zero => exact justified_malformed
  | succ fuel ih =>
    unfold basicLines
    split
    · exact justified_malformed
    · exact justified_ok _
    · split
      · exact ih _
      · exact justified_bind (justified_escape _) fun _ =>
          justified_bind (ih _) fun _ => justified_ok _
    · split
      · exact justified_malformed
      · exact justified_bind (ih _) fun _ => justified_ok _

theorem justified_stringToken (cs : List Char) : Justified (stringToken cs) := by
  unfold stringToken
  split
  · exact justified_bind (justified_basicLines _ _) fun _ => justified_ok _
  · exact justified_bind (justified_literalLines _) fun _ => justified_ok _
  · exact justified_bind (justified_basic _ _) fun _ => justified_ok _
  · exact justified_bind (justified_literal _) fun _ => justified_ok _
  · exact justified_malformed

/-! ### Keys and numbers -/

theorem justified_keyName (cs : List Char) : Justified (keyName cs) := by
  unfold keyName
  split
  · exact justified_bind (justified_basic _ _) fun _ => justified_ok _
  · exact justified_bind (justified_literal _) fun _ => justified_ok _
  · dsimp only
    split
    · exact justified_malformed
    · exact justified_ok _

theorem justified_keyNames (fuel : Nat) (cs : List Char) : Justified (keyNames fuel cs) := by
  induction fuel generalizing cs with
  | zero => exact justified_malformed
  | succ fuel ih =>
    unfold keyNames
    refine justified_bind (justified_keyName _) ?_
    rintro ⟨name, rest⟩
    dsimp only
    split
    · exact justified_bind (ih _) fun _ => justified_ok _
    · exact justified_ok _

theorem justified_keyToken (cs : List Char) : Justified (keyToken cs) := justified_keyNames _ _

/-- Only here are digits counted. -/
theorem justified_decimal? {cs : List Char} {token : Except Fault (Toml × List Char)}
    (found : decimal? cs = some token) : Justified token := by
  unfold decimal? at found
  obtain ⟨⟨whole, rest⟩, -, found⟩ := Option.bind_eq_some_iff.mp found
  dsimp only at found
  split at found
  · split at found
    · rename_i long
      obtain rfl := Option.some.inj found
      rintro count ⟨⟩
      exact long
    · obtain rfl := Option.some.inj found
      exact justified_ok _
  · obtain rfl := Option.some.inj found
    exact justified_ok _

theorem justified_moment? {cs : List Char} {token : Except Fault (Toml × List Char)}
    (found : moment? cs = some token) : Justified token := by
  unfold moment? at found
  split at found
  · split at found
    · obtain rfl := Option.some.inj found
      exact justified_ok _
    · obtain rfl := Option.some.inj found
      exact justified_malformed
  · obtain ⟨_, _, rfl⟩ := Option.map_eq_some_iff.mp found
    exact justified_ok _

theorem justified_numberToken (cs : List Char) : Justified (numberToken cs) := by
  unfold numberToken
  split
  · rename_i found
    exact justified_moment? found
  · split
    · exact justified_ok _
    · split
      · rename_i found
        exact justified_decimal? found
      · split
        · exact justified_ok _
        · exact justified_malformed

/-! ### Values and statements -/

section

variable {fuel : Nat}

theorem justified_value_of (elementLists : ∀ cs, Justified (elements fuel cs))
    (memberLists : ∀ t cs, Justified (members fuel t cs)) (cs : List Char) :
    Justified (value (fuel + 1) cs) := by
  unfold value
  split
  · exact justified_bind (justified_stringToken _) fun _ => justified_ok _
  · exact justified_bind (justified_stringToken _) fun _ => justified_ok _
  · exact justified_ok _
  · exact justified_ok _
  · refine justified_bind (justified_skipLines _ _) fun rest => ?_
    split
    · exact justified_ok _
    · exact justified_bind (elementLists _) fun _ => justified_ok _
  · split
    · exact justified_ok _
    · exact justified_bind (memberLists _ _) fun _ => justified_ok _
  · exact justified_numberToken _

theorem justified_elements_of (values : ∀ cs, Justified (value fuel cs))
    (elementLists : ∀ cs, Justified (elements fuel cs)) (cs : List Char) :
    Justified (elements (fuel + 1) cs) := by
  unfold elements
  refine justified_bind (values _) fun _ => justified_bind (justified_skipLines _ _) fun rest => ?_
  split
  · exact justified_ok _
  · refine justified_bind (justified_skipLines _ _) fun rest => ?_
    split
    · exact justified_ok _
    · exact justified_bind (elementLists _) fun _ => justified_ok _
  · exact justified_malformed

theorem justified_members_of (values : ∀ cs, Justified (value fuel cs))
    (memberLists : ∀ t cs, Justified (members fuel t cs)) (t : Inline) (cs : List Char) :
    Justified (members (fuel + 1) t cs) := by
  unfold members
  refine justified_bind (justified_keyToken _) fun _ => ?_
  dsimp only
  split
  case h_2 => exact justified_malformed
  refine justified_bind (values _) fun _ => ?_
  split
  · exact justified_malformed
  · split
    · exact justified_ok _
    · exact memberLists _ _
    · exact justified_malformed

end

-- Values nest in each other, so the three readers are taken together, by induction on the fuel.
theorem justified_values (fuel : Nat) :
    (∀ cs, Justified (value fuel cs)) ∧ (∀ cs, Justified (elements fuel cs)) ∧
      ∀ t cs, Justified (members fuel t cs) := by
  induction fuel with
  | zero => exact ⟨fun _ => justified_malformed, fun _ => justified_malformed,
      fun _ _ => justified_malformed⟩
  | succ fuel ih =>
    obtain ⟨values, elementLists, memberLists⟩ := ih
    exact ⟨justified_value_of elementLists memberLists, justified_elements_of values elementLists,
      justified_members_of values memberLists⟩

theorem justified_accept (d : Option Draft) (rest : List Char) : Justified (accept d rest) := by
  unfold accept
  split
  · exact justified_ok _
  · exact justified_malformed

theorem justified_statement (fuel : Nat) (d : Draft) (cs : List Char) :
    Justified (statement fuel d cs) := by
  unfold statement
  split
  · refine justified_bind (justified_keyToken _) fun _ => ?_
    dsimp only
    split
    · exact justified_accept _ _
    · exact justified_malformed
  · refine justified_bind (justified_keyToken _) fun _ => ?_
    dsimp only
    split
    · exact justified_accept _ _
    · exact justified_malformed
  · split
    · refine justified_bind (justified_keyToken _) fun _ => ?_
      dsimp only
      split
      · exact justified_bind ((justified_values fuel).1 _) fun _ => justified_accept _ _
      · exact justified_malformed
    · exact justified_ok _
  · exact justified_ok _

theorem justified_statements (lines fuel : Nat) (d : Draft) (cs : List Char) :
    Justified (statements lines fuel d cs) := by
  induction lines generalizing d cs with
  | zero => exact justified_malformed
  | succ lines ih =>
    unfold statements
    refine justified_bind (justified_statement _ _ _) fun _ => ?_
    refine justified_bind (justified_skipComment _) fun rest => ?_
    split
    · exact justified_ok _
    · exact ih _ _
    · exact justified_malformed

theorem justified_readChars (cs : List Char) : Justified (readChars cs) :=
  justified_bind (justified_statements _ _ _ _) fun _ => justified_ok _

end FeatureSpec.Toml
