import FeatureSpec.Proofs.Settings
/-!
What is wrong with a configuration. The failure that the loader comes to is one of something wrong
in the file or in the environment, unless a number is too large; and whatever is wrong, it comes to
a failure.
-/
namespace FeatureSpec

namespace Toml

theorem integers_of_get? {data : Entries Toml} {name : String} {v : Toml}
    (present : data.get? name = some v) : ∀ n ∈ v.integers, n ∈ integersOfEntries data := by
  induction data with
  | nil => exact nomatch present
  | cons e rest ih =>
    obtain ⟨key, w⟩ := e
    intro n member
    rw [Entries.get?] at present
    rw [integersOfEntries]
    split at present
    · obtain rfl := Option.some.inj present
      exact List.mem_append_left _ member
    · exact List.mem_append_right _ (ih present n member)

end Toml

namespace Config

variable {data : Entries Toml} {env : Entries String} {f : Failure} {v : Toml}

/-! ### Why a value is refused -/

abbrev Unwritable (n : Int) : Prop := Nat.pow 10 Number.integerDigitLimit ≤ n.natAbs

/-- A value of the wrong type is told in the message, unless it cannot be written. -/
theorem wrongType_cases (key : String) (v : Toml) :
    (∃ fault, wrongType key v = .config fault none) ∨
      wrongType key v = .value .tooManyDigitsToShow ∧ ∃ n ∈ v.integers, Unwritable n := by
  unfold wrongType
  dsimp only
  split
  · rename_i long
    obtain ⟨n, member, wide⟩ := List.any_eq_true.mp long
    exact .inr ⟨rfl, n, member, of_decide_eq_true wide⟩
  · exact .inl ⟨_, rfl⟩

theorem tableFault?_eq_some_iff {name : String} :
    tableFault? data name = some f ↔
      (∃ v, data.get? name = some v ∧ ∀ entries, v ≠ .table entries) ∧
        f = .config (.notTable name) none := by
  unfold tableFault?
  rcases data.get? name with _ | v
  · simp
  · cases v <;> simp [eq_comm]

theorem textFault?_eq_some_iff {key : String} :
    textFault? key v = some f ↔ (∀ s, v ≠ .string s) ∧ f = wrongType key v := by
  cases v <;> simp [textFault?, eq_comm]

theorem flagFault?_eq_some_iff {key : String} :
    flagFault? key v = some f ↔ (∀ b, v ≠ .bool b) ∧ f = wrongType key v := by
  cases v <;> simp [flagFault?, eq_comm]

theorem numberFault?_eq_some_iff {key : String} :
    numberFault? key v = some f ↔
      (∃ n, v = .int n ∧ Binary64.wholeLimit ≤ n.natAbs ∧ f = .overflow) ∨
        (∀ n, v ≠ .int n) ∧ (∀ x, v ≠ .float x) ∧ f = wrongType key v := by
  cases v <;> simp [numberFault?, eq_comm]

theorem levelFault?_eq_some_iff {name : String} :
    levelFault? name = some f ↔
      Text.upper name ∉ ConfigFault.levelNames ∧ f = .config (.unknownLevel name) none := by
  rw [← level?_eq_none_iff]
  unfold levelFault?
  cases level? name <;> simp [eq_comm]

theorem timeoutFault?_eq_some_iff {text : String} :
    timeoutFault? text = some f ↔
      Number.looseFloat? text = none ∧ f = .config (.timeoutText text) none := by
  unfold timeoutFault?
  cases Number.looseFloat? text <;> simp [eq_comm]

def textKeys : List (String × String) :=
  [("api", "base_url"), ("specs", "directory"), ("logging", "level"), ("logging", "directory")]

/-- Something is wrong in the file or in the environment, and this is how it is reported. -/
inductive Wrong (data : Entries Toml) (env : Entries String) : Failure → Prop
  | notTable {name : String} {v : Toml} (known : name ∈ sections)
      (present : data.get? name = some v) (other : ∀ entries, v ≠ .table entries) :
      Wrong data env (.config (.notTable name) none)
  | notText {name key : String} {v : Toml} (known : (name, key) ∈ textKeys)
      (present : filed? data name key = some v) (other : ∀ s, v ≠ .string s) :
      Wrong data env (wrongType key v)
  | notNumber {v : Toml} (present : filed? data "api" "timeout" = some v)
      (noInteger : ∀ n, v ≠ .int n) (noFloat : ∀ x, v ≠ .float x) :
      Wrong data env (wrongType "timeout" v)
  | notFlag {v : Toml} (present : filed? data "specs" "strict" = some v)
      (other : ∀ b, v ≠ .bool b) : Wrong data env (wrongType "strict" v)
  | noLevel {name : String} (present : filed? data "logging" "level" = some (.string name))
      (unknown : Text.upper name ∉ ConfigFault.levelNames) :
      Wrong data env (.config (.unknownLevel name) none)
  | givenNoTimeout {text : String} (present : setting? env "XFEATURE_API_TIMEOUT" = some text)
      (unreadable : Number.looseFloat? text = none) :
      Wrong data env (.config (.timeoutText text) none)
  | givenNoLevel {name : String} (present : setting? env "XFEATURE_LOG_LEVEL" = some name)
      (unknown : Text.upper name ∉ ConfigFault.levelNames) :
      Wrong data env (.config (.unknownLevel name) none)

/-- A timeout that is an integer beyond the doubles. -/
def WideTimeout (data : Entries Toml) : Prop :=
  ∃ n, filed? data "api" "timeout" = some (.int n) ∧ Binary64.wholeLimit ≤ n.natAbs

theorem wrong_of_setting {s : Setting} (known : s ∈ settings)
    (present : filed? data s.name s.key = some v) (refused : s.fault? v = some f) :
    Wrong data env f ∨ f = .overflow ∧ WideTimeout data := by
  have textual {name key : String} (known : (name, key) ∈ textKeys)
      (present : filed? data name key = some v) (refused : textFault? key v = some f) :
      Wrong data env f ∨ f = .overflow ∧ WideTimeout data := by
    obtain ⟨other, rfl⟩ := textFault?_eq_some_iff.mp refused
    exact .inl (.notText known present other)
  simp only [settings, List.mem_cons, List.not_mem_nil, or_false] at known
  rcases known with rfl | rfl | rfl | rfl | rfl | rfl | rfl
  · exact textual (by decide) present refused
  · exact textual (by decide) present refused
  · rcases numberFault?_eq_some_iff.mp refused with ⟨n, rfl, wide, rfl⟩ | ⟨noInteger, noFloat, rfl⟩
    · exact .inr ⟨rfl, n, present, wide⟩
    · exact .inl (.notNumber present noInteger noFloat)
  · exact textual (by decide) present refused
  · obtain ⟨other, rfl⟩ := flagFault?_eq_some_iff.mp refused
    exact .inl (.notFlag present other)
  · exact textual (by decide) present refused
  · obtain ⟨name, textual, refused⟩ := Option.bind_eq_some_iff.mp refused
    cases v with
    | string s =>
      obtain rfl := Option.some.inj textual
      obtain ⟨unknown, rfl⟩ := levelFault?_eq_some_iff.mp refused
      exact .inl (.noLevel present unknown)
    | _ => cases textual

/-- What the loader reports is wrong, or a timeout beyond the doubles. -/
theorem wrong_of_failure
    (came : (fileFailure? data).or (environmentFailure? env) = some f) :
    Wrong data env f ∨ f = .overflow ∧ WideTimeout data := by
  rw [fileFailure?, environmentFailure?] at came
  simp only [Option.or_eq_some_iff] at came
  rcases came with (came | ⟨-, came⟩) | ⟨-, came | ⟨-, came⟩⟩
  · obtain ⟨name, known, refused⟩ := List.exists_of_findSome?_eq_some came
    obtain ⟨⟨v, present, other⟩, rfl⟩ := tableFault?_eq_some_iff.mp refused
    exact .inl (.notTable known present other)
  · obtain ⟨s, known, refused⟩ := List.exists_of_findSome?_eq_some came
    obtain ⟨v, present, refused⟩ := Option.bind_eq_some_iff.mp refused
    exact wrong_of_setting known present refused
  · obtain ⟨text, present, refused⟩ := Option.bind_eq_some_iff.mp came
    obtain ⟨unreadable, rfl⟩ := timeoutFault?_eq_some_iff.mp refused
    exact .inl (.givenNoTimeout present unreadable)
  · obtain ⟨name, present, refused⟩ := Option.bind_eq_some_iff.mp came
    obtain ⟨unknown, rfl⟩ := levelFault?_eq_some_iff.mp refused
    exact .inl (.givenNoLevel present unknown)

theorem textSetting_known {name key : String} (known : (name, key) ∈ textKeys) :
    ⟨name, key, textFault? key⟩ ∈ settings := by
  simp only [textKeys, List.mem_cons, Prod.mk.injEq, List.not_mem_nil, or_false] at known
  rcases known with ⟨rfl, rfl⟩ | ⟨rfl, rfl⟩ | ⟨rfl, rfl⟩ | ⟨rfl, rfl⟩ <;> simp [settings]

theorem timeout_known : ⟨"api", "timeout", numberFault? "timeout"⟩ ∈ settings := by
  simp [settings]

theorem strict_known : ⟨"specs", "strict", flagFault? "strict"⟩ ∈ settings := by
  simp [settings]

/-- Whatever is wrong, something is reported. -/
theorem failure_of_wrong (wrong : Wrong data env f) :
    (fileFailure? data).or (environmentFailure? env) ≠ none := by
  rw [fileFailure?, environmentFailure?]
  simp only [ne_eq, Option.or_eq_none_iff, List.findSome?_eq_none_iff]
  -- Suppose that every check has passed; the one that is wrong would have been passed too.
  rintro ⟨⟨tables, values⟩, timeout, level⟩
  have value {s : Setting} {v : Toml} {f : Failure} (known : s ∈ settings)
      (present : filed? data s.name s.key = some v) (refused : s.fault? v = some f) : False := by
    have accepted := values s known
    rw [Setting.failure?, present, Option.bind_some, refused] at accepted
    cases accepted
  cases wrong with
  | notTable known present other =>
    have refused := tableFault?_eq_some_iff.mpr ⟨⟨_, present, other⟩, rfl⟩
    rw [tables _ known] at refused
    cases refused
  | notText known present other =>
    exact value (textSetting_known known) present (textFault?_eq_some_iff.mpr ⟨other, rfl⟩)
  | notNumber present noInteger noFloat =>
    exact value timeout_known present (numberFault?_eq_some_iff.mpr (.inr ⟨noInteger, noFloat, rfl⟩))
  | notFlag present other =>
    exact value strict_known present (flagFault?_eq_some_iff.mpr ⟨other, rfl⟩)
  | noLevel present unknown =>
    have known : ⟨"logging", "level", fun v => (text? v).bind levelFault?⟩ ∈ settings := by
      simp [settings]
    exact value known present (levelFault?_eq_some_iff.mpr ⟨unknown, rfl⟩)
  | givenNoTimeout present unreadable =>
    have refused := timeoutFault?_eq_some_iff.mpr ⟨unreadable, rfl⟩
    rw [present, Option.bind_some, refused] at timeout
    cases timeout
  | givenNoLevel present unknown =>
    have refused := levelFault?_eq_some_iff.mpr ⟨unknown, rfl⟩
    rw [present, Option.bind_some, refused] at level
    cases level

theorem wrong_cases (wrong : Wrong data env f) :
    (∃ fault, f = .config fault none) ∨
      f = .value .tooManyDigitsToShow ∧
        ∃ name key v, filed? data name key = some v ∧ ∃ n ∈ v.integers, Unwritable n := by
  cases wrong with
  | notTable | noLevel | givenNoTimeout | givenNoLevel => exact .inl ⟨_, rfl⟩
  | notText _ present | notNumber present | notFlag present =>
    rcases wrongType_cases _ _ with told | ⟨untold, long⟩
    · exact .inl told
    · exact .inr ⟨untold, _, _, _, present, long⟩

/-! ### Numbers in range -/

theorem integers_of_filed? {name key : String} (present : filed? data name key = some v) :
    ∀ n ∈ v.integers, n ∈ Toml.integersOfEntries data := by
  intro n member
  rw [filed?, entriesOf] at present
  split at present
  · rename_i entries held
    exact Toml.integers_of_get? held n (Toml.integers_of_get? present n member)
  · cases present

theorem not_unwritable {n : Int} (ranged : n.natAbs < Binary64.wholeLimit) : ¬Unwritable n := by
  have doubles (digits : Nat) (enough : 1024 ≤ digits) :
      Binary64.wholeLimit ≤ Nat.pow 10 digits :=
    calc Binary64.wholeLimit ≤ 2 ^ 54 * 2 ^ 970 := Nat.mul_le_mul_right _ (Nat.sub_le _ _)
      _ ≤ 2 ^ digits := Binary64.parts_le_pow enough
      _ ≤ 10 ^ digits := Nat.pow_le_pow_left (by decide) _
  have written : n.natAbs < Nat.pow 10 Number.integerDigitLimit :=
    Nat.lt_of_lt_of_le ranged (doubles _ (by decide))
  exact Nat.not_le.mpr written

end Config
end FeatureSpec
