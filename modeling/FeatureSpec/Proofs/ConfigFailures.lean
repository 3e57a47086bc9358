import FeatureSpec.Proofs.EncodedSegments
import FeatureSpec.Proofs.OversizedIntegers
import FeatureSpec.Proofs.WrongSettings
/-!
What other failures a configuration file leads to than faults of the configuration: one for octets
that are no text, and three for integers that are too large to be read, taken for a double, or told.
-/
namespace FeatureSpec.Config

/-- A failure that is no fault of the configuration, and what it is about the content of a file
that leads to it. -/
inductive Escapes (os : Octets) : Failure → Prop
  | undecodable (broken : os.utf8? = none) : Escapes os .undecodable
  | unread {text : String} {count : Nat} (decoded : os.utf8? = some text)
      (parsed : Toml.readChars (Text.normalizeLines text.toList) = .error (.tooManyDigits count))
      (long : Number.integerDigitLimit < count) : Escapes os (.value (.tooManyDigits count))
  | overflow {text : String} {data : Entries Toml} (decoded : os.utf8? = some text)
      (parsed : Toml.readChars (Text.normalizeLines text.toList) = .ok data)
      (first : fileFailure? data = some .overflow) (wide : WideTimeout data) : Escapes os .overflow
  | untold {text : String} {data : Entries Toml} {name key : String} {v : Toml} {n : Int}
      (decoded : os.utf8? = some text)
      (parsed : Toml.readChars (Text.normalizeLines text.toList) = .ok data)
      (first : fileFailure? data = some (.value .tooManyDigitsToShow))
      (present : filed? data name key = some v) (member : n ∈ v.integers) (long : Unwritable n) :
      Escapes os (.value .tooManyDigitsToShow)

variable {t : FileTree} {env : Entries String} {path : Option Path} {os : Octets}

theorem config_of_environmentFailure? {f : Failure} (came : environmentFailure? env = some f) :
    ∃ fault, f = .config fault none := by
  rw [environmentFailure?, Option.or_eq_some_iff] at came
  rcases came with came | ⟨-, came⟩
  · obtain ⟨text, -, refused⟩ := Option.bind_eq_some_iff.mp came
    exact ⟨_, (timeoutFault?_eq_some_iff.mp refused).2⟩
  · obtain ⟨name, -, refused⟩ := Option.bind_eq_some_iff.mp came
    exact ⟨_, (levelFault?_eq_some_iff.mp refused).2⟩

theorem load_of_undecodable (opened : t.read (fileOf t path) = .ok os) (broken : os.utf8? = none) :
    (load t env path).outcome = .error .undecodable := by
  rw [load_of_read opened, ofOctets, broken]
  rfl

section

variable {text : String} (opened : t.read (fileOf t path) = .ok os)
  (decoded : os.utf8? = some text)

include opened decoded

theorem load_of_malformed
    (parsed : Toml.readChars (Text.normalizeLines text.toList) = .error .malformed) :
    (load t env path).outcome = .error (.config (.malformed (fileOf t path).text) none) := by
  rw [load_of_read opened, ofOctets, decoded]
  dsimp only
  rw [ofText, parsed]
  rfl

theorem load_of_unread {count : Nat}
    (parsed : Toml.readChars (Text.normalizeLines text.toList) = .error (.tooManyDigits count)) :
    (load t env path).outcome = .error (.value (.tooManyDigits count)) := by
  rw [load_of_read opened, ofOctets, decoded]
  dsimp only
  rw [ofText, parsed]
  rfl

/-- What is wrong in the file is reported whatever the environment says. -/
theorem load_of_fileFailure {data : Entries Toml} {f : Failure}
    (parsed : Toml.readChars (Text.normalizeLines text.toList) = .ok data)
    (first : fileFailure? data = some f) : (load t env path).outcome = .error f := by
  rw [load_eq (.held opened decoded parsed), first, Option.some_or, settle]

/-- Only the settings of the file lead to a failure that is no fault of the configuration, and only
by an integer that is too large. -/
theorem escapes_of_data {data : Entries Toml} {f : Failure}
    (parsed : Toml.readChars (Text.normalizeLines text.toList) = .ok data)
    (failed : (load t env path).outcome = .error f) (other : ∀ fault place, f ≠ .config fault place) :
    Escapes os f := by
  rw [load_eq (.held opened decoded parsed)] at failed
  have came := settle_eq_error.mp failed
  rcases Option.or_eq_some_iff.mp came with first | ⟨-, given⟩
  · rcases wrong_of_failure came with wrong | ⟨rfl, wide⟩
    · rcases wrong_cases wrong with ⟨fault, rfl⟩ | ⟨rfl, name, key, v, present, n, member, long⟩
      · exact absurd rfl (other _ _)
      · exact .untold decoded parsed first present member long
    · exact .overflow decoded parsed first wide
  · obtain ⟨fault, rfl⟩ := config_of_environmentFailure? given
    exact absurd rfl (other _ _)

end

/-- Whatever a file holds, a configuration is loaded or a fault of the configuration is reported,
except in the four cases. -/
theorem failures_of_content (opened : t.read (fileOf t path) = .ok os) (f : Failure) :
    ((load t env path).outcome = .error f ∧ ∀ fault place, f ≠ .config fault place) ↔
      Escapes os f := by
  constructor
  · rintro ⟨failed, other⟩
    cases decoded : os.utf8? with
    | none =>
      rw [load_of_undecodable opened decoded] at failed
      obtain rfl := Except.error.inj failed
      exact .undecodable decoded
    | some text =>
      cases parsed : Toml.readChars (Text.normalizeLines text.toList) with
      | error fault =>
        cases fault with
        | malformed =>
          rw [load_of_malformed opened decoded parsed] at failed
          obtain rfl := Except.error.inj failed
          exact absurd rfl (other _ _)
        | tooManyDigits count =>
          rw [load_of_unread opened decoded parsed] at failed
          obtain rfl := Except.error.inj failed
          exact .unread decoded parsed (Toml.justified_readChars _ count parsed)
      | ok data => exact escapes_of_data opened decoded parsed failed other
  · intro escapes
    cases escapes with
    | undecodable broken => exact ⟨load_of_undecodable opened broken, nofun⟩
    | unread decoded parsed => exact ⟨load_of_unread opened decoded parsed, nofun⟩
    | overflow decoded parsed first => exact ⟨load_of_fileFailure opened decoded parsed first, nofun⟩
    | untold decoded parsed first => exact ⟨load_of_fileFailure opened decoded parsed first, nofun⟩

/-- A document whose timeout is the least power of two beyond the doubles. -/
def wideChars : List Char :=
  "[api]\ntimeout = 0x1".toList ++ List.replicate 256 '0' ++ ['\n']

def wideTree : FileTree := { files := [([fileName], Octets.ofString (String.ofList wideChars))] }

/-- The timeout of the file is looked at even where the environment has another one. -/
theorem wide_timeout_overflows :
    (load wideTree [("XFEATURE_API_TIMEOUT", "1")] none).outcome = .error .overflow := by
  have opened : wideTree.read (fileOf wideTree none) =
      .ok (Octets.ofString (String.ofList wideChars)) := rfl
  have checked : (Toml.readChars (Text.normalizeLines wideChars)).map fileFailure? =
      .ok (some .overflow) := by decide +kernel
  -- The kernel reads the document only once; what it is read as is not spelled out.
  cases parsed : Toml.readChars (Text.normalizeLines wideChars) with
  | error fault =>
    rw [parsed] at checked
    cases checked
  | ok data =>
    rw [parsed] at checked
    have first : fileFailure? data = some .overflow := Except.ok.inj checked
    have wide : WideTimeout data := by
      have came : (fileFailure? data).or (environmentFailure? []) = some .overflow := by
        rw [first, Option.some_or]
      rcases wrong_of_failure came with wrong | ⟨-, wide⟩
      · rcases wrong_cases wrong with ⟨fault, same⟩ | ⟨same, -⟩ <;> cases same
      · exact wide
    have spelled : (String.ofList wideChars).toList = wideChars := String.toList_ofList
    rw [← spelled] at parsed
    exact ((failures_of_content opened .overflow).mpr
      (.overflow (Octets.utf8?_ofString _) parsed first wide)).1

/-- One octet that no text has is enough. -/
theorem undecodable_file_escapes :
    ∃ f, (load { files := [([fileName], [0xFF])] } [] none).outcome = .error f ∧
      ∀ fault place, f ≠ .config fault place :=
  ⟨.undecodable, rfl, nofun⟩

end FeatureSpec.Config
