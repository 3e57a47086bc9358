import FeatureSpec.Proofs.EncodedSegments
import FeatureSpec.Proofs.JsonReading
import FeatureSpec.Proofs.SessionCourse
/-!
What comes of the file of a bundle: a bundle, the report that it is invalid, or one of three other
failures, which nothing handles: for a path that no system takes, for octets that are no text, and
for an integer with more digits than are read.
-/
namespace FeatureSpec.Bundle

/-- What a file holds that is a bundle. -/
structure Held (t : FileTree) (path : Path) (os : Octets) (text : String) (v : Json) (b : Bundle) :
    Prop where
  opened : t.read path = .ok os
  decoded : os.utf8? = some text
  parsed : Json.read text = .ok v
  shaped : codec.decode v = .ok b

/-- What is the matter with a file that is reported as an invalid bundle. -/
inductive Invalid (t : FileTree) (path : Path) : Prop
  | unread {fault : FileFault} (closed : t.read path = .error (.file fault))
  | malformed {os : Octets} {text : String} (opened : t.read path = .ok os)
      (decoded : os.utf8? = some text) (parsed : Json.read text = .error .malformed)
  | misshapen {os : Octets} {text : String} {v : Json} {faults : List Payload.Fault}
      (opened : t.read path = .ok os) (decoded : os.utf8? = some text)
      (parsed : Json.read text = .ok v) (refused : codec.decode v = .error faults)

/-- A failure that is not reported so, and what it is about a path or a file that leads to it. -/
inductive Escapes (t : FileTree) (path : Path) : Failure → Prop
  | nul (nul : path.hasNul = true) : Escapes t path (.value .nulInPath)
  | undecodable {os : Octets} (opened : t.read path = .ok os) (broken : os.utf8? = none) :
      Escapes t path .undecodable
  | overlong {os : Octets} {text : String} {count : Nat} (opened : t.read path = .ok os)
      (decoded : os.utf8? = some text) (parsed : Json.read text = .error (.tooManyDigits count))
      (long : Json.HasLongRun text.toList count) : Escapes t path (.value (.tooManyDigits count))

variable {t : FileTree} {path : Path} {f : Failure} {b : Bundle}

theorem Escapes.not_handled (escapes : Escapes t path f) :
    f.isOwn = false ∧ f.isLookup = false := by
  cases escapes <;> exact ⟨rfl, rfl⟩

/-! ### The layers of reading -/

section

variable {os : Octets} {text : String}

theorem ofFile_of_read (opened : t.read path = .ok os) (decoded : os.utf8? = some text) :
    ofFile t path = ofText path text := by
  rw [ofFile, opened]
  dsimp only
  rw [decoded]

theorem ofFile_of_broken (opened : t.read path = .ok os) (broken : os.utf8? = none) :
    ofFile t path = .error .undecodable := by
  rw [ofFile, opened]
  dsimp only
  rw [broken]

theorem ofFile_of_fault {fault : FileFault} (closed : t.read path = .error (.file fault)) :
    ofFile t path = .error (invalid path) := by
  rw [ofFile, closed]

theorem read_of_nul (nul : path.hasNul = true) : t.read path = .error (.value .nulInPath) :=
  if_pos nul

theorem ofFile_of_nul (nul : path.hasNul = true) :
    ofFile t path = .error (.value .nulInPath) := by
  rw [ofFile, read_of_nul nul]

theorem read_eq_error (closed : t.read path = .error f) :
    (path.hasNul = true ∧ f = .value .nulInPath) ∨ ∃ fault, f = .file fault := by
  unfold FileTree.read at closed
  split at closed
  · rename_i nul
    exact .inl ⟨nul, (Except.error.inj closed).symm⟩
  · split at closed <;> cases closed
    all_goals exact .inr ⟨_, rfl⟩

end

theorem ofFile_of_held {os : Octets} {text : String} {v : Json} (held : Held t path os text v b) :
    ofFile t path = .ok b := by
  rw [ofFile_of_read held.opened held.decoded, ofText, held.parsed]
  dsimp only
  rw [held.shaped]
  rfl

theorem ofFile_of_invalid (wrong : Invalid t path) : ofFile t path = .error (invalid path) := by
  cases wrong with
  | unread closed => exact ofFile_of_fault closed
  | malformed opened decoded parsed => rw [ofFile_of_read opened decoded, ofText, parsed]
  | misshapen opened decoded parsed refused =>
    rw [ofFile_of_read opened decoded, ofText, parsed]
    dsimp only
    rw [refused]
    rfl

theorem ofFile_of_escapes (escapes : Escapes t path f) : ofFile t path = .error f := by
  cases escapes with
  | nul nul => exact ofFile_of_nul nul
  | undecodable opened broken => exact ofFile_of_broken opened broken
  | overlong opened decoded parsed => rw [ofFile_of_read opened decoded, ofText, parsed]

/-- There is nothing else to a file. -/
theorem file_cases (t : FileTree) (path : Path) :
    (∃ os text v b, Held t path os text v b) ∨ Invalid t path ∨ ∃ f, Escapes t path f := by
  rcases opened : t.read path with f | os
  · rcases read_eq_error opened with ⟨nul, -⟩ | ⟨fault, rfl⟩
    · exact .inr (.inr ⟨_, .nul nul⟩)
    · exact .inr (.inl (.unread opened))
  rcases decoded : os.utf8? with _ | text
  · exact .inr (.inr ⟨_, .undecodable opened decoded⟩)
  rcases parsed : Json.read text with (_ | count) | v
  · exact .inr (.inl (.malformed opened decoded parsed))
  · have long := (Json.sound_readChars text.toList).2 count parsed
    exact .inr (.inr ⟨_, .overlong opened decoded parsed long⟩)
  rcases shaped : codec.decode v with faults | b
  · exact .inr (.inl (.misshapen opened decoded parsed shaped))
  · exact .inl ⟨os, text, v, b, opened, decoded, parsed, shaped⟩

theorem ofFile_eq_ok_iff : ofFile t path = .ok b ↔ ∃ os text v, Held t path os text v b := by
  refine ⟨fun returned => ?_, fun ⟨os, text, v, held⟩ => ofFile_of_held held⟩
  rcases file_cases t path with ⟨os, text, v, b', held⟩ | wrong | ⟨f, escapes⟩
  · rw [ofFile_of_held held] at returned
    exact ⟨os, text, v, Except.ok.inj returned ▸ held⟩
  · rw [ofFile_of_invalid wrong] at returned
    cases returned
  · rw [ofFile_of_escapes escapes] at returned
    cases returned

theorem ofFile_of_grown {u : FileTree} (grown : FileTree.Grown t u)
    (returned : ofFile t path = .ok b) : ofFile u path = .ok b := by
  obtain ⟨os, text, v, held⟩ := ofFile_eq_ok_iff.mp returned
  exact ofFile_of_held { held with opened := FileTree.read_of_grown grown held.opened }

theorem ofFile_eq_error_iff :
    ofFile t path = .error f ↔ (f = invalid path ∧ Invalid t path) ∨ Escapes t path f := by
  constructor
  · intro failed
    rcases file_cases t path with ⟨os, text, v, b, held⟩ | wrong | ⟨g, escapes⟩
    · rw [ofFile_of_held held] at failed
      cases failed
    · rw [ofFile_of_invalid wrong] at failed
      exact .inl ⟨(Except.error.inj failed).symm, wrong⟩
    · rw [ofFile_of_escapes escapes] at failed
      exact .inr (Except.error.inj failed ▸ escapes)
  · rintro (⟨rfl, wrong⟩ | escapes)
    · exact ofFile_of_invalid wrong
    · exact ofFile_of_escapes escapes

end FeatureSpec.Bundle

namespace FeatureSpec.Command

open Act

def bundleComplaint (path : Path) : String :=
  "Error: " ++ s!"Invalid mock bundle {path.text}: {particulars}"

/-- A command that comes to read the bundle of its origin. -/
inductive OnBundle (origin : Origin) : Command → Prop
  | load (feature : String) : OnBundle origin (.load feature origin)
  | query (feature id : String) (texts : List String) (parted : ∀ text ∈ texts, ¬Unparted text) :
      OnBundle origin (.query feature id texts origin)

section

variable {s : Surroundings} {t t' : Terminal} {origin : Origin} {path : Path} {c : Command}
  {f : Failure}

/-- Without a bundle there is no session, and nothing else is done. -/
theorem course_of_unbundled (ready : equipped s t origin = .ok t')
    (given : origin.bundle = some path) (on : OnBundle origin c)
    (failed : Bundle.ofFile t'.files path = .error f) (named : f.isLookup = false) :
    (execute c).course s t = stopped Failure.isOwn f t' := by
  have unserved {α : Type} {handled : Failure → Bool} {feature : String} (k : Session → Act α) :
      (sessionOn handled feature origin >>= k).course s t = stopped handled f t' := by
    refine course_bind_stopped ?_
    rw [course_sessionOn ready given, failed]
    exact course_bind_stopped (course_expect_error handled f)
  cases on with
  | load feature => exact unserved _
  | query feature id texts parted =>
    rcases read : texts.mapM paramOf? with _ | params
    · obtain ⟨text, member, wrong⟩ := (params_refused_iff texts).mp read
      exact absurd wrong (parted text member)
    · show (runQuery feature id texts origin).course s t = _
      unfold runQuery
      rw [read]
      dsimp only
      rw [unserved, stopped, stopped]
      simp only [named, Bool.or_false]

end

/-- Whatever a path leads to, a bundle comes of it, the file is reported as invalid, or there is one
of three other failures, each under a condition of its own. Where the files are those that `load` or
`query` comes to read, an invalid file ends the command with a line about it and code one, and each
of the others ends it unhandled. -/
theorem bundle_file_failures (files : FileTree) (path : Path) :
    (∀ b, Bundle.ofFile files path = .ok b ↔
      ∃ os text v, Bundle.Held files path os text v b) ∧
    (∀ f, Bundle.ofFile files path = .error f ↔
      (f = Bundle.invalid path ∧ Bundle.Invalid files path) ∨ Bundle.Escapes files path f) ∧
    ∀ (s : Surroundings) (start : FileTree) (verbose : Bool) (directory : Option Path)
      (t t' : Terminal) (origin : Origin),
      begun verbose directory start = .ok t → equipped s t origin = .ok t' →
      t'.files = files → origin.bundle = some path →
      ∀ args c, Asks args verbose directory c → OnBundle origin c →
        (Bundle.Invalid files path →
          run s start args = { code := 1, terminal := t'.complained (bundleComplaint path) }) ∧
        ∀ f, Bundle.Escapes files path f →
          run s start args = { code := 1, crash := some f, terminal := t' } := by
  refine ⟨fun b => Bundle.ofFile_eq_ok_iff, fun f => Bundle.ofFile_eq_error_iff, ?_⟩
  rintro s start verbose directory t t' origin started ready rfl given args c asks on
  refine ⟨fun wrong => ?_, fun f escapes => ?_⟩
  · have reported : (stopped Failure.isOwn (Bundle.invalid path) t' : Except Stop Unit × Terminal) =
        (.error (.exit 1), t'.complained (bundleComplaint path)) := if_pos rfl
    rw [run_of_asks asks started,
      course_of_unbundled ready given on (Bundle.ofFile_of_invalid wrong) rfl, reported]
    rfl
  · obtain ⟨foreign, named⟩ := escapes.not_handled
    have unreported : (stopped Failure.isOwn f t' : Except Stop Unit × Terminal) =
        (.error (.crash f), t') := if_neg (by simp [foreign])
    rw [run_of_asks asks started,
      course_of_unbundled ready given on (Bundle.ofFile_of_escapes escapes) named, unreported]
    rfl

/-- The file that is not there is told of. -/
theorem missing_bundle_reported :
    let o := run alone {} ["load", "f", "--mock", "b.json"]
    o.code = 1 ∧ o.crash = none ∧
      o.terminal.err = "Error: Invalid mock bundle b.json: <detail>\n" := by
  have started : begun false none {} = .ok { files := {} } := rfl
  have ready : equipped alone { files := {} } { bundle := some (Path.ofString "b.json") } =
      .ok { files := {} } := by
    with_unfolding_all rfl
  have asks : Asks ["load", "f", "--mock", "b.json"] false none
      (.load "f" { bundle := some (Path.ofString "b.json") }) :=
    asks_load (by decide) (by decide)
  have missing : Bundle.Invalid {} (Path.ofString "b.json") := by
    have closed : FileTree.read {} (Path.ofString "b.json") = .error (.file .notFound) := by
      with_unfolding_all rfl
    exact .unread closed
  have text : (Path.ofString "b.json").text = "b.json" := by
    with_unfolding_all rfl
  obtain ⟨-, -, ends⟩ := bundle_file_failures {} (Path.ofString "b.json")
  have ended := ends alone {} false none { files := {} } { files := {} }
    { bundle := some (Path.ofString "b.json") } started ready rfl rfl _ _ asks (.load "f")
  rw [ended.1 missing, bundleComplaint, text]
  exact ⟨rfl, rfl, by decide +kernel⟩

def bundleTree (os : Octets) : FileTree where
  files := [(["b.json"], os)]

theorem read_bundleTree (os : Octets) : (bundleTree os).read { parts := ["b.json"] } = .ok os := by
  with_unfolding_all rfl

theorem equipped_bundleTree (os : Octets) :
    equipped alone { files := bundleTree os } { bundle := some (Path.ofString "b.json") } =
      .ok { files := bundleTree os } := by
  with_unfolding_all rfl

/-- One octet that no text has leads to a failure that nothing handles, and so does an integer with
one digit more than are read. -/
theorem foreign_bundle_failures :
    let digits := List.replicate 4301 '1'
    let o := run alone (bundleTree [0xFF]) ["load", "f", "--mock", "b.json"]
    Bundle.ofFile (bundleTree [0xFF]) { parts := ["b.json"] } = .error .undecodable ∧
      o.crash = some .undecodable ∧ o.terminal.err = "" ∧
    Bundle.ofFile (bundleTree (Octets.ofString (String.ofList digits))) { parts := ["b.json"] } =
      .error (.value (.tooManyDigits 4301)) := by
  intro digits o
  have all : ∀ d ∈ digits, d.isDigit = true := fun d member => by
    rw [List.eq_of_mem_replicate member]
    rfl
  have length : digits.length = 4301 := List.length_replicate
  have long : Number.integerDigitLimit < digits.length := by
    rw [length]
    decide
  have parsed : Json.readChars digits = .error (.tooManyDigits digits.length) :=
    Json.readChars_of_digits (by decide) all long
  refine ⟨?octet, ?crash, ?silent, ?digits⟩
  case digits =>
    rw [Bundle.ofFile_of_read (read_bundleTree _) (Octets.utf8?_ofString _), Bundle.ofText,
      Json.read, String.toList_ofList, parsed, length]
  all_goals with_unfolding_all rfl

end FeatureSpec.Command
