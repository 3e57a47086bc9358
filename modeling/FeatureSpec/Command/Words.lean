import FeatureSpec.Entries
/-!
The words of a command line. A word that starts with a hyphen gives options: two hyphens and a
name, with a value after an equals sign or in the next word; or one hyphen and letters, of which
the last may take the rest of the word or the next word as its value. Two hyphens alone end the
options.
-/
namespace FeatureSpec.Command

inductive Spelling (σ : Type) where
  | plain (setting : σ)
  | valued (make : String → σ)

abbrev Spellings (σ : Type) := Entries (Spelling σ)

inductive Piece (σ : Type) where
  | word
  | settings (given : List σ)
  | awaiting (given : List σ) (make : String → σ)
  | unknown

variable {σ : Type}

def cluster (known : Spellings σ) : List Char → Piece σ
  | [] => .settings []
  | c :: rest =>
    match known.get? (String.ofList ['-', c]) with
    | none => .unknown
    | some (.plain setting) =>
      match cluster known rest with
      | .settings given => .settings (setting :: given)
      | .awaiting given make => .awaiting (setting :: given) make
      | other => other
    | some (.valued make) =>
      if rest.isEmpty then .awaiting [] make else .settings [make (String.ofList rest)]

def longOption (known : Spellings σ) (word : List Char) : Piece σ :=
  let (name, value) := word.span (· != '=')
  match known.get? (String.ofList name), value with
  | some (.plain setting), [] => .settings [setting]
  | some (.valued make), [] => .awaiting [] make
  | some (.valued make), _ :: value => .settings [make (String.ofList value)]
  | _, _ => .unknown

/-- What a word gives. A hyphen alone is a word like others. -/
def pieceOf (known : Spellings σ) (word : String) : Piece σ :=
  match word.toList with
  | '-' :: '-' :: rest => longOption known ('-' :: '-' :: rest)
  | '-' :: c :: rest => cluster known (c :: rest)
  | _ => .word

/-- The settings and the other words of a command line, none if it has an option that is unknown,
lacks its value or has one too many. Unless options may be mixed with other words, the first
other word ends them. -/
def scan (known : Spellings σ) (mixed : Bool) : List String → Option (List σ × List String)
  | [] => some ([], [])
  | word :: rest =>
    if word = "--" then some ([], rest)
    else
      match pieceOf known word with
      | .unknown => none
      | .word =>
        if mixed then (scan known mixed rest).map fun (given, words) => (given, word :: words)
        else some ([], word :: rest)
      | .settings given =>
        (scan known mixed rest).map fun (more, words) => (given ++ more, words)
      | .awaiting given make =>
        match rest with
        | [] => none
        | value :: rest =>
          (scan known mixed rest).map fun (more, words) => (given ++ make value :: more, words)

end FeatureSpec.Command
