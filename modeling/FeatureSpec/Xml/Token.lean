import FeatureSpec.Xml.Reference
/-!
Tokens of content: text, references and tags. Comments and processing instructions leave none.
-/
namespace FeatureSpec.Xml

inductive Token where
  | text (cs : List Char)
  | data (cs : List Char)
  | entity (name : String)
  | start (name : String) (attrs : List (String × List Piece)) (closed : Bool)
  | stop (name : String)
  deriving DecidableEq, Repr

namespace Token

variable (a : Alphabet)

/-- What follows a comment, its opening already read. Two hyphens end it. -/
def afterComment? (cs : List Char) : Option (List Char) :=
  match splitAt? ['-', '-'] cs with
  | some (_, '>' :: rest) => some rest
  | _ => none

/-- What follows a processing instruction, its opening already read. Its target is not the
word that opens a declaration, in no case. -/
def afterInstruction? (cs : List Char) : Option (List Char) := do
  let (target, rest) ← name? a cs
  if target.map Char.toLower = ['x', 'm', 'l'] then none
  else
    match after? ['?', '>'] rest with
    | some rest => some rest
    | none =>
      if rest.head?.any isSpace then (splitAt? ['?', '>'] rest).map Prod.snd else none

def quoted? : List Char → Option (List Char × List Char)
  | [] => none
  | quote :: rest =>
    if quote == '"' || quote == '\'' then
      let (value, rest) := rest.span (· != quote)
      match rest with
      | _ :: rest => some (value, rest)
      | [] => none
    else none

def attributes? : Nat → List Char → Option (List (String × List Piece) × Bool × List Char)
  | 0, _ => none
  | fuel + 1, cs =>
    match skipSpace cs with
    | '>' :: rest => some ([], false, rest)
    | '/' :: '>' :: rest => some ([], true, rest)
    | rest =>
      if cs.head?.any isSpace then do
        let (name, rest) ← qualifiedName? a rest
        match skipSpace rest with
        | '=' :: rest => do
          let (value, rest) ← quoted? (skipSpace rest)
          let pieces ← Piece.scan? a value
          let (more, closed, rest) ← attributes? fuel rest
          return ((String.ofList name, pieces) :: more, closed, rest)
        | _ => none
      else none

def startTag? (cs : List Char) : Option (Token × List Char) := do
  let (name, rest) ← qualifiedName? a cs
  let (attrs, closed, rest) ← attributes? a (rest.length + 1) rest
  return (.start (String.ofList name) attrs closed, rest)

def endTag? (cs : List Char) : Option (Token × List Char) :=
  match cs with
  | c :: _ =>
    if a.isNameStart c then
      let (name, rest) := cs.span fun c => a.isNameChar c || c == ':'
      match skipSpace rest with
      | '>' :: rest => some (.stop (String.ofList name), rest)
      | _ => none
    else none
  | [] => none

/-- Text up to the next tag or reference; it does not hold what ends a literal section. -/
def text? (cs : List Char) : Option (Token × List Char) :=
  let (body, rest) := cs.span fun c => c != '<' && c != '&'
  if (splitAt? [']', ']', '>'] body).isSome then none else some (.text body, rest)

def next? : List Char → Option (Option Token × List Char)
  | '<' :: '!' :: '-' :: '-' :: rest => (afterComment? rest).map fun rest => (none, rest)
  | '<' :: '!' :: rest => do
    let rest ← after? ['[', 'C', 'D', 'A', 'T', 'A', '['] rest
    let (body, rest) ← splitAt? [']', ']', '>'] rest
    return (some (.data body), rest)
  | '<' :: '?' :: rest => (afterInstruction? a rest).map fun rest => (none, rest)
  | '<' :: '/' :: rest => (endTag? a rest).map fun (t, rest) => (some t, rest)
  | '<' :: rest => (startTag? a rest).map fun (t, rest) => (some t, rest)
  | '&' :: rest => do
    let (r, rest) ← Reference.scan? a rest
    match r with
    | .code c => return (some (.data [c]), rest)
    | .entity name =>
      match Reference.predefined? name with
      | some c => return (some (.data [c]), rest)
      | none => return (some (.entity name), rest)
  | cs => (text? cs).map fun (t, rest) => (some t, rest)

def scanWith : Nat → List Char → Option (List Token)
  | _, [] => some []
  | 0, _ :: _ => none
  | fuel + 1, cs => do
    let (t, rest) ← next? a cs
    let more ← scanWith fuel rest
    return t.toList ++ more

def scan? (cs : List Char) : Option (List Token) := scanWith a cs.length cs

end Token
end FeatureSpec.Xml
