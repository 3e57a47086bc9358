import FeatureSpec.Xml.Token
/-!
Marks: the tokens of what stands before the root element, declarations included. Spaces leave
none.
-/
namespace FeatureSpec.Xml

inductive Mark where
  | opening (keyword : String)
  | closing
  | name (s : String)
  | prefixedName (s : String)
  | loose
  | repeated
  | literal (cs : List Char)
  | keyword (s : String)
  | parameter
  | percent
  | comma
  | bar
  | openParen
  | closeParen
  | closeParenStar
  | closeParenRepeated
  | openBracket
  | closeBracket
  | aside
  deriving DecidableEq, Repr

namespace Mark

variable (a : Alphabet)

def followedBy (cs others : List Char) : Bool :=
  cs.head?.any fun c => isSpace c || others.contains c

/-- A name or something like it. A single colon that is not the last character makes it
prefixed. -/
def word? (cs : List Char) : Option (Mark × List Char) :=
  let (word, rest) := cs.span fun c => a.isNameChar c || c == ':'
  let (front, back) := word.span (· != ':')
  let mark :=
    if !word.head?.any a.isNameStart then loose
    else if back.isEmpty then name (String.ofList word)
    else if back.length = 1 || (back.drop 1).contains ':' then loose
    else prefixedName (String.ofList (front ++ back))
  if followedBy rest ['>', ')', ',', '|', '[', '%'] then some (mark, rest)
  else
    match rest with
    | c :: rest =>
      if (c == '+' || c == '*' || c == '?') && mark != loose then some (repeated, rest) else none
    | [] => none

def declaration? (cs : List Char) : Option (Mark × List Char) :=
  let (word, rest) := cs.span fun c => c.isAlpha || c == '_'
  if word.isEmpty then none
  else
    match rest with
    | '%' :: after =>
      if followedBy after ['%'] then none else some (opening (String.ofList word), rest)
    | _ => if followedBy rest [] then some (opening (String.ofList word), rest) else none

def next? : List Char → Option (Mark × List Char)
  | '<' :: '!' :: '-' :: '-' :: rest => (Token.afterComment? rest).map fun rest => (aside, rest)
  | '<' :: '!' :: rest => declaration? rest
  | '<' :: '?' :: rest => (Token.afterInstruction? a rest).map fun rest => (aside, rest)
  | '<' :: _ => none
  | '>' :: rest => some (closing, rest)
  | ',' :: rest => some (comma, rest)
  | '|' :: rest => some (bar, rest)
  | '[' :: rest => some (openBracket, rest)
  | ']' :: ']' :: '>' :: _ => none
  | ']' :: rest => some (closeBracket, rest)
  | '(' :: rest => some (openParen, rest)
  | ')' :: '*' :: rest => some (closeParenStar, rest)
  | ')' :: '?' :: rest => some (closeParenRepeated, rest)
  | ')' :: '+' :: rest => some (closeParenRepeated, rest)
  | ')' :: rest => if followedBy rest ['>', ',', '|', ')'] then some (closeParen, rest) else none
  | '%' :: rest =>
    if followedBy rest ['%'] then some (percent, rest)
    else
      match name? a rest with
      | some (_, ';' :: rest) => some (parameter, rest)
      | _ => none
  | '#' :: rest => do
    let (word, rest) ← name? a rest
    if followedBy rest [')', '>', '%', '|'] then
      return (keyword (String.ofList word), rest)
    else none
  | cs =>
    if cs.head?.any fun c => c == '"' || c == '\'' then do
      let (body, rest) ← Token.quoted? cs
      if followedBy rest ['>', '%', '['] then return (literal body, rest) else none
    else if cs.head?.any fun c => a.isNameChar c || c == ':' then word? a cs
    else none

def atRoot : List Char → Bool
  | '<' :: c :: _ => a.isNameStart c
  | _ => false

def scanWith : Nat → List Char → Option (List Mark × List Char)
  | 0, _ => none
  | fuel + 1, cs =>
    let cs := skipSpace cs
    if atRoot a cs then some ([], cs)
    else do
      let (mark, rest) ← next? a cs
      let (more, rest) ← scanWith fuel rest
      return (mark :: more, rest)

def scan? (cs : List Char) : Option (List Mark × List Char) := scanWith a (cs.length + 1) cs

end Mark
end FeatureSpec.Xml
