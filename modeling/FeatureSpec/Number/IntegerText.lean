import FeatureSpec.Number.Literal
/-!
Integers as texts of a lenient form: white space around them, a sign, zeros in front, single
underscores between digits, and a point with nothing but zeros after it.
-/
namespace FeatureSpec.Number.IntegerText

open Text

inductive Fault where
  | unreadable
  | oversized
  deriving DecidableEq, Repr

/-- The longest integer that is read, its minus sign counted. -/
def limit : Nat := 4300

def isLeadingDigit (c : Char) : Bool := c.isDigit && c != '0'

/-- What is left after a zero when the zeros and underscores that follow it are dropped. A digit
or a minus sign ends them; the character before a point stays, and so does the last of all. -/
def afterZero? (last : Char) : List Char → Option (List Char)
  | [] => some [last]
  | c :: rest =>
    if c = '0' ∨ c = '_' then afterZero? c rest
    else if isLeadingDigit c ∨ c = '-' then some (c :: rest)
    else if c = '.' then some (last :: c :: rest)
    else none

def withoutZeros? : List Char → Option (List Char)
  | [] => none
  | c :: rest =>
    if c = '0' then afterZero? c rest
    else if isLeadingDigit c ∨ c = '-' then some (c :: rest)
    else none

/-- A text without its fraction, which is at least one zero and nothing else. -/
def withoutFraction? (cs : List Char) : Option (List Char) :=
  let (whole, fraction) := cs.span (· != '.')
  match fraction with
  | [] => some whole
  | [_] => none
  | _ :: digits => if digits.all (· == '0') then some whole else none

def withoutUnderscores? : List Char → Option (List Char)
  | [] => some []
  | '_' :: _ => none
  | c :: '_' :: rest => (withoutUnderscores? rest).bind fun more =>
    if more.isEmpty then none else some (c :: more)
  | c :: rest => (withoutUnderscores? rest).map (c :: ·)

def plain? (cs : List Char) : Option Int :=
  let (negative, digits) :=
    match cs with
    | '-' :: rest => (true, rest)
    | cs => (false, cs)
  if limit < cs.length || digits.isEmpty || !digits.all Char.isDigit ||
      (digits.head? == some '0' && digits.length != 1) then none
  else some (signed negative (natOfDigits digits))

def plainForm? (cs : List Char) : Option (List Char) := do
  let unsigned? (cs : List Char) : Option (List Char) := do
    withoutUnderscores? (← withoutFraction? (← withoutZeros? cs))
  match trimBy isWhiteSpace cs with
  | '+' :: '-' :: _ => none
  | '+' :: rest => unsigned? rest
  | '-' :: rest => (unsigned? rest).map ('-' :: ·)
  | cs => unsigned? cs

def isOversized (cs : List Char) : Bool :=
  let (sign, rest) := cs.span (· == '-')
  sign.length ≤ 1 && rest.head?.any isLeadingDigit &&
    limit < sign.length + (rest.takeWhile Char.isDigit).length

def read (s : String) : Except Fault Int :=
  if isOversized s.toList then .error .oversized
  else
    match (plainForm? s.toList).bind plain? with
    | some n => .ok n
    | none => .error .unreadable

end FeatureSpec.Number.IntegerText
