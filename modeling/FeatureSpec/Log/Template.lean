import FeatureSpec.Failure
import FeatureSpec.Number.Rounded
/-!
Message templates: a text with conversions, each of which shows one value. A conversion is a
percent sign, the name of a value in parentheses, flags, a width, a precision and a letter, all
but the sign and the letter optional; two percent signs stand for one.
-/
namespace FeatureSpec.Log.Template

inductive Values where
  | listed (rest : List Json)
  /-- Named values, and the one that a conversion without a name takes next. -/
  | named (members : Entries Json) (next : Option Json)
  deriving DecidableEq, Repr

namespace Values

/-- A sole object stands for named values, and for itself. -/
def ofArguments : List Json → Values
  | [.object (m :: ms)] => .named (m :: ms) (some (.object (m :: ms)))
  | args => .listed args

def take? : Values → Option (Json × Values)
  | .listed (v :: rest) => some (v, .listed rest)
  | .named members (some v) => some (v, .named members none)
  | .listed [] | .named _ none => none

def take (vs : Values) : Except Failure (Json × Values) :=
  match vs.take? with
  | some r => .ok r
  | none => .error (.template .tooFew)

def select (name : String) : Values → Except Failure Values
  | .listed _ => .error (.template .unnamed)
  | .named members _ =>
    match members.get? name with
    | some v => .ok (.named members (some v))
    | none => .error (.template (.noSuchName name))

def isLeftOver : Values → Bool
  | .listed rest => !rest.isEmpty
  | .named _ _ => false

end Values

structure Conversion where
  left : Bool := false
  zeros : Bool := false
  plus : Bool := false
  blank : Bool := false
  marked : Bool := false
  width : Nat := 0
  precision : Option Nat := none
  deriving DecidableEq, Repr

/-- A name up to its closing parenthesis, inside of which parentheses come in pairs, and what
follows it. -/
def nameBody : Nat → List Char → Option (List Char × List Char)
  | _, [] => none
  | 0, ')' :: rest => some ([], rest)
  | depth, c :: rest =>
    let depth := if c = '(' then depth + 1 else if c = ')' then depth - 1 else depth
    (nameBody depth rest).map fun (name, rest) => (c :: name, rest)

def selected (vs : Values) : List Char → Except Failure (Values × List Char)
  | '(' :: rest =>
    match vs, nameBody 0 rest with
    | .listed _, _ => .error (.template .unnamed)
    | _, none => .error (.value .cutName)
    | _, some (name, rest) => do return (← vs.select (String.ofList name), rest)
  | cs => .ok (vs, cs)

def flags (c : Conversion) : List Char → Conversion × List Char
  | '-' :: rest => flags { c with left := true } rest
  | '0' :: rest => flags { c with zeros := true } rest
  | '+' :: rest => flags { c with plus := true } rest
  | ' ' :: rest => flags { c with blank := true } rest
  | '#' :: rest => flags { c with marked := true } rest
  | cs => (c, cs)

def widthLimit : Nat := Nat.pow 2 63 - 1

def precisionLimit : Nat := Nat.pow 2 31 - 1

def size (what : String) (limit : Nat) (vs : Values) :
    List Char → Except Failure (Int × Values × List Char)
  | '*' :: rest => do
    match ← vs.take with
    | (.int n, vs) =>
      if n < -(limit : Int) - 1 ∨ (limit : Int) < n then .error .overflow else return (n, vs, rest)
    | (.bool b, vs) => return (if b then 1 else 0, vs, rest)
    | _ => .error (.template .notSize)
  | cs =>
    let (digits, rest) := Number.spanDigits cs
    let n := Number.natOfDigits digits
    if limit < n then .error (.value (.oversized what)) else .ok (n, vs, rest)

def withWidth (c : Conversion) (n : Int) : Conversion :=
  { c with left := c.left || decide (n < 0), width := if widthLimit < n.natAbs then 0 else n.natAbs }

/-- A conversion up to its letter. A letter for a length means nothing. -/
def conversion (vs : Values) (cs : List Char) :
    Except Failure (Conversion × Values × List Char) := do
  let (vs, cs) ← selected vs cs
  let (c, cs) := flags {} cs
  let (width, vs, cs) ← size "width" widthLimit vs cs
  let c := withWidth c width
  let (c, vs, cs) ← match cs with
    | '.' :: rest => do
      let (precision, vs, rest) ← size "precision" precisionLimit vs rest
      pure ({ c with precision := some precision.toNat }, vs, rest)
    | cs => pure (c, vs, cs)
  match cs with
  | 'h' :: rest | 'l' :: rest | 'L' :: rest => return (c, vs, rest)
  | cs => return (c, vs, cs)

def fill (c : Conversion) (cs : List Char) : List Char :=
  let blanks := List.replicate (c.width - cs.length) ' '
  if c.left then cs ++ blanks else blanks ++ cs

def textual (c : Conversion) (s : String) : List Char :=
  let cs := s.toList
  fill c (match c.precision with
    | some n => cs.take n
    | none => cs)

def numeric (c : Conversion) (negative : Bool) (mark digits : List Char) : List Char :=
  let sign := if negative then ['-'] else if c.plus then ['+'] else if c.blank then [' '] else []
  let start := sign ++ mark
  if c.zeros && !c.left then
    start ++ List.replicate (c.width - start.length - digits.length) '0' ++ digits
  else fill c (start ++ digits)

def integral (c : Conversion) (base : Nat) (mark : String) (upper : Bool) (n : Int) :
    List Char :=
  let digits := Nat.toDigits base n.natAbs
  let digits := List.replicate (c.precision.getD 0 - digits.length) '0' ++ digits
  let mark := if c.marked then mark.toList else []
  numeric c (n < 0) mark (if upper then digits.map Char.toUpper else digits)

def truncate : Binary64 → Int
  | .finite negative m e _ =>
    let (num, den) := Binary64.ratio m e
    if negative then -((num / den : Nat) : Int) else ((num / den : Nat) : Int)
  | _ => 0

/-- Digits before a point and after it. A point that would end the number is left out, unless it
is asked for. -/
def pointed (c : Conversion) (whole fraction : List Char) : List Char :=
  if fraction.isEmpty && !c.marked then whole else whole ++ '.' :: fraction

def significant (c : Conversion) (fraction : List Char) : List Char :=
  if c.marked then fraction else (fraction.reverse.dropWhile (· == '0')).reverse

/-- The digits of a ratio in the form of a letter: with an exponent, with a fixed count of digits
after the point, or in whichever of the two is shorter. -/
def digitsOf (c : Conversion) (letter : Char) (num den : Nat) : List Char :=
  let precision := c.precision.getD 6
  match letter with
  | 'e' =>
    let (ds, exponent) := Number.significantDigits (precision + 1) num den
    pointed c (ds.take 1) (ds.drop 1) ++ Binary64.exponentChars exponent
  | 'g' =>
    let count := max precision 1
    let (ds, exponent) := Number.significantDigits count num den
    if -4 ≤ exponent ∧ exponent < count then
      let (whole, fraction) := Number.fixedDigits (count - 1 - exponent).toNat num den
      pointed c whole (significant c fraction)
    else
      pointed c (ds.take 1) (significant c (ds.drop 1)) ++ Binary64.exponentChars exponent
  | _ =>
    let (whole, fraction) := Number.fixedDigits precision num den
    pointed c whole fraction

def real (c : Conversion) (letter : Char) (x : Binary64) : List Char :=
  let (negative, body) := match x with
    | .finite negative m e _ =>
      let (num, den) := Binary64.ratio m e
      (negative, digitsOf c letter.toLower num den)
    | .infinite negative => (negative, ['i', 'n', 'f'])
    | .nan => (false, ['n', 'a', 'n'])
  numeric c negative [] (if letter.isUpper then body.map Char.toUpper else body)

def asciiOnly (s : String) : String :=
  String.ofList (s.toList.flatMap fun c =>
    if c.toNat < 0x80 then [c]
    else if c.toNat < 0x100 then '\\' :: 'x' :: Text.hex 2 c.toNat
    else if c.toNat < 0x10000 then '\\' :: 'u' :: Text.hex 4 c.toNat
    else '\\' :: 'U' :: Text.hex 8 c.toNat)

def wholeOf (letter : Char) : Json → Except Failure Int
  | .int n => .ok n
  | .bool b => .ok (if b then 1 else 0)
  | .float .nan => .error (.value .notNumberAsInteger)
  | .float x => if x.isFinite then .ok (truncate x) else .error .overflow
  | v => .error (.template (.notNumber letter (Payload.Fault.typeName v)))

def integerOf (letter : Char) : Json → Except Failure Int
  | .int n => .ok n
  | .bool b => .ok (if b then 1 else 0)
  | v => .error (.template (.notInteger letter (Payload.Fault.typeName v)))

def realOf : Json → Except Failure Binary64
  | .float x => .ok x
  | .int n => if (Binary64.ofInt n).isFinite then .ok (.ofInt n) else .error .overflow
  | .bool b => .ok (.ofInt (if b then 1 else 0))
  | v => .error (.template (.notReal (Payload.Fault.typeName v)))

def convert (c : Conversion) (letter : Char) (place : Nat) (v : Json) :
    Except Failure (List Char) :=
  match letter with
  | 's' => .ok (textual c v.display)
  | 'r' => .ok (textual c v.shown)
  | 'a' => .ok (textual c (asciiOnly v.shown))
  | 'd' | 'i' | 'u' => do return integral c 10 "" false (← wholeOf letter v)
  | 'x' => do return integral c 16 "0x" false (← integerOf letter v)
  | 'X' => do return integral c 16 "0X" true (← integerOf letter v)
  | 'o' => do return integral c 8 "0o" false (← integerOf letter v)
  | 'e' | 'E' | 'f' | 'F' | 'g' | 'G' => do return real c letter (← realOf v)
  | 'c' =>
    match v with
    | .int n =>
      if 0 ≤ n ∧ n < 0x110000 then .ok (fill c [Char.ofNat n.toNat]) else .error .overflow
    | .bool b => .ok (fill c [if b then '\x01' else '\x00'])
    | .string s => if s.length = 1 then .ok (fill c s.toList) else .error (.template .notCharacter)
    | _ => .error (.template .notCharacter)
  | letter => .error (.value (.unknownConversion letter place))

def expand : Nat → Nat → List Char → Values → Except Failure (List Char)
  | 0, _, _, _ => .ok []
  | fuel + 1, place, cs, vs =>
    let (before, rest) := cs.span (· != '%')
    match rest with
    | [] => if vs.isLeftOver then .error (.template .tooMany) else .ok before
    | _ :: '%' :: rest => do
      return before ++ '%' :: (← expand fuel (place + before.length + 2) rest vs)
    | _ :: rest => do
      let (c, vs, after) ← conversion vs rest
      let place := place + before.length + 1 + (rest.length - after.length)
      match after with
      | [] => .error (.value .cutTemplate)
      | letter :: after =>
        let (v, vs) ← vs.take
        let shown ← convert c letter place v
        return before ++ shown ++ (← expand fuel (place + 1) after vs)

/-- The message of a template and its values. Without values it is the template itself. -/
def message (template : String) (args : List Json) : Except Failure String :=
  if args.isEmpty then .ok template
  else (expand (template.length + 1) 0 template.toList (.ofArguments args)).map String.ofList

end FeatureSpec.Log.Template
