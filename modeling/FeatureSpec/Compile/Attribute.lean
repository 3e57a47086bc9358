import FeatureSpec.Compile.Visit
import FeatureSpec.Number.Literal
import FeatureSpec.Payload.Codec
import FeatureSpec.Text.Case
import FeatureSpec.Xml.Node
/-!
Attributes as the compiler reads them. An attribute has two spellings, with a capital and with a
small first letter; the first one counts where both occur, be it empty.
-/
namespace FeatureSpec.Compile

open Xml Payload

def smallInitial (name : String) : String :=
  match name.toList with
  | [] => name
  | c :: rest => String.ofList (c.toLower :: rest)

def attr? (e : Element) (name : String) : Option String :=
  match e.get? name with
  | some value => some value
  | none => e.get? (smallInitial name)

def attr (e : Element) (name : String) : String := (attr? e name).getD ""

def text? (e : Element) (name : String) : Option String :=
  (attr? e name).filter (· ≠ "")

/-- Only the word `true` is true. -/
def flag (e : Element) (name : String) (absent : Bool) : Bool :=
  match attr? e name with
  | some value => value == "true"
  | none => absent

/-- An optional minus sign and decimal digits of any script: whether it is negative, and the
values of the digits. -/
def integerDigits? (cs : List Char) : Option (Bool × List Nat) := do
  let (negative, digits) := match cs with
    | '-' :: rest => (true, rest)
    | cs => (false, cs)
  let values ← digits.mapM Text.digitValue?
  if values.isEmpty then none else return (negative, values)

/-- An integer framed by blanks; anything else counts as absent. Too many digits are fatal. -/
def integer? (e : Element) (name : String) : Visit (Option Int) :=
  match attr? e name with
  | none => pure none
  | some value =>
    match integerDigits? (Text.trimChars value.toList) with
    | some (negative, digits) =>
      if Number.integerDigitLimit < digits.length then
        Visit.fail (.value (.tooManyDigits digits.length))
      else pure (some (Number.signed negative (Text.ofDigits 10 digits)))
    | none => do
      Visit.debug fun source =>
        let place := sourceName "<spec>" source
        s!"Ignoring non-integer {name}={Text.quoted value} in {place}"
      return none

def choice? {α : Type} [Choice α] (word : String) : Option α :=
  let wanted := Text.lower (Text.trim word)
  Choice.all.find? fun a => Text.lower (Choice.word a) == wanted

/-- The choice that an attribute makes; absent and empty ones make the default one, and so does
any other word, which is a violation. -/
def choice {α : Type} [Choice α] (e : Element) (name element : String) (fallback : α) : Visit α :=
  match attr? e name with
  | none => pure fallback
  | some word =>
    if word = "" then pure fallback
    else
      match choice? word with
      | some a => pure a
      | none => do
        Visit.violate
          (.unknownWord (Choice.title α) word element name (Choice.word fallback))
        return fallback

/-- The value of a required attribute; an absent one is a violation, and empty. -/
def required (e : Element) (name element : String) : Visit String :=
  let value := attr e name
  if value = "" then do
    Visit.violate (.missing e.tag element name)
    return ""
  else pure value

def body (e : Element) : String := String.ofList (Text.trimChars e.chars)

end FeatureSpec.Compile
