import FeatureSpec.Json.Display
/-!
Outcomes of checking a payload: a value, or every fault found, in the order of the checks, and
the report that lists the faults.
-/
namespace FeatureSpec.Payload

inductive Step where
  | key (name : String)
  | item (index : Nat)
  deriving DecidableEq, Repr

inductive FaultKind where
  | missing
  | notRecord (title : String)
  | notList
  | notMapping
  | notText
  | notFlag
  | unreadableFlag
  | notInteger
  | unreadableInteger
  | oversizedInteger
  | fractionalInteger
  | notFinite
  | notNumber
  | unknownChoice (words : List String)
  deriving DecidableEq, Repr

structure Fault where
  path : List Step
  kind : FaultKind
  input : Json
  deriving DecidableEq, Repr

abbrev Checked (α : Type) := Except (List Fault) α

namespace FaultKind

def code : FaultKind → String
  | .missing => "missing"
  | .notRecord _ => "model_type"
  | .notList => "list_type"
  | .notMapping => "dict_type"
  | .notText => "string_type"
  | .notFlag => "bool_type"
  | .unreadableFlag => "bool_parsing"
  | .notInteger => "int_type"
  | .unreadableInteger => "int_parsing"
  | .oversizedInteger => "int_parsing_size"
  | .fractionalInteger => "int_from_float"
  | .notFinite => "finite_number"
  | .notNumber => "float_type"
  | .unknownChoice _ => "enum"

def alternatives : List String → String
  | [] => ""
  | [w] => Text.quoted w
  | [v, w] => Text.quoted v ++ " or " ++ Text.quoted w
  | w :: rest => Text.quoted w ++ ", " ++ alternatives rest

def message : FaultKind → String
  | .missing => "Field required"
  | .notRecord title => "Input should be a valid dictionary or instance of " ++ title
  | .notList => "Input should be a valid list"
  | .notMapping => "Input should be a valid dictionary"
  | .notText => "Input should be a valid string"
  | .notFlag => "Input should be a valid boolean"
  | .unreadableFlag => "Input should be a valid boolean, unable to interpret input"
  | .notInteger => "Input should be a valid integer"
  | .unreadableInteger =>
    "Input should be a valid integer, unable to parse string as an integer"
  | .oversizedInteger => "Unable to parse input string as an integer, exceeded maximum size"
  | .fractionalInteger =>
    "Input should be a valid integer, got a number with a fractional part"
  | .notFinite => "Input should be a finite number"
  | .notNumber => "Input should be a valid number"
  | .unknownChoice words => "Input should be " ++ alternatives words

end FaultKind

namespace Fault

/-- A text of more than 50 octets is cut in the middle, at whole characters: at most 25 octets
of its start and 24 of its end stay. -/
def abridge (s : String) : String :=
  let size (cs : List Char) : Nat := cs.foldl (fun n c => n + c.utf8Size) 0
  let rec front : Nat → List Char → List Char
    | _, [] => []
    | room, c :: rest => if c.utf8Size ≤ room then c :: front (room - c.utf8Size) rest else []
  let cs := s.toList
  if size cs ≤ 50 then s
  else String.ofList (front 25 cs ++ ['.', '.', '.'] ++ (front 24 cs.reverse).reverse)

def typeName : Json → String
  | .null => "NoneType"
  | .bool _ => "bool"
  | .int _ => "int"
  | .float _ => "float"
  | .string _ => "str"
  | .array _ => "list"
  | .object _ => "dict"

def stepText : Step → String
  | .key name => if name.toList.contains '.' then "`" ++ name ++ "`" else name
  | .item index => toString index

def helpPage : String := "https://errors.pydantic.dev/2.14/v/"

def report (f : Fault) : String :=
  let place := if f.path.isEmpty then "" else ".".intercalate (f.path.map stepText) ++ "\n"
  place ++ "  " ++ f.kind.message ++ " [type=" ++ f.kind.code ++ ", input_value=" ++
    abridge f.input.shown ++ ", input_type=" ++ typeName f.input ++ "]\n" ++
    "    For further information visit " ++ helpPage ++ f.kind.code

def reportAll (title : String) (faults : List Fault) : String :=
  let count := toString faults.length ++ " validation error" ++
    (if faults.length = 1 then "" else "s")
  "\n".intercalate ((count ++ " for " ++ title) :: faults.map report)

end Fault

namespace Checked

variable {α β : Type}

def fault (kind : FaultKind) (input : Json) : Checked α := .error [⟨[], kind, input⟩]

def under (step : Step) : Checked α → Checked α
  | .ok a => .ok a
  | .error faults => .error (faults.map fun f => { f with path := step :: f.path })

def both (f : Checked (α → β)) (a : Checked α) : Checked β :=
  match f, a with
  | .ok f, .ok a => .ok (f a)
  | .error e, .ok _ => .error e
  | .ok _, .error e => .error e
  | .error e, .error e' => .error (e ++ e')

def each (check : α → Checked β) : Nat → List α → Checked (List β)
  | _, [] => .ok []
  | index, a :: rest =>
    both ((under (.item index) (check a)).map List.cons) (each check (index + 1) rest)

def eachEntry (check : α → Checked β) : List (String × α) → Checked (List (String × β))
  | [] => .ok []
  | (k, a) :: rest =>
    both ((under (.key k) (check a)).map fun b => ((k, b) :: ·)) (eachEntry check rest)

theorem under_eq_ok {step : Step} {x : Checked α} {a : α} (h : under step x = .ok a) :
    x = .ok a := by
  cases x with
  | ok b => exact h
  | error e => cases h

theorem both_eq_ok {f : Checked (α → β)} {x : Checked α} {b : β} (h : both f x = .ok b) :
    ∃ g a, f = .ok g ∧ x = .ok a ∧ b = g a := by
  cases f with
  | ok g =>
    cases x with
    | ok a =>
      cases h
      exact ⟨g, a, rfl, rfl, rfl⟩
    | error e => cases h
  | error e => cases x <;> cases h

theorem map_eq_ok {f : α → β} {x : Checked α} {b : β} (h : x.map f = .ok b) :
    ∃ a, x = .ok a ∧ b = f a := by
  cases x with
  | ok a =>
    cases h
    exact ⟨a, rfl, rfl⟩
  | error e => cases h

end Checked
end FeatureSpec.Payload
