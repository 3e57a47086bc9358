import FeatureSpec.Toml.Token
/-!
TOML documents. A document builds its table statement by statement. Values in brackets or braces
are closed for good; a table is opened by a header at most once, and never by a header after it
came up inside a dotted key.
-/
namespace FeatureSpec.Toml

def coversKey (keys : List Key) (key : Key) : Bool := keys.any (·.isPrefixOf key)

/-- A closed table under construction: its entries, and the keys that may not grow. -/
structure Inline where
  entries : Entries Toml := []
  frozen : List Key := []

/-- Whether a value may be looked into by later keys no more. -/
def isNested : Toml → Bool
  | .array _ => true
  | .table _ => true
  | _ => false

def Inline.add (t : Inline) (key : Key) (v : Toml) : Option Inline := do
  if coversKey t.frozen key then none
  else
    let entries ← within false (addEntry (key.getLastD "") v) key.dropLast t.entries
    return { entries, frozen := if isNested v then key :: t.frozen else t.frozen }

mutual

/-- One value. Every nesting level and every further item takes one from `fuel`. -/
def value : Nat → List Char → Except Fault (Toml × List Char)
  | 0, _ => malformed
  | fuel + 1, cs =>
    match cs with
    | '"' :: _ | '\'' :: _ => do
      let (s, rest) ← stringToken cs
      return (.string s, rest)
    | 't' :: 'r' :: 'u' :: 'e' :: rest => .ok (.bool true, rest)
    | 'f' :: 'a' :: 'l' :: 's' :: 'e' :: rest => .ok (.bool false, rest)
    | '[' :: rest => do
      match ← skipLines (rest.length + 1) rest with
      | ']' :: rest => return (.array [], rest)
      | rest => do
        let (items, rest) ← elements fuel rest
        return (.array items, rest)
    | '{' :: rest =>
      match skipSpace rest with
      | '}' :: rest => .ok (.table [], rest)
      | rest => do
        let (t, rest) ← members fuel {} rest
        return (.table t, rest)
    | cs => numberToken cs

def elements : Nat → List Char → Except Fault (List Toml × List Char)
  | 0, _ => malformed
  | fuel + 1, cs => do
    let (item, rest) ← value fuel cs
    match ← skipLines (rest.length + 1) rest with
    | ']' :: rest => return ([item], rest)
    | ',' :: rest => do
      match ← skipLines (rest.length + 1) rest with
      | ']' :: rest => return ([item], rest)
      | rest => do
        let (items, rest) ← elements fuel rest
        return (item :: items, rest)
    | _ => malformed

def members : Nat → Inline → List Char → Except Fault (Entries Toml × List Char)
  | 0, _, _ => malformed
  | fuel + 1, t, cs => do
    let (key, rest) ← keyToken cs
    match rest with
    | '=' :: rest => do
      let (v, rest) ← value fuel (skipSpace rest)
      match t.add key v with
      | none => malformed
      | some t =>
        match skipSpace rest with
        | '}' :: rest => return (t.entries, rest)
        | ',' :: rest => members fuel t (skipSpace rest)
        | _ => malformed
    | _ => malformed

end

structure Draft where
  entries : Entries Toml := []
  header : Key := []
  /-- Keys of tables that no header may open again. -/
  opened : List Key := []
  /-- Keys of tables that came up in dotted keys since the last header. -/
  pending : List Key := []
  /-- Keys of values that are closed for good. -/
  frozen : List Key := []

namespace Draft

/-- The draft before a header: what came up in dotted keys counts as opened. -/
def settle (d : Draft) : Draft := { d with opened := d.opened ++ d.pending, pending := [] }

def openTable (d : Draft) (key : Key) : Option Draft := do
  if d.opened.contains key || coversKey d.frozen key then none
  else
    let entries ← within true some key d.entries
    return { d with entries, header := key, opened := key :: d.opened }

/-- A header that opens one more table of a list. What was opened in the one before it is free
again. -/
def openListTable (d : Draft) (key : Key) : Option Draft := do
  if coversKey d.frozen key then none
  else
    let entries ← within true (addTable (key.getLastD "")) key.dropLast d.entries
    let outside (k : Key) : Bool := !key.isPrefixOf k
    return { d with
      entries, header := key, opened := key :: d.opened.filter outside,
      frozen := d.frozen.filter outside }

def passed (d : Draft) (key : Key) : List Key :=
  (List.range (key.length - 1)).map fun i => d.header ++ key.take (i + 1)

def add (d : Draft) (key : Key) (v : Toml) : Option Draft := do
  let parent := d.header ++ key.dropLast
  if (d.passed key).any d.opened.contains || coversKey d.frozen parent then none
  else
    let entries ← within true (addEntry (key.getLastD "") v) parent d.entries
    let frozen := if isNested v then (d.header ++ key) :: d.frozen else d.frozen
    return { d with entries, frozen, pending := d.pending ++ d.passed key }

end Draft

def accept (d : Option Draft) (rest : List Char) : Except Fault (Draft × List Char) :=
  match d with
  | some d => .ok (d, rest)
  | none => malformed

/-- One statement, or none, at the front of a line; `fuel` bounds the nesting of its value. -/
def statement (fuel : Nat) (d : Draft) (cs : List Char) : Except Fault (Draft × List Char) :=
  match cs with
  | '[' :: '[' :: rest => do
    let (key, rest) ← keyToken (skipSpace rest)
    match rest with
    | ']' :: ']' :: rest => accept (d.settle.openListTable key) rest
    | _ => malformed
  | '[' :: rest => do
    let (key, rest) ← keyToken (skipSpace rest)
    match rest with
    | ']' :: rest => accept (d.settle.openTable key) rest
    | _ => malformed
  | c :: _ =>
    if startsKey c then do
      let (key, rest) ← keyToken cs
      match rest with
      | '=' :: rest => do
        let (v, rest) ← value fuel (skipSpace rest)
        accept (d.add key v) rest
      | _ => malformed
    else .ok (d, cs)
  | [] => .ok (d, cs)

/-- The statements of a document, one a line. Every line takes one from the first number; the
second one bounds the nesting of values. -/
def statements : Nat → Nat → Draft → List Char → Except Fault Draft
  | 0, _, _, _ => malformed
  | lines + 1, fuel, d, cs => do
    let (d, rest) ← statement fuel d (skipSpace cs)
    match ← skipComment (skipSpace rest) with
    | [] => return d
    | '\n' :: rest => statements lines fuel d rest
    | _ => malformed

def readChars (cs : List Char) : Except Fault (Entries Toml) := do
  let d ← statements (cs.length + 1) (2 * cs.length + 2) {} cs
  return d.entries

def read (text : String) : Except Fault (Entries Toml) := readChars text.toList

end FeatureSpec.Toml
