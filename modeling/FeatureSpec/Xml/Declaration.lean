import FeatureSpec.Text.Lines
import FeatureSpec.Xml.Charset
/-!
The start of a document: what its first octets say about the character set, and the
declaration, which may name another one.
-/
namespace FeatureSpec.Xml

structure Declaration where
  encoding : Option String := none
  standalone : Bool := false
  deriving DecidableEq, Repr

namespace Declaration

structure Item where
  name : List Char
  value : List Char
  deriving DecidableEq, Repr

def isValueChar (c : Char) : Bool := c.isAlphanum || c == '.' || c == '-' || c == '_'

def item? (cs : List Char) : Option (Item × List Char) := do
  let (name, rest) := (skipSpace cs).span fun c => !isSpace c && c != '='
  match name, skipSpace rest with
  | [], _ => none
  | _ :: _, '=' :: rest =>
    match skipSpace rest with
    | quote :: rest =>
      if quote == '"' || quote == '\'' then
        let (value, rest) := rest.span isValueChar
        match rest with
        | c :: rest => if c = quote then some (⟨name, value⟩, rest) else none
        | [] => none
      else none
    | [] => none
  | _, _ => none

def items? : Nat → List Char → Option (List Item)
  | 0, _ => none
  | limit + 1, cs =>
    if (skipSpace cs).isEmpty then some []
    else if cs.head?.any isSpace then do
      let (first, rest) ← item? cs
      return first :: (← items? limit rest)
    else none

def encodingName? (value : List Char) : Option String :=
  if value.head?.any Char.isAlpha then some (String.ofList value) else none

def ofBody? (cs : List Char) : Option Declaration := do
  let items ← items? 4 cs
  match items.map fun i => (String.ofList i.name, i.value) with
  | [("version", _)] => some {}
  | [("version", _), ("encoding", e)] => do
    return { encoding := some (← encodingName? e) }
  | [("version", _), ("standalone", s)] => do
    return { standalone := ← alone? s }
  | [("version", _), ("encoding", e), ("standalone", s)] => do
    return { encoding := some (← encodingName? e), standalone := ← alone? s }
  | _ => none
where
  alone? : List Char → Option Bool
    | ['y', 'e', 's'] => some true
    | ['n', 'o'] => some false
    | _ => none

def scan (cs : List Char) : Except Fault (Option (Declaration × Nat)) :=
  match after? ['<', '?', 'x', 'm', 'l'] cs with
  | none => .ok none
  | some rest =>
    if !rest.head?.any isSpace then .ok none
    else
      match splitAt? ['?', '>'] rest with
      | none => .error .malformed
      | some (body, _) =>
        match ofBody? body with
        | some d => .ok (some (d, body.length + 7))
        | none => .error .malformed

end Declaration

def sniff : Octets → Charset × Octets
  | 0xFE :: 0xFF :: rest => (.utf16 true, rest)
  | 0xFF :: 0xFE :: rest => (.utf16 false, rest)
  | 0xEF :: 0xBB :: 0xBF :: rest => (.utf8, rest)
  | 0x00 :: rest => (.utf16 true, 0x00 :: rest)
  | a :: 0x00 :: rest => (.utf16 false, a :: 0x00 :: rest)
  | os => (.utf8, os)

/-- The characters that a declaration can be written in; all others become U+FFFD. -/
def asciiView (base : Charset) (os : Octets) : List Char :=
  let char (n : Nat) : Char := if n < 128 then Char.ofNat n else Char.ofNat 0xFFFD
  match base with
  | .utf16 bigEndian =>
    let even := os.take (os.length / 2 * 2)
    ((Octets.units16? bigEndian even).getD []).map char
  | _ => os.map fun o => char o.toNat

/-- The set for the rest of a document that starts in `base` and declares `encoding`. Units of
eight and of sixteen bits do not change into one another. -/
def declaredCharset (base : Charset) (encoding : String) : Except Fault Charset :=
  let name := encoding.toLower
  match base, name with
  | .utf16 bigEndian, "utf-16" => .ok (.utf16 bigEndian)
  | .utf16 bigEndian, "utf-16be" => if bigEndian then .ok base else .error .malformed
  | .utf16 bigEndian, "utf-16le" => if bigEndian then .error .malformed else .ok base
  | .utf16 _, "utf-8" | .utf16 _, "iso-8859-1" | .utf16 _, "us-ascii" => .error .malformed
  | _, "utf-16" | _, "utf-16be" | _, "utf-16le" => .error .malformed
  | _, "utf-8" => .ok .utf8
  | _, "iso-8859-1" => .ok .latin1
  | _, "us-ascii" => .ok .ascii
  | _, _ => Charset.named encoding

structure Body where
  standalone : Bool
  alphabet : Alphabet
  chars : List Char
  deriving DecidableEq, Repr

/-- The body of a document. Where `honour` is false, a declared encoding has no effect. -/
def Body.ofOctets (honour : Bool) (os : Octets) : Except Fault Body := do
  let (base, os) := sniff os
  let declaration ← Declaration.scan (asciiView base os)
  let (standalone, charset, os) ←
    match declaration with
    | none => pure (false, base, os)
    | some (d, length) => do
      let width := match base with
        | .utf16 _ => 2
        | _ => 1
      let charset ←
        match honour, d.encoding with
        | true, some encoding => declaredCharset base encoding
        | _, _ => pure base
      pure (d.standalone, charset, os.drop (width * length))
  match charset.decode? os with
  | none => .error .malformed
  | some cs =>
    if cs.all isChar then
      return { standalone, alphabet := charset.alphabet, chars := Text.normalizeLines cs }
    else .error .malformed

end FeatureSpec.Xml
