import FeatureSpec.Failure
import FeatureSpec.Host.Basic
/-!
Addresses in their parts, and the form in which an address is requested: scheme and host in lower
case, no number of a service that the scheme stands for anyway, no dot segments, and every part
percent-encoded. A percent sign stays, as the start of an encoded octet.
-/
namespace FeatureSpec

structure Address where
  scheme : List Char := []
  userinfo : List Char := []
  host : List Char := []
  service : Option Int := none
  path : List Char := []
  query : Option (List Char) := none
  fragment : Option (List Char) := none
  deriving DecidableEq, Repr

namespace Address

def lengthLimit : Nat := 65536

def isPlainExcept (others : String) (c : Char) : Bool :=
  ' ' ≤ c && c ≤ '~' && !others.contains c

def isFragmentPlain (c : Char) : Bool := isPlainExcept " \"<>`" c

def isQueryPlain (c : Char) : Bool := isPlainExcept " \"#<>" c

def isPathPlain (c : Char) : Bool := isQueryPlain c && isPlainExcept "?`\x7b\x7d" c

def isUserinfoPlain (c : Char) : Bool := isPathPlain c && isPlainExcept "/;=@[\\]^|" c

def spanBefore (ends : String) (cs : List Char) : List Char × List Char :=
  cs.span fun c => !ends.contains c

/-- The scheme before a colon, and the rest. It is empty or starts with a letter. -/
def spanScheme (cs : List Char) : List Char × List Char :=
  let isSchemeChar (c : Char) : Bool := c.isAlphanum || c == '+' || c == '.' || c == '-'
  match cs.span isSchemeChar with
  | (scheme, ':' :: rest) =>
    if scheme.isEmpty || scheme.head?.any Char.isAlpha then (scheme, rest) else ([], cs)
  | _ => ([], cs)

def spanAuthority : List Char → List Char × List Char
  | '/' :: '/' :: rest => spanBefore "/?#" rest
  | cs => ([], cs)

def spanUserinfo (cs : List Char) : List Char × List Char :=
  match cs.reverse.span (· != '@') with
  | (rest, _ :: userinfo) => (userinfo.reverse, rest.reverse)
  | (_, []) => ([], cs)

def spanHost (cs : List Char) : List Char × List Char :=
  let (tail, bracketed) := cs.reverse.span (· != ']')
  if cs.head? == some '[' && !bracketed.isEmpty then (bracketed.reverse, tail.reverse)
  else spanBefore ":" cs

def defaultService? (scheme : List Char) : Option Int :=
  match String.ofList scheme with
  | "ftp" => some 21
  | "http" | "ws" => some 80
  | "https" | "wss" => some 443
  | _ => none

def serviceOf (scheme cs : List Char) : Except AddressFault (Option Int) :=
  let digits := if cs.head? == some ':' then cs.drop 1 else cs
  if digits.isEmpty then .ok none
  else
    match Number.looseInt? (String.ofList digits) with
    | some n => .ok (if defaultService? scheme = some n then none else some n)
    | none => .error (.service (String.ofList digits))

def hostOf (cs : List Char) : Except AddressFault (List Char) :=
  (Host.resolve cs).mapError fun
    | .octets => .octets (String.ofList cs)
    | .groups => .groups (String.ofList cs)
    | .name => .hostName (String.ofList cs)

/-- Path segments without the dot segments: one dot is dropped, two dots drop the segment before
them. -/
def resolveDots (segments : List (List Char)) : List (List Char) :=
  (segments.foldl (fun kept s =>
    if s = ['.'] then kept
    else if s = ['.', '.'] then (if kept = [[]] then kept else kept.drop 1)
    else s :: kept) []).reverse

def normalPath (path : List Char) : List Char :=
  ['/'].intercalate (resolveDots (path.splitOn '/'))

def after? (sign : Char) (cs : List Char) : Option (List Char) :=
  if cs.head? == some sign then some (cs.drop 1) else none

def hasAuthority (a : Address) : Bool := !a.userinfo.isEmpty || !a.host.isEmpty || a.service.isSome

/-- An address without scheme and host stands below a server that it does not tell. -/
def isAbsolute (a : Address) : Bool := !a.scheme.isEmpty && !a.host.isEmpty

def control? (cs : List Char) : Option (Char × Nat) :=
  cs.zipIdx.find? fun (c, _) => c < ' ' || c == '\x7f'

def ofChars (cs : List Char) : Except AddressFault Address := do
  if lengthLimit < cs.length then throw .tooLong
  if let some (c, place) := control? cs then throw (.control c place)
  let (scheme, rest) := spanScheme cs
  let (authority, rest) := spanAuthority rest
  let (path, rest) := spanBefore "?#" rest
  let (query, rest) := spanBefore "#" rest
  let (userinfo, server) := spanUserinfo authority
  let (host, service) := spanHost server
  let a : Address :=
    { scheme := scheme.map Char.toLower
      userinfo := Escape.escaped isUserinfoPlain userinfo
      host := ← hostOf host
      service := ← serviceOf scheme service
      query := (after? '?' query).map (Escape.escaped isQueryPlain)
      fragment := (after? '#' rest).map (Escape.escaped isFragmentPlain) }
  let path ←
    if a.hasAuthority || !a.scheme.isEmpty then pure (normalPath path)
    else if ['/', '/'].isPrefixOf path then throw .doubleSlash
    else if path.head? == some ':' then throw .leadingColon
    else pure path
  return { a with path := Escape.escaped isPathPlain path }

/-- The address below the server that the transport has, if it tells none itself. Only path and
query are left of it. -/
def rooted (a : Address) : Except AddressFault Address := do
  let path := '/' :: a.path.dropWhile (· == '/')
  let tooLong (cs : List Char) : Bool := lengthLimit < cs.length
  if tooLong path then throw (.partTooLong "path")
  if a.query.any tooLong then throw (.partTooLong "query")
  return { path, query := a.query }

def ofString (url : String) : Except AddressFault Address := do
  let a ← ofChars url.toList
  if a.isAbsolute then return a else a.rooted

def text (a : Address) : String :=
  let host := if a.host.contains ':' then '[' :: a.host ++ [']'] else a.host
  let service := match a.service with
    | some n => ':' :: (toString n).toList
    | none => []
  let userinfo := if a.userinfo.isEmpty then [] else a.userinfo ++ ['@']
  let authority := userinfo ++ host ++ service
  String.ofList
    ((if a.scheme.isEmpty then [] else a.scheme ++ [':']) ++
      (if authority.isEmpty then [] else '/' :: '/' :: authority) ++ a.path ++
      (a.query.map ('?' :: ·)).getD [] ++ (a.fragment.map ('#' :: ·)).getD [])

end Address
end FeatureSpec
