import FeatureSpec.Failure
import FeatureSpec.Files.Path
import FeatureSpec.Octets
/-!
The files below a working directory. A file is known by its parts below that directory. A
directory is there if it was made, or if a file or another directory lies below it. Of what is
outside, only the directories above are known to be there. Directories may lie inside one another
to any depth.
-/
namespace FeatureSpec

structure FileTree where
  base : Path := { anchor := "/" }
  files : List (List String × Octets) := []
  made : List (List String) := []
  deriving Repr

namespace FileTree

inductive Entry where
  | file (content : Octets)
  | directory
  deriving DecidableEq, Repr

inductive Place where
  | inside (parts : List String)
  | above
  deriving DecidableEq, Repr

def file? (t : FileTree) (parts : List String) : Option Octets :=
  (t.files.find? fun f => f.1 == parts).map Prod.snd

/-- The working directory, the directories that were made, and all that lead to something. -/
def hasDirectory (t : FileTree) (parts : List String) : Bool :=
  parts.isEmpty || t.made.any (parts.isPrefixOf ·) ||
    t.files.any fun f => parts.isPrefixOf f.1 && parts != f.1

def entry? (t : FileTree) (parts : List String) : Option Entry :=
  match t.file? parts with
  | some content => some (.file content)
  | none => if t.hasDirectory parts then some .directory else none

/-- Where parts lead from a place. What is passed through has to be a directory. -/
def walk (t : FileTree) : Place → List String → Except FileFault Place
  | place, [] => .ok place
  | .above, part :: rest => if part = ".." then walk t .above rest else .error .notFound
  | .inside parts, part :: rest =>
    match t.entry? parts with
    | none => .error .notFound
    | some (.file _) => .error .notDirectory
    | some .directory =>
      if part = ".." then walk t (if parts = [] then .above else .inside parts.dropLast) rest
      else walk t (.inside (parts ++ [part])) rest

def start (t : FileTree) (p : Path) : Place × List String :=
  if p.anchor = "" then (.inside [], p.parts)
  else if p.anchor = t.base.anchor ∧ t.base.parts.isPrefixOf p.parts then
    (.inside [], p.parts.drop t.base.parts.length)
  else (.above, p.parts)

def place (t : FileTree) (p : Path) : Except FileFault Place :=
  let (place, parts) := t.start p
  t.walk place parts

def lookup (t : FileTree) (p : Path) : Except FileFault Entry := do
  match ← t.place p with
  | .above => return .directory
  | .inside parts =>
    match t.entry? parts with
    | some e => return e
    | none => .error .notFound

def isFile (t : FileTree) (p : Path) : Bool :=
  match t.lookup p with
  | .ok (.file _) => true
  | _ => false

def isDirectory (t : FileTree) (p : Path) : Bool :=
  match t.lookup p with
  | .ok .directory => true
  | _ => false

def read (t : FileTree) (p : Path) : Except Failure Octets :=
  if p.hasNul then .error (.value .nulInPath)
  else
    match t.lookup p with
    | .ok (.file content) => .ok content
    | .ok .directory => .error (.file .isDirectory)
    | .error fault => .error (.file fault)

/-- The files below a directory at any depth, by their parts from there; none if the path leads
to no directory. -/
def below (t : FileTree) (p : Path) : List (List String × Octets) :=
  match t.place p with
  | .ok (.inside parts) =>
    if t.entry? parts = some .directory then
      (t.files.filter fun f => parts.isPrefixOf f.1).map fun f => (f.1.drop parts.length, f.2)
    else []
  | _ => []

def makeWalk (t : FileTree) : Place → List String → Except FileFault FileTree
  | _, [] => .ok t
  | .above, part :: rest => if part = ".." then makeWalk t .above rest else .ok t
  | .inside parts, part :: rest =>
    if part = ".." then makeWalk t (if parts = [] then .above else .inside parts.dropLast) rest
    else
      let next := parts ++ [part]
      match t.entry? next with
      | some (.file _) => .error (if rest.isEmpty then .exists else .notDirectory)
      | some .directory => makeWalk t (.inside next) rest
      | none => makeWalk { t with made := t.made ++ [next] } (.inside next) rest

def makeDirectory (t : FileTree) (p : Path) : Except Failure FileTree :=
  if p.hasNul then .error (.value .nulInPath)
  else
    let (place, parts) := t.start p
    match t.makeWalk place parts with
    | .ok t => .ok t
    | .error fault => .error (.file fault)

def put (t : FileTree) (parts : List String) (content : Octets) : FileTree :=
  { t with files := t.files.filter (fun f => f.1 != parts) ++ [(parts, content)] }

def erase (t : FileTree) (parts : List String) : FileTree :=
  { t with files := t.files.filter fun f => f.1 != parts }

def write (t : FileTree) (p : Path) (content : Octets) : Except Failure FileTree :=
  match t.place p with
  | .error fault => .error (.file fault)
  | .ok .above => .error (.file .isDirectory)
  | .ok (.inside parts) =>
    if t.hasDirectory parts then .error (.file .isDirectory)
    else .ok (t.put parts content)

end FileTree
end FeatureSpec
