import FeatureSpec.Text.Width
/-!
Clusters: a text as runs of characters that cannot be taken apart in a terminal, and cutting a
text between them.
-/
namespace FeatureSpec.Text

structure Cluster where
  chars : List Char
  width : Nat
  deriving DecidableEq, Repr

namespace Cluster

def attach (k : Cluster) (c : Char) (extra : Nat) : Cluster := ⟨k.chars ++ [c], k.width + extra⟩

/-- The clusters of what is left of a text after the clusters `done`, the last of them first. Only
the first cluster can take no columns. -/
def splitAfter (joined : Bool) (last : Option Char) (done : List Cluster) :
    List Char → List Cluster
  | [] => done.reverse
  | c :: rest =>
    let fresh := ⟨[c], charWidth c⟩
    match done with
    | [] => splitAfter false (if charWidth c = 0 then none else some c) [fresh] rest
    | k :: older =>
      if joined then splitAfter false last (k.attach c 0 :: older) rest
      else if c = joiner then splitAfter true last (k.attach c 0 :: older) rest
      else if c = pictureSign then
        let extra := pictureExtra last
        splitAfter false (if extra = 0 then last else none) (k.attach c extra :: older) rest
      else if charWidth c = 0 then splitAfter false last (k.attach c 0 :: older) rest
      else splitAfter false (some c) (fresh :: k :: older) rest

def split (cs : List Char) : List Cluster := splitAfter false none [] cs

/-- The start of a text that takes so many columns. A blank stands in for a cluster that would
reach beyond them. -/
def crop : Nat → List Cluster → List Char
  | 0, _ => []
  | _, [] => []
  | n, k :: rest => if k.width ≤ n then k.chars ++ crop (n - k.width) rest else [' ']

def piecesAfter (width : Nat) (line : List Char) (size : Nat) : List Cluster → List (List Char)
  | [] => [line]
  | k :: rest =>
    if width < size + k.width then line :: piecesAfter width k.chars k.width rest
    else piecesAfter width (line ++ k.chars) (size + k.width) rest

def pieces (width : Nat) (cs : List Char) : List (List Char) :=
  piecesAfter width [] 0 (split cs)

end Cluster
end FeatureSpec.Text
