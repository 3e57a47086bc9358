import FeatureSpec.Host.CompositionTable
import FeatureSpec.Host.Mark
/-!
Composed spelling: every letter with its marks is as few characters as can be, and the marks stand
in the order of their classes.
-/
namespace FeatureSpec.Host

def compose? (a b : Char) : Option Char := do
  let (_, pairs) ← compositions.find? fun (mark, _) => mark == b.toNat
  let (_, whole) ← pairs.find? fun (first, _) => first == a.toNat
  return Char.ofNat whole

def parts? (c : Char) : Option (Char × Char) :=
  compositions.findSome? fun (mark, pairs) =>
    (pairs.find? fun (_, whole) => whole == c.toNat).map fun (first, _) =>
      (Char.ofNat first, Char.ofNat mark)

def takenApart : Nat → Char → List Char
  | 0, c => [c]
  | n + 1, c =>
    match parts? c with
    | some (a, b) => takenApart n a ++ [b]
    | none => [c]

def maxMarks : Nat := 4

/-- A character goes before marks of its own or a higher class. -/
def placeMark (c : Char) : List Char → List Char
  | [] => [c]
  | d :: rest =>
    if combiningClass d ≠ 0 ∧ combiningClass d < combiningClass c then d :: placeMark c rest
    else c :: d :: rest

def ordered (cs : List Char) : List Char := cs.foldr placeMark []

/-- Text that is composed up to a character that may still take marks, and the marks that it did
not take. The text and the marks are in reverse. -/
structure Composing where
  done : List Char := []
  base : Option Char := none
  marks : List Char := []
  deriving DecidableEq, Repr

namespace Composing

def flushed (s : Composing) : List Char := s.marks ++ s.base.toList ++ s.done

def add (s : Composing) (c : Char) : Composing :=
  let k := combiningClass c
  let blocked := s.marks.head?.any fun m => k ≤ combiningClass m
  match if blocked then none else s.base.bind fun b => compose? b c with
  | some whole => { s with base := some whole }
  | none =>
    if k = 0 then { done := s.flushed, base := some c }
    else { s with marks := c :: s.marks }

end Composing

def composed (cs : List Char) : List Char :=
  ((ordered (cs.flatMap (takenApart maxMarks))).foldl Composing.add {}).flushed.reverse

end FeatureSpec.Host
