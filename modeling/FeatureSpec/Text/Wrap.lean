import FeatureSpec.Text.Blank
import FeatureSpec.Text.Cluster
/-!
Lines of a text that fit into some columns of a terminal: tabs become blanks, and a line breaks
between words.
-/
namespace FeatureSpec.Text

inductive Overflow where
  | fold
  | ellipsis
  deriving DecidableEq, Repr

/-- Characters that a terminal would act upon: bell, backspace, vertical tab, form feed and
carriage return. -/
def isCommand (c : Char) : Bool :=
  let n := c.toNat
  n == 7 || n == 8 || (11 ≤ n && n ≤ 13)

def isLineEnd (c : Char) : Bool :=
  let n := c.toNat
  (10 ≤ n && n ≤ 13) || (0x1C ≤ n && n ≤ 0x1E) || n == 0x85 || n == 0x2028 || n == 0x2029

def maximum (ns : List Nat) : Nat := ns.foldl max 0

def widest (cs : List Char) : Nat := maximum ((cs.splitOnP isLineEnd).map columns)

/-- A line with blanks for its tabs. A tab is at least one blank, and more up to the next multiple
of eight columns. The characters since the last tab stand in `part`, the last one first. -/
def expandTabsAfter (position : Nat) (part : List Char) : List Char → List Char
  | [] => part.reverse
  | c :: rest =>
    if c = '\t' then
      let part := part.reverse ++ [' ']
      let position := position + columns part
      let blanks := (8 - position % 8) % 8
      part ++ List.replicate blanks ' ' ++ expandTabsAfter (position + blanks) [] rest
    else expandTabsAfter position (c :: part) rest

def expandTabs (line : List Char) : List Char := expandTabsAfter 0 [] line

/-- The words of a line, each with the blanks after it, the first also with those before it. -/
def wordsAfter (word : List Char) (begun : Bool) : List Char → List (List Char)
  | [] => [word.reverse]
  | c :: rest =>
    if isBlank c then wordsAfter (c :: word) begun rest
    else if begun && word.head?.any isBlank then word.reverse :: wordsAfter [c] true rest
    else wordsAfter (c :: word) true rest

def words (line : List Char) : List (List Char) := wordsAfter [] false line

def trimEnd (cs : List Char) : List Char := (cs.reverse.dropWhile isBlank).reverse

structure Wrapping where
  full : List (List Char) := []
  line : List Char := []
  used : Nat := 0
  deriving DecidableEq, Repr

namespace Wrapping

def fresh (w : Wrapping) (cs : List Char) : Wrapping :=
  ⟨if w.line.isEmpty then w.full else w.line :: w.full, cs, columns cs⟩

/-- A word goes into the line if it fits there without the blanks after it. -/
def add (overflow : Overflow) (width : Nat) (w : Wrapping) (word : List Char) : Wrapping :=
  let size := columns (trimEnd word)
  if w.used + size ≤ width then
    { w with line := w.line ++ word, used := w.used + columns word }
  else if overflow = .fold ∧ width < size then
    (Cluster.pieces width word).foldl fresh w
  else w.fresh word

def lines (w : Wrapping) : List (List Char) := (w.line :: w.full).reverse

end Wrapping

def dropExcess (size : Nat) (line : List Char) : List Char :=
  let blanks := (line.reverse.takeWhile isBlank).length
  line.take (line.length - min blanks (line.length - size))

def shorten (overflow : Overflow) (width : Nat) (line : List Char) : List Char :=
  if columns line ≤ width then line
  else
    match overflow with
    | .fold => Cluster.crop width (Cluster.split line)
    | .ellipsis => Cluster.crop (width - 1) (Cluster.split line) ++ ['…']

def wrap (overflow : Overflow) (width : Nat) (cs : List Char) : List (List Char) :=
  (cs.splitOn '\n').flatMap fun line =>
    let wrapping := (words (expandTabs line)).foldl (Wrapping.add overflow width) {}
    wrapping.lines.map fun line => shorten overflow width (dropExcess width line)

end FeatureSpec.Text
