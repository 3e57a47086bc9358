import FeatureSpec.Text.Wrap
/-!
Tables for a terminal: a title over a box, a heavy frame around the headings and a light one
around the rows. A column is as wide as its widest cell, and a cell whose tabs make it wider than
that takes more than one line.
-/
namespace FeatureSpec

structure Table where
  title : String
  headings : List String
  rows : List (List String) := []
  deriving DecidableEq, Repr

namespace Table

structure Rule where
  left : String
  line : String
  crossing : String
  right : String

def topRule : Rule := ⟨"┏", "━", "┳", "┓"⟩

def headRule : Rule := ⟨"┡", "━", "╇", "┩"⟩

def bottomRule : Rule := ⟨"└", "─", "┴", "┘"⟩

def repeated (s : String) (n : Nat) : String := String.join (List.replicate n s)

def shown (s : String) : List Char := s.toList.filter fun c => !Text.isCommand c

def padded (width : Nat) (line : List Char) : List Char :=
  line ++ List.replicate (width - Text.columns line) ' '

/-- The lines of a cell. A joiner at the end of a line takes the first blank of the padding along
with it, so that the line is padded once more. -/
def cellLines (width : Nat) (s : String) : List String :=
  (Text.wrap .ellipsis width (shown s)).map fun line =>
    String.ofList (padded width (padded width line))

def widths (t : Table) : List Nat :=
  t.headings.zipIdx.map fun (heading, i) =>
    Text.maximum ((heading :: t.rows.map fun row => row.getD i "").map fun cell =>
      Text.widest (shown cell))

def ruleLine (r : Rule) (ws : List Nat) : String :=
  r.left ++ r.crossing.intercalate (ws.map fun w => repeated r.line (w + 2)) ++ r.right

def rowLines (bar : String) (ws : List Nat) (cells : List String) : List String :=
  let columns := (ws.zip cells).map fun (w, cell) => (w, cellLines w cell)
  let height := Text.maximum (columns.map fun (_, lines) => lines.length)
  (List.range height).map fun i =>
    let parts := columns.map fun (w, lines) => " " ++ lines.getD i (repeated " " w) ++ " "
    bar ++ bar.intercalate parts ++ bar

/-- A text in the middle of a line, to the left where it cannot be. -/
def centered (width : Nat) (s : String) : String :=
  let slack := width - Text.width s
  repeated " " (slack / 2) ++ s ++ repeated " " (slack - slack / 2)

def lines (t : Table) : List String :=
  let ws := t.widths
  let width := ws.foldl (fun n w => n + (w + 3)) 1
  [centered width t.title, ruleLine topRule ws] ++
  rowLines "┃" ws t.headings ++
  [ruleLine headRule ws] ++
  t.rows.flatMap (rowLines "│" ws) ++
  [ruleLine bottomRule ws]

end Table
end FeatureSpec
