import Catalogue.Text.Lines
import Catalogue.Text.Width

/-!
# Grids

Rows of cells are drawn in columns as wide as their widest line, with a rule around the grid and one
under the first row.
-/

namespace Catalogue.Text

/-- A cell: its lines, and whether they stand at the right of their column. -/
structure Cell where
  lines : List (List Char)
  isRight : Bool

/-- A cell with a text. -/
def Cell.ofText (isRight : Bool) (text : String) : Cell :=
  let (first, rest) := splitLines text.toList
  ⟨first :: rest, isRight⟩

/-- The width of a cell. -/
def Cell.width (c : Cell) : Nat := (c.lines.map Text.width).foldl max 0

/-- The greater of each two widths. -/
def widest : List Nat → List Nat → List Nat
  | a :: as, b :: bs => max a b :: widest as bs
  | as, [] => as
  | [], bs => bs

/-- The widths of the columns of rows. -/
def columnWidths (rows : List (List Cell)) : List Nat :=
  (rows.map fun row => row.map Cell.width).foldl widest []

/-- A line of a cell in a column of some width, with a blank on either side. -/
def padded (isRight : Bool) (columns : Nat) (line : List Char) : List Char :=
  let blanks := List.replicate (columns - width line) ' '
  let filled := if isRight then blanks ++ line else line ++ blanks
  ' ' :: filled ++ [' ']

/-- Pieces between two edges, with a divider between each two. -/
def framed (left divider right : Char) (pieces : List (List Char)) : List Char :=
  left :: [divider].intercalate pieces ++ [right]

/-- A horizontal rule. -/
def rule (left stroke divider right : Char) (widths : List Nat) : List Char :=
  framed left divider right (widths.map fun columns => List.replicate (columns + 2) stroke)

/-- One line of a row. A cell without so many lines is blank there. -/
def rowLine (widths : List Nat) (row : List Cell) (line : Nat) : List Char :=
  framed '│' '┆' '│' ((row.zip widths).map fun (cell, columns) =>
    padded cell.isRight columns ((cell.lines[line]?).getD []))

/-- The lines of a row. -/
def rowLines (widths : List Nat) (row : List Cell) : List (List Char) :=
  let count := (row.map fun cell => cell.lines.length).foldl max 0
  (List.range count).map (rowLine widths row)

/-- The lines of a grid with a first row for the names of its columns. -/
def gridLines (header : List Cell) (rows : List (List Cell)) : List (List Char) :=
  let widths := columnWidths (header :: rows)
  [rule '┌' '─' '┬' '┐' widths] ++ rowLines widths header ++ [rule '╞' '═' '╪' '╡' widths] ++
    rows.flatMap (rowLines widths) ++ [rule '└' '─' '┴' '┘' widths]

end Catalogue.Text
