import Fixtures.Text.Pieces
import Fixtures.Text.Width

/-!
# Tables

A table has a header row and data rows. A cell is cut into lines at line breaks; a row is as high as
its highest cell and a column as wide as its widest line. Border lines stand before, between and
after all rows.
-/

namespace Fixtures

/-- A header and rows of cells, one cell for each column. -/
structure Table where
  /-- The titles of the columns. -/
  header : List String
  /-- The cells of each row. -/
  rows : List (List String)
  deriving DecidableEq, Repr

namespace Table

/-- The lines of a cell. A line break at the end adds an empty line. -/
def cellLines (cell : String) : List (List Char) := Text.pieces (· == '\n') cell.toList

/-- The columns that a cell needs. -/
def cellWidth (cell : String) : Nat := ((cellLines cell).map Text.width).foldl max 0

/-- The widths of the columns: the larger one at each position. -/
def widths (rows : List (List String)) : List Nat :=
  rows.foldl (fun acc row => acc.zipWith max (row.map cellWidth)) <|
    (rows.headD []).map fun _ => 0

/-- The line between two rows. -/
def border (columns : List Nat) : String :=
  columns.foldl (fun line n => line ++ String.ofList (List.replicate (n + 2) '-') ++ "+") "+"

/-- One line of a cell, filled to the width of its column. -/
def padded (columns : Nat) (line : List Char) : String :=
  " " ++ String.ofList (line ++ List.replicate (columns - Text.width line) ' ') ++ " |"

/-- The lines of a row. -/
def rowLines (columns : List Nat) (row : List String) : List String :=
  let cells := row.map cellLines
  let height := (cells.map List.length).foldl max 0
  (List.range height).map fun i =>
    (columns.zip cells).foldl (fun line cell => line ++ padded cell.1 (cell.2.getD i [])) "|"

/-- The lines of the whole table. -/
def lines (table : Table) : List String :=
  let rows := table.header :: table.rows
  let columns := widths rows
  border columns :: rows.flatMap fun row => rowLines columns row ++ [border columns]

/-- The table as text, without a line break at its end. -/
def render (table : Table) : String := "\n".intercalate table.lines

end Table

end Fixtures
