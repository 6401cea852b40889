import RowQuery.Text.Pieces
import RowQuery.Text.Width

/-!
# Box tables

`Table.render` draws a table of texts in a box: a header, a double rule, and rows with a dotted rule
between them. A column is as wide as its widest line, measured in the columns that a terminal gives
a text, but never without width, and a cell of several lines makes its row as high as it has lines.
-/

namespace RowQuery.Report

/-! ## Rules -/

/-- The characters of a horizontal rule. -/
structure Rule where
  left : Char
  fill : Char
  cross : Char
  right : Char

/-- The rule above the header. -/
def Rule.top : Rule := ⟨'┌', '─', '┬', '┐'⟩

/-- The rule below the header. -/
def Rule.underHeader : Rule := ⟨'╞', '═', '╪', '╡'⟩

/-- The rule between two rows. -/
def Rule.betweenRows : Rule := ⟨'├', '╌', '┼', '┤'⟩

/-- The rule below the last row. -/
def Rule.bottom : Rule := ⟨'└', '─', '┴', '┘'⟩

/-- A rule over columns of some widths, each with a blank on both sides. -/
def Rule.draw (rule : Rule) (widths : List Nat) : String :=
  let runs := widths.map fun width => List.replicate (width + 2) rule.fill
  String.ofList (rule.left :: ([rule.cross].intercalate runs ++ [rule.right]))

/-! ## Lines -/

/-- The lines of a cell. -/
def cellLines (cell : String) : List String := Text.piecesAt '\n' cell

/-- The number of columns of the widest line of a cell. -/
def cellWidth (cell : String) : Nat := ((cellLines cell).map Text.width).foldl max 0

/-- A text with blanks up to a width. -/
def padTo (width : Nat) (text : String) : String :=
  text ++ String.ofList (List.replicate (width - Text.width text) ' ')

/-- The line of a row that stands at a height: of every cell its line there, or blanks. -/
def rowLine (widths : List Nat) (cells : List (List String)) (height : Nat) : String :=
  let texts := (widths.zip cells).map fun (width, lines) =>
    " " ++ padTo width (lines[height]?.getD "") ++ " "
  "│" ++ "┆".intercalate texts ++ "│"

/-- The lines of a row. -/
def rowLines (widths : List Nat) (row : List String) : List String :=
  let cells := row.map cellLines
  let height := (cells.map List.length).foldl max 0
  (List.range height).map (rowLine widths cells)

/-! ## Tables -/

/-- A table of texts. -/
structure Table where
  /-- The heads of the columns. -/
  header : List String
  /-- The rows, with a cell for every column. -/
  rows : List (List String)

namespace Table

/-- The width of every column: that of its widest cell, and at least one. -/
def widths (table : Table) : List Nat :=
  (List.range table.header.length).map fun position =>
    ((table.header :: table.rows).map fun row => cellWidth (row[position]?.getD "")).foldl max 1

/-- The lines of a table. -/
def lines (table : Table) : List String :=
  let widths := table.widths
  [Rule.top.draw widths]
    ++ rowLines widths table.header
    ++ [Rule.underHeader.draw widths]
    ++ [Rule.betweenRows.draw widths].intercalate (table.rows.map (rowLines widths))
    ++ [Rule.bottom.draw widths]

/-- The text of a table. -/
def render (table : Table) : String := "\n".intercalate table.lines

end Table

end RowQuery.Report
