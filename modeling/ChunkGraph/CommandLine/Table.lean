import ChunkGraph.Text.Lines
import ChunkGraph.Text.Wrap

/-!
# Tables

A table has a title, a head and rows. A column is as wide as its widest line,
where every kind of line break counts; but a cell is shown line by line only as
line feeds and wrapping ask for, and what does not fit is cut off. The title is
wrapped to the width of the whole table.

## Main definitions

* `Table` — tables.
* `Table.columnWidths`, `Table.width` — how wide they are.
* `Table.rows` — the rows in which they are shown, the title and the head included.
-/

namespace ChunkGraph.CommandLine

open Text (Overflow)

/-- A table; its rows are as long as its head. -/
structure Table where
  /-- The title. -/
  title : String
  /-- The names of the columns. -/
  head : List String
  /-- The cells, row by row. -/
  cells : List (List String)
  deriving DecidableEq, Repr

namespace Table

/-- The greatest of some numbers. -/
def greatest (numbers : List Nat) : Nat := numbers.foldl max 0

/-- The width that a cell asks for. -/
def cellWidth (cell : String) : Nat :=
  greatest ((Text.splitLines cell.toList).map Text.width)

/-- The width of each column. -/
def columnWidths (t : Table) : List Nat :=
  (t.head :: t.cells).foldl
    (fun widths row => List.zipWith max widths (row.map cellWidth))
    (t.head.map fun _ => 0)

/-- The width of the table: each column with a blank on both sides, and lines around them. -/
def width (t : Table) : Nat :=
  t.columnWidths.foldl (fun total column => total + column + 3) 1

/-- The lines of a text in a width. -/
def linesOf (limit : Nat) (overflow : Overflow) (text : String) : List String :=
  ((Text.splitOn '\n' text.toList).flatMap (Text.wrapLine limit overflow)).map String.ofList

/-- The rows that cells take: as many as the lines of the longest cell. -/
def rowsOf (widths : List Nat) (cells : List String) : List (List String) :=
  let columns := List.zipWith (fun limit cell => linesOf limit .mark cell) widths cells
  (List.range (greatest (columns.map List.length))).map fun i =>
    columns.map fun lines => (lines[i]?).getD ""

/-- The rows in which the table is shown. -/
def rows (t : Table) : List (List String) :=
  (linesOf t.width .fold t.title).map (fun line => [line]) ++
    (t.head :: t.cells).flatMap (rowsOf t.columnWidths)

end Table

end ChunkGraph.CommandLine
