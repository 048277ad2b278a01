/-
  WorkflowLint/Terminal/Table.lean
  ================================
  **Tables.**

  A column of a table is as wide as its widest cell, or as wide as it is said to be.
  Cells may have several lines, which are broken further if they do not fit into the
  column; a row is as high as its highest cell, and every line of it is filled up with
  spaces.
-/
import WorkflowLint.Terminal.Wrap

namespace WorkflowLint.Terminal

/-- How a column is aligned, the spaces around its cells, and its width if that is
    given. -/
structure Column where
  rightAligned : Bool
  left : Nat
  right : Nat
  width : Option Nat
deriving DecidableEq, Repr

/-- A cell by its lines. -/
abbrev Cell := List Text

/-- Several spaces. -/
def spaces (count : Nat) : Text := List.replicate count ' '

/-- The room that a cell takes. -/
def cellWidth (cell : Cell) : Nat := (cell.map lineRoom).foldl max 0

/-- The room that each column takes. -/
def columnWidths (columns : List Column) (rows : List (List Cell)) : List Nat :=
  columns.mapIdx fun i column =>
    column.width.getD ((rows.map fun row => cellWidth (row.getD i [])).foldl max 0)

/-- A line of a cell filled up to the width of its column. -/
def fill (column : Column) (room : Nat) (text : Text) : Text :=
  let gap := spaces (room - width text)
  spaces column.left ++ (if column.rightAligned then gap ++ text else text ++ gap)
    ++ spaces column.right

/-- One line of a row. -/
def rowLine (columns : List Column) (widths : List Nat) (row : List Cell) (index : Nat) : Text :=
  ((columns.zip widths).zip row).flatMap fun ((column, room), cell) =>
    fill column room (cell.getD index [])

/-- The lines of a row. -/
def rowLines (columns : List Column) (widths : List Nat) (row : List Cell) : List Text :=
  let row := (row.zip widths).map fun (cell, room) => cell.flatMap (breakLine room)
  (List.range ((row.map List.length).foldl max 1)).map (rowLine columns widths row)

/-- The lines of a table. -/
def tableLines (columns : List Column) (rows : List (List Cell)) : List Text :=
  rows.flatMap (rowLines columns (columnWidths columns rows))

/-- Lines, each of which ends with a line feed. -/
def unlines (lines : List Text) : Text := lines.flatMap fun line => line ++ ['\n']

/-- A line in the middle of a given room. -/
def centered (room : Nat) (text : Text) : Text :=
  let excess := room - width text
  spaces (excess / 2) ++ text ++ spaces (excess - excess / 2)

end WorkflowLint.Terminal
