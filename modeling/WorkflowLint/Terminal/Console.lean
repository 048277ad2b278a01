/-
  WorkflowLint/Terminal/Console.lean
  ==================================
  **A console without colors.**

  The console on which the command runs: markup is shown without a trace of its
  styles, tables and panels are laid out with spaces and strokes, and every line ends
  with a line feed.
-/
import WorkflowLint.Host.Console
import WorkflowLint.Terminal.Markup
import WorkflowLint.Terminal.Table

namespace WorkflowLint.Terminal

open WorkflowLint.Console (Content Panel Printable)

/-! ### Faults -/

/-- The kind of a fault. -/
def MarkupFault.kind : MarkupFault → Text
  | .component _ => "ValueError"
  | _ => "MarkupError"

/-- A fault as others see it. -/
def MarkupFault.toLibrary (fault : MarkupFault) : LibraryFault := ⟨fault.kind, fault.message⟩

/-! ### Layout -/

/-- The cell of some markup. -/
def cellOf (markup : Text) : Except MarkupFault Cell := (render markup).map Text.lines

/-- The column of a table with some padding. -/
def columnOf (padding : Console.Padding) (column : Console.Column) : Column :=
  ⟨column.rightAligned, padding.left, padding.right, column.width⟩

/-- The rows of a table, with its header if it is shown. -/
def rowsOf (table : Console.Table) : List (List Text) :=
  if table.showHeader then table.columns.map Console.Column.header :: table.rows else table.rows

/-- The width of the widest line. -/
def widest (lines : List Text) : Nat := (lines.map width).foldl max 0

/-- The lines of a table, below its title. -/
def linesOfTable (table : Console.Table) : Except MarkupFault (List Text) := do
  let rows ← (rowsOf table).mapM fun row => row.mapM cellOf
  let lines := tableLines (table.columns.map (columnOf table.padding)) rows
  match table.title with
  | none => pure lines
  | some title => do
    let title ← render title
    pure (centered (widest lines) title :: lines)

/-- The lines of what stands in a panel. -/
def linesOfContent : Content → Except MarkupFault (List Text)
  | .markup text => cellOf text
  | .table table => linesOfTable table

/-- A stroke with a title in its middle. -/
def titleLine (room : Nat) (title : Text) : Text :=
  let excess := room - width title - 2
  List.replicate (excess / 2) '─' ++ [' '] ++ title ++ [' ']
    ++ List.replicate (excess - excess / 2) '─'

/-- A line of a panel between its borders. -/
def panelLine (padding : Console.Padding) (room : Nat) (line : Text) : Text :=
  ['│'] ++ fill ⟨false, padding.left, padding.right, none⟩ room line ++ ['│']

/-- The lines of a panel. -/
def linesOfPanel (panel : Panel) : Except MarkupFault (List Text) := do
  let lines ← linesOfContent panel.content
  let inner := widest lines
  let room := panel.padding.left + inner + panel.padding.right
  let top ←
    match panel.title with
    | none => pure (List.replicate room '─')
    | some title => (render title).map (titleLine room)
  pure ((['╭'] ++ top ++ ['╮']) :: lines.map (panelLine panel.padding inner)
    ++ [['╰'] ++ List.replicate room '─' ++ ['╯']])

/-! ### The console -/

/-- The text that is printed for something. -/
def print : Printable → Except MarkupFault Text
  | .blank => .ok ['\n']
  | .markup text => (render text).map (· ++ ['\n'])
  | .table table => (linesOfTable table).map unlines
  | .panel panel => (linesOfPanel panel).map unlines

/-- The console, which keeps nothing. -/
def console : Console where
  State := Unit
  start := ()
  escape := escape
  print _ printable := ((print printable).mapError MarkupFault.toLibrary, ())

instance : DecidableEq console.State := inferInstanceAs (DecidableEq Unit)

end WorkflowLint.Terminal
