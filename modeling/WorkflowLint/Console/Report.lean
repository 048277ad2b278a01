/-
  WorkflowLint/Console/Report.lean
  ================================
  **What a lint run says on the console.**

  A run starts with a line that counts the files.  Every file then has a block: its
  verdict and path, and a table of its findings with their fixes below them, or
  the reason why it could not be processed.  The run ends with its verdict.
-/
import WorkflowLint.Host.Console
import WorkflowLint.LintRun

namespace WorkflowLint.Console

variable (console : Console)

/-! ### One file -/

/-- The sign before the path of a report. -/
def icon (report : Report) : Text :=
  if report.errors ≠ 0 then "[red]✗[/red]"
  else if report.warnings ≠ 0 then "[yellow]⚠[/yellow]"
  else "[green]✓[/green]"

/-- The line with the path of a file. -/
def pathLine (sign path : Text) : Text :=
  "\n" ++ sign ++ " [bold]" ++ console.escape path ++ "[/bold]"

/-- The line of a finding. -/
def lineCell (diagnostic : Diagnostic) : Text :=
  match diagnostic.line with
  | none => []
  | some line => if line = 0 then [] else 'L' :: Text.ofInt line

/-- The severity of a finding. -/
def severityCell (diagnostic : Diagnostic) : Text :=
  if diagnostic.severity = .error then "[red]error[/red]" else "[yellow]warn[/yellow]"

/-- The message of a finding, followed by its fix unless the file has been fixed. -/
def messageCell (fixed : Bool) (diagnostic : Diagnostic) : Text :=
  match diagnostic.fix with
  | some fix =>
    if fixed then console.escape diagnostic.message
    else
      console.escape diagnostic.message ++ "\n[dim]fix: " ++ console.escape fix ++ "[/dim]"
  | none => console.escape diagnostic.message

/-- The columns of a table of findings. -/
def findingColumns : List Column :=
  [{ header := "Line", style := "dim", rightAligned := true, noWrap := true },
   { header := "Level", noWrap := true },
   { header := "Message" }]

/-- The table of the findings of a report. -/
def findingTable (report : Report) : Table :=
  { showHeader := false
    padding := ⟨0, 1, 0, 2⟩
    columns := findingColumns
    rows := report.diagnostics.map fun diagnostic =>
      [lineCell diagnostic, severityCell diagnostic,
       messageCell console report.fixed diagnostic] }

/-- The block of a report. -/
def reportBlock (report : Report) : List Printable :=
  .markup (pathLine console (icon report) report.file)
    :: (if report.fixed then [.markup "  [green](auto-fixed)[/green]"] else [])
    ++ [if report.isClean then .markup "  [green]No issues found[/green]"
        else .table (findingTable console report)]

/-- The block of a file that could not be processed. -/
def failureBlock (failure : FileFailure) : List Printable :=
  [.markup (pathLine console "[red]✗[/red]" failure.file),
   .markup ("  [bold red]Could not process file:[/bold red] " ++ console.escape failure.error)]

/-! ### The whole run -/

/-- The line that counts the files of a run. -/
def header (count : Nat) : Printable :=
  .markup ("\n[bold cyan]  pipelint[/bold cyan] [dim]Validating " ++ Text.ofNat count
    ++ " workflow file(s)[/dim]")

/-- The block of what became of a file. -/
def outcomeBlock : FileOutcome → List Printable
  | .linted report => reportBlock console report
  | .failed failure => failureBlock console failure

/-- The verdict on a run in words. -/
def verdictLine (summary : Summary) : Text :=
  match summary.verdict with
  | .fail =>
    "  [bold white on red] FAIL [/bold white on red] " ++ Text.ofInt summary.errors
      ++ " error(s), " ++ Text.ofInt summary.warnings ++ " warning(s)"
  | .warn =>
    "  [bold white on yellow] WARN [/bold white on yellow] " ++ Text.ofInt summary.warnings
      ++ " warning(s)"
  | .pass => "  [bold white on green] PASS [/bold white on green] All workflows valid"

/-- The verdict on a run between blank lines. -/
def verdictBlock (summary : Summary) : List Printable :=
  [.blank, .markup (verdictLine summary), .blank]

/-- What is said if no workflow was found at a path. -/
def noFilesBlock (path : Text) : List Printable :=
  [.markup ("\n[yellow]  No workflow files found at: " ++ console.escape path ++ "[/yellow]"),
   .markup "[dim]  Looking for .yml/.yaml files in .github/workflows/ or the given path[/dim]\n"]

/-- The line of an error that ends a run.  Its wording is not escaped. -/
def fatalLine (message : Text) : Printable :=
  .markup ("[bold red]Fatal Error:[/bold red] " ++ message)

end WorkflowLint.Console
