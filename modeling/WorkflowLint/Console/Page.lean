/-
  WorkflowLint/Console/Page.lean
  ==============================
  **Help, version and the list of rules.**
-/
import WorkflowLint.Host
import WorkflowLint.Json.Export
import WorkflowLint.Rule.Basic

namespace WorkflowLint.Console

/-! ### Help -/

/-- The banner of the help text. -/
def banner : List Printable :=
  [.markup [],
   .panel
    { borderStyle := "cyan"
      padding := ⟨0, 2, 0, 2⟩
      content := .markup
        ("[bold]   pipelint[/bold]\n"
          ++ "[dim italic]Offline GitHub Actions workflow linter[/dim italic]") }]

/-- The options with what they do. -/
def optionTable : Table :=
  { showHeader := false
    padding := ⟨0, 2, 0, 0⟩
    columns := [{ style := "yellow", width := some 18 }, { style := "dim white" }]
    rows :=
      [["--fix", "Auto-fix common issues (deprecated actions, tabs, whitespace)"],
       ["--strict", "Treat warnings as errors, check trailing whitespace"],
       ["--json", "Output results as JSON"],
       ["--list-rules", "List the active rules and exit"],
       ["--verbose", "Show discovery and pipeline logs"],
       ["-v, --version", "Display version information"],
       ["-h, --help", "Display usage information"]] }

/-- The help text. -/
def help : List Printable :=
  banner
    ++ [.markup
          "\n[bold green]USAGE:[/bold green] [bold white]pipelint [path][/bold white] [options]",
        .markup
          ("[dim]  path defaults to '.', searching .github/workflows/ and the directory itself"
            ++ "[/dim]"),
        .markup "\n[bold cyan]┌─ OPTIONS[/bold cyan]",
        .table optionTable,
        .markup "\n[bold cyan]┌─ EXAMPLES[/bold cyan]",
        .markup
          ("  [cyan]pipelint[/cyan]                          "
            ++ "[dim]# lint .github/workflows/[/dim]"),
        .markup "  [cyan]pipelint .github/workflows/ci.yml[/cyan] [dim]# lint one file[/dim]",
        .markup "  [cyan]pipelint . --fix[/cyan]                  [dim]# fix in place[/dim]",
        .markup "  [cyan]pipelint . --strict --json[/cyan]        [dim]# CI gate[/dim]\n"]

/-! ### Version -/

/-- What is said about the tool and the platform that it runs on. -/
def versionTable (platform : Platform) : Table :=
  { showHeader := false
    columns := [{ width := some 16 }, {}]
    rows :=
      [["Client Version:", "[bold white]" ++ toolVersion ++ "[/bold white]"],
       ["Platform:",
        platform.system ++ " " ++ platform.release ++ " (" ++ platform.machine ++ ")"],
       ["Runtime:", "Python " ++ platform.runtime]] }

/-- The version text. -/
def version (platform : Platform) : List Printable :=
  [.panel
    { title := some "[bold]pipelint[/bold]"
      borderStyle := "cyan"
      padding := ⟨0, 2, 0, 2⟩
      content := .table (versionTable platform) }]

/-! ### Rules -/

/-- The list of some rules. -/
def ruleTable (console : Console) (rules : List Rule) : Table :=
  { title := some "[bold cyan]Active Rules[/bold cyan]"
    headerStyle := "bold white"
    columns :=
      [{ header := "Rule", style := "cyan", noWrap := true },
       { header := "Stage", style := "magenta", noWrap := true },
       { header := "Checks" }]
    rows := rules.map fun rule => [rule.id, rule.stage.name, console.escape rule.description] }

end WorkflowLint.Console
