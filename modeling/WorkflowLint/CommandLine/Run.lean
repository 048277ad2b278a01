/-
  WorkflowLint/CommandLine/Run.lean
  =================================
  **The command.**

  The command reads its arguments and then tells the version, the help or the
  rules, or lints the files that its path stands for in the current directory.
  What it prints, how it ends and how it leaves the files is its outcome.

  Printing may fail.  While files are linted this is an error like any other: it is
  told, as far as that can be printed, and ends the run.  A fault outside of linting,
  or of telling an error, ends the process.
-/
import WorkflowLint.CommandLine.Option
import WorkflowLint.Console.Page
import WorkflowLint.Console.Report

namespace WorkflowLint.CommandLine

open WorkflowLint.Console (Printable)

/-- The outcome of the command: how it ends, what it prints, the files as it leaves
    them, and the fault that ended the process, if one did. -/
structure Outcome where
  exitCode : Nat
  output : Text
  files : FileSystem
  fault : Option LibraryFault
deriving DecidableEq, Repr

/-- The outcome of printing something at the end.  A fault ends the process, which then
    ends with an error. -/
def conclude {State : Type} (fs : FileSystem) (exitCode : Nat) (telling : Telling State) :
    Outcome :=
  ⟨if telling.fault.isSome then ExitCode.errors.number else exitCode, telling.text, fs,
    telling.fault⟩

/-! ### Arguments that are left over -/

/-- What is printed if arguments are left over.  They are not escaped. -/
def leftOverPage (leftOver : List Text) : List Printable :=
  .markup ("[red]Error: Unrecognized arguments: " ++ Text.quotedList leftOver ++ "[/red]")
    :: Console.help

/-! ### Linting -/

/-- What is said on the console, where nothing is said if a JSON report is asked for. -/
def unlessJson (json : Bool) (printables : List Printable) : List Printable :=
  if json then [] else printables

/-- The outcome of an error that is told after some output. -/
def refuse (host : Host) (state : host.console.State) (fs : FileSystem) (output message : Text) :
    Outcome :=
  let telling := host.console.tell state [Console.fatalLine message]
  ⟨ExitCode.errors.number, output ++ telling.text, fs, telling.fault⟩

/-- The outcome of linting that ends with something being printed.  A fault is told. -/
def finish (host : Host) (fs : FileSystem) (exitCode : ExitCode) (output : Text)
    (telling : Telling host.console.State) : Outcome :=
  match telling.fault with
  | some fault => refuse host telling.console fs (output ++ telling.text) fault.message
  | none => ⟨exitCode.number, output ++ telling.text, fs, none⟩

/-- The JSON text of a run that was not stopped. -/
def jsonText (host : Host) (clock : Clock host.floats.Value) (summary : Summary) : Text :=
  summary.exportText host.floats clock ++ ['\n']

/-- The outcome if a path stands for no files. -/
def noFiles (host : Host) (fs : FileSystem) (json : Bool) (target : Text) : Outcome :=
  finish host fs .noFiles []
    (if json then ⟨noFilesText target ++ ['\n'], none, host.console.start⟩
      else host.console.tell host.console.start (host.console.noFilesBlock target))

/-- The run over files, each of which is told about. -/
def lintRun (host : Host) (state : host.console.State) (workspace : Workspace) (fs : FileSystem)
    (json fix : Bool) (paths : List Path) : LintRun host.console.State :=
  LintRun.lintAll workspace fix host.console
    (fun outcome => unlessJson json (host.console.outcomeBlock outcome)) state fs paths

/-- What is printed at the end of a run that was not stopped. -/
def tellSummary (host : Host) (clock : Clock host.floats.Value) (state : host.console.State)
    (json : Bool) (summary : Summary) : Telling host.console.State :=
  if json then ⟨jsonText host clock summary, none, state⟩
  else host.console.tell state (Console.verdictBlock summary)

/-- The outcome of linting files. -/
def lintPaths (host : Host) (clock : Clock host.floats.Value) (workspace : Workspace)
    (fs : FileSystem) (json fix : Bool) (paths : List Path) : Outcome :=
  match host.console.tell host.console.start (unlessJson json [Console.header paths.length]) with
  | ⟨header, some fault, state⟩ => refuse host state fs header fault.message
  | ⟨header, none, state⟩ =>
    let run := lintRun host state workspace fs json fix paths
    let output := header ++ run.output
    match run.stopped with
    | some stop => refuse host run.console run.files output stop.message
    | none =>
      let summary := run.summary workspace.strict
      finish host run.files summary.exitCode output
        (tellSummary host clock run.console json summary)

/-- The outcome of linting what a path stands for. -/
def lintTarget (host : Host) (clock : Clock host.floats.Value) (fs : FileSystem)
    (arguments : Arguments) : Outcome :=
  let json := arguments.has .json
  let strict := if arguments.has .strict then some true else none
  match Workspace.load host.yaml fs (Path.ofText ".") strict with
  | .error error => refuse host host.console.start fs [] error.message
  | .ok workspace =>
    match workspace.discover fs (Path.ofText arguments.target) with
    | .error error => refuse host host.console.start fs [] error.message
    | .ok [] => noFiles host fs json arguments.target
    | .ok paths => lintPaths host clock workspace fs json (arguments.has .fix) paths

/-! ### The command -/

/-- The exit code of a command whose arguments cannot be read. -/
def usageExitCode : Nat := 2

/-- The outcome of a command whose arguments have been read. -/
def perform (host : Host) (clock : Clock host.floats.Value) (fs : FileSystem)
    (arguments : Arguments) : Outcome :=
  let page (exitCode : ExitCode) (printables : List Printable) : Outcome :=
    conclude fs exitCode.number (host.console.tell host.console.start printables)
  if !arguments.leftOver.isEmpty then page .errors (leftOverPage arguments.leftOver)
  else if arguments.has .version then page .success (Console.version host.platform)
  else if arguments.has .help then page .success Console.help
  else if arguments.has .listRules then
    page .success [.table (host.console.ruleTable Rule.all)]
  else lintTarget host clock fs arguments

/-- The outcome of the command in a file system. -/
def run (host : Host) (clock : Clock host.floats.Value) (fs : FileSystem) (texts : List Text) :
    Outcome :=
  match Arguments.read texts with
  | .error _ => ⟨usageExitCode, [], fs, none⟩
  | .ok arguments => perform host clock fs arguments

end WorkflowLint.CommandLine
