/-
  WorkflowLint/LintRun.lean
  =========================
  **A lint run over several files.**

  A run lints files one after the other and tells what became of each.  A file that
  cannot be read or written does not stop it; any other error does, and so does a
  fault of telling, and what was done until then remains.  The totals of a run are
  the sums over its reports, and under strictness the warnings count as errors.
-/
import WorkflowLint.Host.Console
import WorkflowLint.Json.Export
import WorkflowLint.Workspace

namespace WorkflowLint

/-- What became of one file. -/
inductive FileOutcome where
  | linted (report : Report)
  | failed (failure : FileFailure)
deriving DecidableEq, Repr

namespace FileOutcome

/-- The report of a file that was linted. -/
def report? : FileOutcome → Option Report
  | .linted report => some report
  | .failed _ => none

/-- The failure of a file that was not. -/
def failure? : FileOutcome → Option FileFailure
  | .linted _ => none
  | .failed failure => some failure

end FileOutcome

/-- What stopped a run: linting a file, or telling what became of one. -/
inductive Stop where
  | lint (error : LintError)
  | console (fault : LibraryFault)
deriving DecidableEq, Repr

/-- The wording of what stopped a run. -/
def Stop.message : Stop → Text
  | .lint error => error.message
  | .console fault => fault.message

/-- The outcome of a run: what became of the files, what was printed about them, what
    stopped the run, and the files and the console as they are left. -/
structure LintRun (State : Type) where
  outcomes : List FileOutcome
  output : Text
  stopped : Option Stop
  files : FileSystem
  console : State
deriving DecidableEq, Repr

namespace LintRun

/-- Lints one file of a run.  Errors that concern one file only are failures. -/
def lintOne (workspace : Workspace) (fix : Bool) (fs : FileSystem) (path : Path) :
    Except LintError FileOutcome × FileSystem :=
  match workspace.displayPath fs path with
  | .error error => (.error error, fs)
  | .ok display =>
    match workspace.lintFile fs path fix with
    | (.ok report, fs) => (.ok (.linted report), fs)
    | (.error error, fs) =>
      if error.isFailure then (.ok (.failed ⟨display, error.message⟩), fs) else (.error error, fs)

/-- Lints files in order and tells what became of each. -/
def lintAll (workspace : Workspace) (fix : Bool) (console : Console)
    (describe : FileOutcome → List Console.Printable) (state : console.State) (fs : FileSystem) :
    List Path → LintRun console.State
  | [] => ⟨[], [], none, fs, state⟩
  | path :: rest =>
    match lintOne workspace fix fs path with
    | (.error error, fs) => ⟨[], [], some (.lint error), fs, state⟩
    | (.ok outcome, fs) =>
      match console.tell state (describe outcome) with
      | ⟨text, some fault, state⟩ => ⟨[outcome], text, some (.console fault), fs, state⟩
      | ⟨text, none, state⟩ =>
        let run := lintAll workspace fix console describe state fs rest
        { run with outcomes := outcome :: run.outcomes, output := text ++ run.output }

variable {State : Type}

/-- The reports of a run. -/
def reports (run : LintRun State) : List Report := run.outcomes.filterMap FileOutcome.report?

/-- The failures of a run. -/
def failures (run : LintRun State) : List FileFailure := run.outcomes.filterMap FileOutcome.failure?

/-- The number of errors in all reports. -/
def errors (run : LintRun State) : Int :=
  run.reports.foldr (fun report total => report.errors + total) 0

/-- The number of warnings in all reports. -/
def warnings (run : LintRun State) : Int :=
  run.reports.foldr (fun report total => report.warnings + total) 0

/-- A run in numbers. -/
def summary (run : LintRun State) (strict : Bool) : Summary :=
  { reports := run.reports
    failures := run.failures
    errors := if strict then run.errors + run.warnings else run.errors
    warnings := if strict then 0 else run.warnings
    strict := strict }

end LintRun

/-- How the command ends. -/
inductive ExitCode where
  | success
  | errors
  | noFiles
  | failures
deriving DecidableEq, Repr

/-- The number of an exit code. -/
def ExitCode.number : ExitCode → Nat
  | .success => 0
  | .errors => 1
  | .noFiles => 2
  | .failures => 3

/-- The exit code of a run that was not stopped. -/
def Summary.exitCode (summary : Summary) : ExitCode :=
  if !summary.failures.isEmpty then .failures
  else if 0 < summary.errors then .errors
  else .success

/-- The verdict on a run. -/
inductive Verdict where
  | fail
  | warn
  | pass
deriving DecidableEq, Repr

/-- The verdict that the totals of a run give. -/
def Summary.verdict (summary : Summary) : Verdict :=
  if 0 < summary.errors then .fail else if 0 < summary.warnings then .warn else .pass

end WorkflowLint
