/-
  WorkflowLint/Diagnostic.lean
  ============================
  **Findings.**

  A diagnostic is one finding about a workflow.  It may carry a fix: the text
  that replaces its line, or, if it names a target, that replaces the first
  occurrence of the target on its line.
-/
import WorkflowLint.Text.Basic

namespace WorkflowLint

/-- How bad a finding is.  Rules report errors and warnings; findings from
    elsewhere may have a severity of another name, which is not counted. -/
inductive Severity where
  | error
  | warning
  | other (name : Text)
deriving DecidableEq, Repr

/-- The name of a severity. -/
def Severity.name : Severity → Text
  | .error => "error"
  | .warning => "warning"
  | .other name => name

/-- The severity of a name. -/
def Severity.ofName (name : Text) : Severity :=
  if name = "error" then .error else if name = "warning" then .warning else .other name

/-- One finding. -/
structure Diagnostic where
  severity : Severity
  message : Text
  line : Option Int := none
  fix : Option Text := none
  ruleId : Option Text := none
  target : Option Text := none
deriving DecidableEq, Repr

/-- Whether a finding can be fixed: it has a line and a fix. -/
def Diagnostic.isFixable (diagnostic : Diagnostic) : Bool :=
  diagnostic.line.isSome && diagnostic.fix.isSome

/-- The findings about one file, with the numbers of errors and of warnings. -/
structure Report where
  file : Text
  errors : Int
  warnings : Int
  diagnostics : List Diagnostic
  fixed : Bool
deriving DecidableEq, Repr

namespace Report

/-- The number of findings of a severity. -/
def count (severity : Severity) (diagnostics : List Diagnostic) : Nat :=
  diagnostics.countP fun diagnostic => diagnostic.severity = severity

/-- The report of some findings, which counts them. -/
def ofDiagnostics (file : Text) (diagnostics : List Diagnostic) (fixed : Bool) : Report :=
  ⟨file, count .error diagnostics, count .warning diagnostics, diagnostics, fixed⟩

@[simp] theorem file_ofDiagnostics (file : Text) (diagnostics : List Diagnostic) (fixed : Bool) :
    (ofDiagnostics file diagnostics fixed).file = file := rfl

@[simp] theorem diagnostics_ofDiagnostics (file : Text) (diagnostics : List Diagnostic)
    (fixed : Bool) : (ofDiagnostics file diagnostics fixed).diagnostics = diagnostics := rfl

@[simp] theorem fixed_ofDiagnostics (file : Text) (diagnostics : List Diagnostic)
    (fixed : Bool) : (ofDiagnostics file diagnostics fixed).fixed = fixed := rfl

/-- The findings that can be fixed, in order. -/
def fixable (report : Report) : List Diagnostic :=
  report.diagnostics.filter Diagnostic.isFixable

/-- Whether there are neither errors nor warnings. -/
def isClean (report : Report) : Bool := report.errors == 0 && report.warnings == 0

end Report

end WorkflowLint
