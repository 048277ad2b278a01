/-
  WorkflowLint/Json/Export.lean
  =============================
  **The JSON report of a lint run.**

  The report names the tool, sums the run up, and lists the findings of every
  file; files that could not be read or written are listed if there are any.
-/
import WorkflowLint.Diagnostic
import WorkflowLint.Host.Float
import WorkflowLint.Json.Basic

namespace WorkflowLint

/-- A file that could not be read or written, and why. -/
structure FileFailure where
  file : Text
  error : Text
deriving DecidableEq, Repr

/-- The outcome of a lint run over several files.  Its totals are any integers here; a
    run counts them. -/
structure Summary where
  reports : List Report
  failures : List FileFailure
  errors : Int
  warnings : Int
  strict : Bool
deriving DecidableEq, Repr

/-- The name of the tool. -/
def toolName : Text := "pipelint"

/-- The version of the tool. -/
def toolVersion : Text := "0.1.0"

/-- A finding as it is exported. -/
def Diagnostic.toJson (diagnostic : Diagnostic) : Json :=
  .object
    [("level", .str diagnostic.severity.name),
     ("message", .str diagnostic.message),
     ("line", Json.ofOption .int diagnostic.line),
     ("fix", Json.ofOption .str diagnostic.fix),
     ("rule_id", Json.ofOption .str diagnostic.ruleId)]

/-- The findings about a file as they are exported. -/
def Report.toJson (report : Report) : Json :=
  .object
    [("file", .str report.file),
     ("errors", .int report.errors),
     ("warnings", .int report.warnings),
     ("fixed", .bool report.fixed),
     ("messages", .array (report.diagnostics.map Diagnostic.toJson))]

/-- A file failure as it is exported. -/
def FileFailure.toJson (failure : FileFailure) : Json :=
  .object [("file", .str failure.file), ("error", .str failure.error)]

namespace Summary

/-- The number of files that were fixed. -/
def fixedFiles (summary : Summary) : Nat := summary.reports.countP Report.fixed

/-- What the report says about the tool and the time. -/
def metadata (floats : FloatFormat) (clock : Clock floats.Value) : Json :=
  .object
    [("tool", .str toolName),
     ("version", .str toolVersion),
     ("timestamp", .float (floats.write clock.timestamp)),
     ("duration_seconds", .float (floats.write clock.duration))]

/-- The totals of a run. -/
def totals (summary : Summary) : Json :=
  .object
    [("total_files", .int summary.reports.length),
     ("fixed_files", .int summary.fixedFiles),
     ("total_errors", .int summary.errors),
     ("total_warnings", .int summary.warnings),
     ("strict", .bool summary.strict)]

/-- The member that lists the failures, if there are any. -/
def failureMembers (summary : Summary) : List (Text × Json) :=
  if summary.failures.isEmpty then []
  else [("failures", .array (summary.failures.map FileFailure.toJson))]

/-- The outcome of a run as it is exported. -/
def toJson (summary : Summary) (floats : FloatFormat) (clock : Clock floats.Value) : Json :=
  .object
    (("metadata", metadata floats clock) :: ("summary", summary.totals)
      :: ("results", .array (summary.reports.map Report.toJson)) :: summary.failureMembers)

/-- The text of the JSON report. -/
def exportText (summary : Summary) (floats : FloatFormat) (clock : Clock floats.Value) : Text :=
  (summary.toJson floats clock).pretty 0

end Summary

/-- The JSON text of a run that found no workflow at a path. -/
def noFilesText (path : Text) : Text :=
  Json.compact (.object [("error", .str "No workflow files found"), ("path", .str path)])

end WorkflowLint
