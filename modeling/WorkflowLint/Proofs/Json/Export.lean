/-
  WorkflowLint/Proofs/Json/Export.lean
  ====================================
  **The JSON report loses nothing.**

  A report is printable ASCII, and whoever decodes it finds in it what was exported:
  the tool and the times, the totals, the findings of each file in their order, and the
  failures if there are any.  Reports that export different things are therefore
  different texts.

  The two times are floating-point numbers of any kind.  All that is known of them is
  that they are written as numbers that they are read back from, as the finite ones are.
-/
import WorkflowLint.Json.Export
import WorkflowLint.Number.Double
import WorkflowLint.Proofs.Json.Plain

namespace WorkflowLint

/-! ### What is exported -/

/-- A finding in a report. -/
structure ExportedFinding where
  level : Text
  message : Text
  line : Option Int
  fix : Option Text
  ruleId : Option Text
deriving DecidableEq, Repr

/-- The findings about a file in a report. -/
structure ExportedFile where
  file : Text
  errors : Int
  warnings : Int
  fixed : Bool
  messages : List ExportedFinding
deriving DecidableEq, Repr

/-- What a report says about the tool and the times. -/
structure ExportedMetadata (Value : Type) where
  tool : Text
  version : Text
  timestamp : Value
  duration : Value
deriving DecidableEq, Repr

/-- The totals in a report. -/
structure ExportedTotals where
  files : Int
  fixedFiles : Int
  errors : Int
  warnings : Int
  strict : Bool
deriving DecidableEq, Repr

/-- A report.  There is no list of failures if there are none. -/
structure ExportedRun (Value : Type) where
  metadata : ExportedMetadata Value
  totals : ExportedTotals
  results : List ExportedFile
  failures : Option (List FileFailure)
deriving DecidableEq, Repr

/-- What is exported of a finding. -/
def Diagnostic.exported (diagnostic : Diagnostic) : ExportedFinding where
  level := diagnostic.severity.name
  message := diagnostic.message
  line := diagnostic.line
  fix := diagnostic.fix
  ruleId := diagnostic.ruleId

/-- What is exported of the findings about a file. -/
def Report.exported (report : Report) : ExportedFile where
  file := report.file
  errors := report.errors
  warnings := report.warnings
  fixed := report.fixed
  messages := report.diagnostics.map Diagnostic.exported

/-- What is exported of a run. -/
def Summary.exported {Value : Type} (summary : Summary) (clock : Clock Value) :
    ExportedRun Value where
  metadata := ⟨toolName, toolVersion, clock.timestamp, clock.duration⟩
  totals :=
    { files := summary.reports.length
      fixedFiles := (summary.reports.filter Report.fixed).length
      errors := summary.errors
      warnings := summary.warnings
      strict := summary.strict }
  results := summary.reports.map Report.exported
  failures := if summary.failures = [] then none else some summary.failures

/-! ### Reading a report -/

namespace JsonValue

/-- The text that a value is. -/
def text? : JsonValue → Option Text
  | .str value => some value
  | _ => none

/-- The truth value that a value is. -/
def bool? : JsonValue → Option Bool
  | .bool value => some value
  | _ => none

/-- The integer that a value is, if it has neither a fraction nor an exponent. -/
def int? : JsonValue → Option Int
  | .number negative digits exponent =>
    if exponent = 0 then some (signed negative digits) else none
  | _ => none

/-- The floating-point number that is nearest to a value. -/
def float? (floats : FloatFormat) : JsonValue → Option floats.Value
  | .number negative digits exponent => some (floats.read negative digits exponent)
  | _ => none

/-- The values of an object that has these members and no others. -/
def fields? (keys : List Text) : JsonValue → Option (List JsonValue)
  | .object members =>
    if members.map Prod.fst = keys then some (members.map Prod.snd) else none
  | _ => none

variable {α : Type}

/-- A value that may be null. -/
def nullable? (read : JsonValue → Option α) : JsonValue → Option (Option α)
  | .null => some none
  | value => (read value).map some

/-- The items of an array. -/
def listOf? (read : JsonValue → Option α) : JsonValue → Option (List α)
  | .array values => values.mapM read
  | _ => none

end JsonValue

open JsonValue

/-- A finding as a report has it. -/
def ExportedFinding.ofValue? (value : JsonValue) : Option ExportedFinding :=
  match value.fields? ["level", "message", "line", "fix", "rule_id"] with
  | some [level, message, line, fix, ruleId] => do
    return ⟨← level.text?, ← message.text?, ← line.nullable? int?, ← fix.nullable? text?,
      ← ruleId.nullable? text?⟩
  | _ => none

/-- The findings about a file as a report has them. -/
def ExportedFile.ofValue? (value : JsonValue) : Option ExportedFile :=
  match value.fields? ["file", "errors", "warnings", "fixed", "messages"] with
  | some [file, errors, warnings, fixed, messages] => do
    return ⟨← file.text?, ← errors.int?, ← warnings.int?, ← fixed.bool?,
      ← messages.listOf? ExportedFinding.ofValue?⟩
  | _ => none

/-- A failure as a report has it. -/
def FileFailure.ofValue? (value : JsonValue) : Option FileFailure :=
  match value.fields? ["file", "error"] with
  | some [file, error] => do return ⟨← file.text?, ← error.text?⟩
  | _ => none

/-- The tool and the time as a report has them. -/
def ExportedMetadata.ofValue? (floats : FloatFormat) (value : JsonValue) :
    Option (ExportedMetadata floats.Value) :=
  match value.fields? ["tool", "version", "timestamp", "duration_seconds"] with
  | some [tool, version, timestamp, duration] => do
    return ⟨← tool.text?, ← version.text?, ← timestamp.float? floats, ← duration.float? floats⟩
  | _ => none

/-- The totals as a report has them. -/
def ExportedTotals.ofValue? (value : JsonValue) : Option ExportedTotals :=
  match value.fields? ["total_files", "fixed_files", "total_errors", "total_warnings",
    "strict"] with
  | some [files, fixedFiles, errors, warnings, strict] => do
    return ⟨← files.int?, ← fixedFiles.int?, ← errors.int?, ← warnings.int?, ← strict.bool?⟩
  | _ => none

namespace ExportedRun

variable (floats : FloatFormat)

/-- A report by its parts. -/
def ofParts? (metadata totals results : JsonValue) (failures : Option (List FileFailure)) :
    Option (ExportedRun floats.Value) := do
  return ⟨← ExportedMetadata.ofValue? floats metadata, ← ExportedTotals.ofValue? totals,
    ← results.listOf? ExportedFile.ofValue?, failures⟩

/-- A report, with or without a list of failures. -/
def ofValue? (value : JsonValue) : Option (ExportedRun floats.Value) :=
  match value.fields? ["metadata", "summary", "results"],
    value.fields? ["metadata", "summary", "results", "failures"] with
  | some [metadata, totals, results], _ => ofParts? floats metadata totals results none
  | _, some [metadata, totals, results, failures] =>
    (failures.listOf? FileFailure.ofValue?).bind fun failures =>
      ofParts? floats metadata totals results (some failures)
  | _, _ => none

end ExportedRun

/-! ### The times -/

/-- Whether a floating-point number is written as a number that it is read back from. -/
def FloatFormat.ReadsBack (floats : FloatFormat) (number : floats.Value) : Prop :=
  ∃ negative digits exponent,
    number? (floats.write number) = some (.number negative digits exponent, []) ∧
      floats.read negative digits exponent = number

/-- Whether both times are written as numbers that they are read back from. -/
structure Clock.ReadsBack {floats : FloatFormat} (clock : Clock floats.Value) : Prop where
  timestamp : floats.ReadsBack clock.timestamp
  duration : floats.ReadsBack clock.duration

section Times

variable {floats : FloatFormat} {number : floats.Value}

theorem FloatFormat.ReadsBack.numeric (h : floats.ReadsBack number) :
    Json.Numeric (.float (floats.write number)) := by
  obtain ⟨_, _, _, hnumber, -⟩ := h
  exact .float hnumber

theorem FloatFormat.ReadsBack.float?_value (h : floats.ReadsBack number) :
    (Json.float (floats.write number)).value.float? floats = some number := by
  obtain ⟨negative, digits, exponent, hnumber, hread⟩ := h
  rw [Json.value, hnumber]
  exact congrArg some hread

end Times

/-! ### All numbers in a report are numbers -/

theorem Json.Numeric.empty : Numeric (.object []) := .object (List.forall_mem_nil _)

theorem Json.Numeric.member {key : Text} {value : Json} {members : List (Text × Json)}
    (hvalue : Numeric value) (hmembers : Numeric (.object members)) :
    Numeric (.object ((key, value) :: members)) := by
  cases hmembers with
  | object hmembers => exact .object (List.forall_mem_cons.mpr ⟨hvalue, hmembers⟩)

theorem Json.numeric_ofOption {α : Type} {write : α → Json} (h : ∀ value, Numeric (write value))
    (value : Option α) : Numeric (ofOption write value) := by
  cases value with
  | none => exact .null
  | some value => exact h value

theorem Json.numeric_array_map {α : Type} {write : α → Json} (h : ∀ item, Numeric (write item))
    (items : List α) : Numeric (.array (items.map write)) := by
  refine .array fun json hjson => ?_
  obtain ⟨item, -, rfl⟩ := List.mem_map.mp hjson
  exact h item

theorem Diagnostic.numeric_toJson (diagnostic : Diagnostic) : diagnostic.toJson.Numeric := by
  have hline := Json.numeric_ofOption .int diagnostic.line
  have hfix := Json.numeric_ofOption .str diagnostic.fix
  have hrule := Json.numeric_ofOption .str diagnostic.ruleId
  exact .member (.str _) (.member (.str _) (.member hline (.member hfix (.member hrule .empty))))

theorem Report.numeric_toJson (report : Report) : report.toJson.Numeric := by
  have hmessages := Json.numeric_array_map Diagnostic.numeric_toJson report.diagnostics
  exact .member (.str _) (.member (.int _) (.member (.int _) (.member (.bool _)
    (.member hmessages .empty))))

theorem FileFailure.numeric_toJson (failure : FileFailure) : failure.toJson.Numeric :=
  .member (.str _) (.member (.str _) .empty)

namespace Summary

variable {floats : FloatFormat} {clock : Clock floats.Value}

theorem numeric_metadata (hclock : clock.ReadsBack) : (metadata floats clock).Numeric :=
  .member (.str _) (.member (.str _) (.member hclock.timestamp.numeric
    (.member hclock.duration.numeric .empty)))

theorem numeric_totals (summary : Summary) : summary.totals.Numeric :=
  .member (.int _) (.member (.int _) (.member (.int _) (.member (.int _)
    (.member (.bool _) .empty))))

theorem numeric_failureMembers (summary : Summary) :
    (Json.object summary.failureMembers).Numeric := by
  rw [failureMembers]
  split
  · exact .empty
  · exact .member (Json.numeric_array_map FileFailure.numeric_toJson summary.failures) .empty

theorem numeric_toJson (summary : Summary) (hclock : clock.ReadsBack) :
    (summary.toJson floats clock).Numeric := by
  have hresults := Json.numeric_array_map Report.numeric_toJson summary.reports
  exact .member (numeric_metadata hclock) (.member summary.numeric_totals
    (.member hresults summary.numeric_failureMembers))

end Summary

/-! ### What is written is read -/

theorem int?_intValue (value : Int) : (Json.intValue value).int? = some value := by
  rw [Json.intValue, int?, if_pos rfl, signed, Option.some_inj]
  by_cases h : value < 0
  · rw [decide_eq_true h, if_pos rfl, Int.ofNat_natAbs_of_nonpos (Int.le_of_lt h), Int.neg_neg]
  · rw [decide_eq_false h, if_neg Bool.false_ne_true, Int.natAbs_of_nonneg (Int.not_lt.mp h)]

/-- Items are read one after the other. -/
theorem listOf?_map {α β : Type} {read : JsonValue → Option β} {write : α → Json}
    {exported : α → β} (h : ∀ item, read (write item).value = some (exported item))
    (items : List α) :
    (Json.array (items.map write)).value.listOf? read = some (items.map exported) := by
  rw [Json.value, Json.values_eq_map, listOf?]
  induction items with
  | nil => rfl
  | cons item items ih =>
    rw [List.map_cons, List.map_cons, List.mapM_cons, h, ih]
    rfl

/-- A value that may be null is read as it was written, unless it is written as null. -/
theorem nullable?_ofOption {α : Type} {read : JsonValue → Option α} {write : α → Json}
    (hnull : ∀ value, nullable? read (write value).value = (read (write value).value).map some)
    (h : ∀ value, read (write value).value = some value) (value : Option α) :
    (Json.ofOption write value).value.nullable? read = some value := by
  cases value with
  | none => rfl
  | some value => rw [Json.ofOption, hnull, h, Option.map_some]

theorem Diagnostic.ofValue?_toJson (diagnostic : Diagnostic) :
    ExportedFinding.ofValue? diagnostic.toJson.value = some diagnostic.exported := by
  have hfields : diagnostic.toJson.value.fields? ["level", "message", "line", "fix",
      "rule_id"] = some [.str diagnostic.severity.name, .str diagnostic.message,
        (Json.ofOption .int diagnostic.line).value, (Json.ofOption .str diagnostic.fix).value,
        (Json.ofOption .str diagnostic.ruleId).value] := rfl
  rw [ExportedFinding.ofValue?, hfields]
  simp only
  rw [nullable?_ofOption (fun _ => rfl) int?_intValue,
    nullable?_ofOption (fun _ => rfl) (fun _ => rfl),
    nullable?_ofOption (fun _ => rfl) (fun _ => rfl)]
  rfl

theorem Report.ofValue?_toJson (report : Report) :
    ExportedFile.ofValue? report.toJson.value = some report.exported := by
  have hfields : report.toJson.value.fields? ["file", "errors", "warnings", "fixed",
      "messages"] = some [.str report.file, Json.intValue report.errors,
        Json.intValue report.warnings, .bool report.fixed,
        (Json.array (report.diagnostics.map Diagnostic.toJson)).value] := rfl
  have hmessages := listOf?_map Diagnostic.ofValue?_toJson report.diagnostics
  rw [ExportedFile.ofValue?, hfields]
  simp only
  rw [hmessages, int?_intValue, int?_intValue]
  rfl

theorem FileFailure.ofValue?_toJson (failure : FileFailure) :
    FileFailure.ofValue? failure.toJson.value = some failure := rfl

namespace Summary

variable {floats : FloatFormat} {clock : Clock floats.Value}

theorem ofValue?_metadata (hclock : clock.ReadsBack) :
    ExportedMetadata.ofValue? floats (metadata floats clock).value =
      some ⟨toolName, toolVersion, clock.timestamp, clock.duration⟩ := by
  have hfields : (metadata floats clock).value.fields? ["tool", "version", "timestamp",
      "duration_seconds"] = some [.str toolName, .str toolVersion,
        (Json.float (floats.write clock.timestamp)).value,
        (Json.float (floats.write clock.duration)).value] := rfl
  rw [ExportedMetadata.ofValue?, hfields]
  simp only
  rw [hclock.timestamp.float?_value, hclock.duration.float?_value]
  rfl

theorem ofValue?_totals (summary : Summary) :
    ExportedTotals.ofValue? summary.totals.value =
      some ⟨summary.reports.length, (summary.reports.filter Report.fixed).length, summary.errors,
        summary.warnings, summary.strict⟩ := by
  have hfields : summary.totals.value.fields? ["total_files", "fixed_files", "total_errors",
      "total_warnings", "strict"] = some [Json.intValue summary.reports.length,
        Json.intValue summary.fixedFiles, Json.intValue summary.errors,
        Json.intValue summary.warnings, .bool summary.strict] := rfl
  rw [ExportedTotals.ofValue?, hfields]
  simp only [int?_intValue]
  rw [fixedFiles, List.countP_eq_length_filter]
  rfl

/-- The parts of a report are read, with the failures that were read beside them. -/
theorem ofParts?_toJson (summary : Summary) (hclock : clock.ReadsBack)
    (failures : Option (List FileFailure)) :
    ExportedRun.ofParts? floats (metadata floats clock).value summary.totals.value
      (Json.array (summary.reports.map Report.toJson)).value failures =
        some {summary.exported clock with failures } := by
  rw [ExportedRun.ofParts?, ofValue?_metadata hclock, ofValue?_totals,
    listOf?_map Report.ofValue?_toJson]
  rfl

theorem ofValue?_toJson (summary : Summary) (hclock : clock.ReadsBack) :
    ExportedRun.ofValue? floats (summary.toJson floats clock).value =
      some (summary.exported clock) := by
  have hparts := summary.ofParts?_toJson hclock
  rw [ExportedRun.ofValue?, toJson, failureMembers, exported]
  cases summary.failures with
  | nil => exact hparts none
  | cons failure failures =>
    have hfailures := listOf?_map FileFailure.ofValue?_toJson (failure :: failures)
    rw [List.map_id'] at hfailures
    refine (congrArg (Option.bind · _) hfailures).trans ?_
    exact hparts (some (failure :: failures))

/-- The report is printable ASCII, decoding it gives what was exported, and so no two
    runs that export different things have the same report. -/
theorem exportText_lossless (summary : Summary) (floats : FloatFormat)
    (clock : Clock floats.Value) (hclock : clock.ReadsBack) :
    Json.Plain (summary.exportText floats clock) ∧
      (decode? (summary.exportText floats clock)).bind (ExportedRun.ofValue? floats) =
        some (summary.exported clock) ∧
      ∀ (other : Summary) (otherClock : Clock floats.Value), otherClock.ReadsBack →
        summary.exported clock ≠ other.exported otherClock →
          summary.exportText floats clock ≠ other.exportText floats otherClock := by
  have hread (summary : Summary) {clock : Clock floats.Value} (hclock : clock.ReadsBack) :
      (decode? (summary.exportText floats clock)).bind (ExportedRun.ofValue? floats) =
        some (summary.exported clock) := by
    rw [exportText, Json.decode?_pretty (summary.numeric_toJson hclock), Option.bind_some,
      ofValue?_toJson summary hclock]
  refine ⟨Json.plain_pretty (summary.numeric_toJson hclock) 0, hread summary hclock,
    fun other otherClock hother hne heq => hne ?_⟩
  have hexported := hread other hother
  rw [← heq, hread summary hclock] at hexported
  exact Option.some_inj.mp hexported

/-- A warning whose message has to be escaped, and times of seventeen and of two digits. -/
theorem exportText_lossless_escaped :
    let clock : Clock Double.format.Value :=
      ⟨.ofDecimal false 17529385201234567 (-7), .ofDecimal false 25 (-2)⟩
    let finding : Diagnostic := { severity := .warning, message := "\"é\n😀\\" }
    let summary : Summary :=
      { reports := [.ofDiagnostics "a.yml" [finding] false], failures := [⟨"b.yml", "gone"⟩]
        errors := 0, warnings := 1, strict := false }
    clock.ReadsBack ∧
      (decode? (summary.exportText Double.format clock)).bind
        (ExportedRun.ofValue? Double.format) = some (summary.exported clock) := by
  intro clock finding summary
  have hclock : clock.ReadsBack :=
    { timestamp := ⟨false, 17529385201234567, -7, rfl, rfl⟩
      duration := ⟨false, 25, -2, rfl, rfl⟩ }
  exact ⟨hclock, (exportText_lossless summary Double.format clock hclock).2.1⟩

end Summary

end WorkflowLint
