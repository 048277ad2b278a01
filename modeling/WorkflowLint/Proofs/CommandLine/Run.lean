/-
  WorkflowLint/Proofs/CommandLine/Run.lean
  ========================================
  **How a lint run ends.**

  A lint run finds different files and lints each as if it were the only one, so how it ends
  follows from the files alone (`run_separately`), if the configuration is in order and what
  became of the files can be told.  The verdict that is printed counts the findings only, while
  the exit code tells of files that could not be processed too (`run_verdict`).

  The library that reads configurations, the console and the floating-point numbers are those
  of any host.
-/
import WorkflowLint.CommandLine.Builtin
import WorkflowLint.Proofs.Terminal.Console
import WorkflowLint.Proofs.Workspace.Discovery

namespace WorkflowLint

/-! ### Totals -/

/-- What outcomes add up to: the sums over the reports, with the warnings moved into the errors
    under strictness. -/
def total (strict : Bool) (outcomes : List FileOutcome) : Summary :=
  let reports := outcomes.filterMap FileOutcome.report?
  let errors := (reports.map Report.errors).foldr (· + ·) 0
  let warnings := (reports.map Report.warnings).foldr (· + ·) 0
  { reports
    failures := outcomes.filterMap FileOutcome.failure?
    errors := if strict then errors + warnings else errors
    warnings := if strict then 0 else warnings
    strict }

theorem LintRun.summary_eq {State : Type} (run : LintRun State) (strict : Bool) :
    run.summary strict = total strict run.outcomes := by
  unfold summary total errors warnings
  simp only [List.foldr_map]
  rfl

/-- The number that a run over paths ends with. -/
def exitNumber (paths : List Path) (summary : Summary) : Nat :=
  if paths = [] then 2
  else if summary.failures ≠ [] then 3
  else if 0 < summary.errors then 1
  else 0

theorem exitNumber_eq {paths : List Path} (h : paths ≠ []) (summary : Summary) :
    summary.exitCode.number = exitNumber paths summary := by
  unfold Summary.exitCode exitNumber
  rw [if_neg h]
  cases hfailures : summary.failures with
  | nil => by_cases herrors : 0 < summary.errors <;> simp [herrors, ExitCode.number]
  | cons failure rest => simp [ExitCode.number]

namespace CommandLine

variable {host : Host} {clock : Clock host.floats.Value} {fs : FileSystem} {texts : List Text}
  {arguments : Arguments} {target : Text} {fix strict : Bool} {workspace : Workspace}
  {paths : List Path}

/-! ### Arguments -/

/-- Arguments that ask for linting a target and for nothing else. -/
structure Arguments.Lints (arguments : Arguments) (target : Text) (fix strict : Bool) : Prop where
  complete : arguments.leftOver = []
  version : arguments.has .version = false
  help : arguments.has .help = false
  listRules : arguments.has .listRules = false
  target_eq : arguments.target = target
  fix_eq : arguments.has .fix = fix
  strict_eq : arguments.has .strict = strict

theorem read_nil : Arguments.read [] = .ok Arguments.none := rfl

/-- Without arguments the current directory is linted. -/
theorem lints_none : Arguments.none.Lints "." false false :=
  ⟨rfl, rfl, rfl, rfl, rfl, rfl, rfl⟩

section Lints

variable (hread : Arguments.read texts = .ok arguments)
  (hlints : arguments.Lints target fix strict)

include hread hlints

theorem run_of_lints : run host clock fs texts = lintTarget host clock fs arguments := by
  unfold run perform
  simp [hread, hlints.complete, hlints.version, hlints.help, hlints.listRules]

theorem run_of_load_error {error : LintError}
    (hload : Workspace.load host.yaml fs (Path.ofText ".") (if strict then some true else none) =
      .error error) :
    run host clock fs texts = refuse host host.console.start fs [] error.message := by
  rw [run_of_lints hread hlints]
  unfold lintTarget
  simp only [hlints.strict_eq, hload]

variable
  (hload : Workspace.load host.yaml fs (Path.ofText ".") (if strict then some true else none) =
    .ok workspace)

include hload

theorem run_of_discover_error {error : LintError}
    (hdiscover : workspace.discover fs (Path.ofText target) = .error error) :
    run host clock fs texts = refuse host host.console.start fs [] error.message := by
  rw [run_of_lints hread hlints]
  unfold lintTarget
  simp only [hlints.strict_eq, hload, hlints.target_eq, hdiscover]

theorem run_of_nil (hdiscover : workspace.discover fs (Path.ofText target) = .ok []) :
    run host clock fs texts = noFiles host fs (arguments.has .json) target := by
  rw [run_of_lints hread hlints]
  unfold lintTarget
  simp only [hlints.strict_eq, hload, hlints.target_eq, hdiscover]

theorem run_of_paths (hdiscover : workspace.discover fs (Path.ofText target) = .ok paths)
    (hpaths : paths ≠ []) :
    run host clock fs texts =
      lintPaths host clock workspace fs (arguments.has .json) fix paths := by
  rw [run_of_lints hread hlints]
  unfold lintTarget
  simp only [hlints.strict_eq, hload, hlints.target_eq, hdiscover, hlints.fix_eq]

end Lints

/-! ### The workspace of a run -/

/-- The workspace in the current directory with a configuration. -/
def workspaceIn (fs : FileSystem) (config : Config) (strict : Bool) : Workspace :=
  ⟨fs.current, config, strict || config.strict⟩

theorem load_eq (yaml : YamlLibrary) (hgrounded : fs.Grounded) (strict : Bool) :
    Workspace.load yaml fs (Path.ofText ".") (if strict then some true else none) =
      match Config.load yaml fs fs.current.toPath toolName with
      | .error fault => .error (.config fault)
      | .ok config => .ok (workspaceIn fs config strict) := by
  have hwalk : fs.walk .followed (Path.ofText ".") = .ok fs.current := rfl
  unfold Workspace.load workspaceIn
  rw [FileSystem.resolve_of_walk hgrounded hwalk]
  cases strict <;> rfl

/-! ### Runs that get to their end -/

theorem finish_of_told {exitCode : ExitCode} {output : Text}
    {telling : Telling host.console.State} (h : telling.fault = none) :
    finish host fs exitCode output telling =
      ⟨exitCode.number, output ++ telling.text, fs, none⟩ := by
  rw [finish, h]

/-- What is told before the files of a run. -/
def opening (host : Host) (paths : List Path) : Telling host.console.State :=
  host.console.tell host.console.start [Console.header paths.length]

/-- A run over files that are told about on the console. -/
def shownRun (host : Host) (workspace : Workspace) (fs : FileSystem) (fix : Bool)
    (paths : List Path) : LintRun host.console.State :=
  lintRun host (opening host paths).console workspace fs false fix paths

/-- What is told after the files of a run. -/
def closing (host : Host) (workspace : Workspace) (fs : FileSystem) (fix : Bool)
    (paths : List Path) : Telling host.console.State :=
  let run := shownRun host workspace fs fix paths
  host.console.tell run.console (Console.verdictBlock (run.summary workspace.strict))

/-- A run that gets to its verdict on the console and tells it. -/
structure Concludes (host : Host) (workspace : Workspace) (fs : FileSystem) (fix : Bool)
    (paths : List Path) : Prop where
  opening : (opening host paths).fault = none
  files : (shownRun host workspace fs fix paths).stopped = none
  closing : (closing host workspace fs fix paths).fault = none

theorem lintPaths_of_concludes (h : Concludes host workspace fs fix paths) :
    let run := shownRun host workspace fs fix paths
    lintPaths host clock workspace fs false fix paths =
      ⟨(run.summary workspace.strict).exitCode.number,
        (opening host paths).text ++ run.output ++ (closing host workspace fs fix paths).text,
        run.files, none⟩ := by
  intro run
  have hopening : host.console.tell host.console.start
      (unlessJson false [Console.header paths.length]) =
        ⟨(opening host paths).text, none, (opening host paths).console⟩ := by
    rw [← h.opening]
    rfl
  have hrun : lintRun host (opening host paths).console workspace fs false fix paths = run := rfl
  have hended : run.stopped = none := h.files
  rw [lintPaths, hopening]
  simp only [hrun, hended]
  exact finish_of_told h.closing

/-! ### The verdict -/

/-- The verdict agrees with how a run ends, unless files could not be processed and there are no
    errors in the others. -/
theorem run_verdict (hread : Arguments.read texts = .ok arguments)
    (hlints : arguments.Lints target fix strict) (hconsole : arguments.has .json = false)
    (hload : Workspace.load host.yaml fs (Path.ofText ".") (if strict then some true else none) =
      .ok workspace)
    (hdiscover : workspace.discover fs (Path.ofText target) = .ok paths) (hpaths : paths ≠ [])
    (hconcludes : Concludes host workspace fs fix paths) (clock : Clock host.floats.Value) :
    let result := shownRun host workspace fs fix paths
    let summary := result.summary workspace.strict
    run host clock fs texts =
        ⟨summary.exitCode.number,
          (opening host paths).text ++ result.output ++ (closing host workspace fs fix paths).text,
          result.files, none⟩ ∧
      (((summary.verdict = .pass ∨ summary.verdict = .warn ↔ summary.exitCode.number = 0) ∧
          (summary.verdict = .fail ↔ summary.exitCode.number ≠ 0)) ↔
        (result.failures = [] ∨ 0 < summary.errors)) := by
  intro result summary
  have hrun : run host clock fs texts = _ :=
    run_of_paths hread hlints hload hdiscover hpaths
  rw [hconsole, lintPaths_of_concludes hconcludes] at hrun
  refine ⟨hrun, ?_⟩
  have hfailures : summary.failures = result.failures := rfl
  rw [← hfailures]
  unfold Summary.verdict Summary.exitCode
  by_cases herrors : 0 < summary.errors
  · cases summary.failures <;> simp [herrors, ExitCode.number]
  -- without errors the verdict is no failure, whatever became of the files
  · by_cases hwarnings : 0 < summary.warnings <;> cases summary.failures <;>
      simp [herrors, hwarnings, ExitCode.number]

/-- The time at which the clock starts. -/
def epoch : Clock builtin.floats.Value := ⟨Double.ofDecimal false 0 0, Double.ofDecimal false 0 0⟩

/-- A file with errors outweighs one that cannot be read. -/
theorem run_verdict_fail :
    let fs : FileSystem :=
      ⟨[(["a.yml"], .file [0xFF]), (["b.yml"], .file (Utf8.encode "name: x\n"))], []⟩
    ∃ before, run builtin epoch fs [] =
      ⟨3, before ++ "\n   FAIL  2 error(s), 0 warning(s)\n\n", fs, none⟩ := by
  intro fs
  let workspace := workspaceIn fs Config.default false
  let paths := [Path.ofText "a.yml", Path.ofText "b.yml"]
  have hload : Workspace.load builtin.yaml fs (Path.ofText ".")
      (if false then some true else none) = .ok workspace := by
    decide +kernel
  have hdiscover : workspace.discover fs (Path.ofText ".") = .ok paths := by decide +kernel
  let result := shownRun builtin workspace fs false paths
  let last := closing builtin workspace fs false paths
  obtain ⟨hopening, hended, hclosing, hfiles, htext, hcode⟩ :
      (opening builtin paths).fault = none ∧ result.stopped = none ∧ last.fault = none ∧
      result.files = fs ∧ last.text = "\n   FAIL  2 error(s), 0 warning(s)\n\n" ∧
      (result.summary workspace.strict).exitCode.number = 3 := by
    decide +kernel
  obtain ⟨hrun, -⟩ := run_verdict read_nil lints_none rfl hload hdiscover (List.cons_ne_nil _ _)
    ⟨hopening, hended, hclosing⟩ epoch
  rw [hcode, htext, hfiles] at hrun
  exact ⟨_, hrun⟩

/-- If the only file cannot be read, all workflows are said to be valid. -/
theorem run_verdict_pass :
    let fs : FileSystem := ⟨[(["w.yml"], .file [0xFF])], []⟩
    run builtin epoch fs [] =
      ⟨3, "\n  pipelint Validating 1 workflow file(s)\n\n✗ w.yml\n".toList
        ++ "  Could not process file: w.yml is not valid UTF-8: invalid start byte at byte 0\n"
        ++ "\n   PASS  All workflows valid\n\n", fs, none⟩ := by
  decide +kernel

/-! ### Files on their own -/

section Quiet

variable {outcomes : List FileOutcome} {files : FileSystem}
  (hquiet : LintRun.lintAll workspace fix host.console (fun _ => []) host.console.start fs paths =
    ⟨outcomes, [], none, files, host.console.start⟩)

include hquiet

/-- A run with a JSON report prints nothing else. -/
theorem lintPaths_json :
    let summary := total workspace.strict outcomes
    lintPaths host clock workspace fs true fix paths =
      ⟨summary.exitCode.number, jsonText host clock summary, files, none⟩ := by
  intro summary
  have hrun : lintRun host host.console.start workspace fs true fix paths =
      ⟨outcomes, [], none, files, host.console.start⟩ := hquiet
  have hopening : host.console.tell host.console.start
      (unlessJson true [Console.header paths.length]) = ⟨[], none, host.console.start⟩ := rfl
  rw [lintPaths, hopening]
  simp only [hrun, LintRun.summary_eq]
  exact finish_of_told rfl

/-- A run on the console tells all there is to tell. -/
theorem lintPaths_console :
    let summary := total workspace.strict outcomes
    let telling := host.console.tell host.console.start
      (host.console.page paths.length outcomes summary)
    telling.fault = none → lintPaths host clock workspace fs false fix paths =
      ⟨summary.exitCode.number, telling.text, files, none⟩ := by
  intro summary telling htold
  have hpage : host.console.page paths.length outcomes summary =
      [Console.header paths.length]
        ++ (outcomes.flatMap host.console.outcomeBlock ++ Console.verdictBlock summary) := rfl
  simp only [telling, hpage] at htold ⊢
  obtain ⟨hopening, hrest⟩ := Console.fault_tell_append.mp htold
  obtain ⟨hfiles, hclosing⟩ := Console.fault_tell_append.mp hrest
  have hrun : shownRun host workspace fs fix paths =
      .told host.console host.console.outcomeBlock (opening host paths).console outcomes files :=
    LintRun.lintAll_told hquiet hfiles
  have hsummary : (shownRun host workspace fs fix paths).summary workspace.strict = summary := by
    rw [LintRun.summary_eq, hrun]
    rfl
  have hend : closing host workspace fs fix paths = host.console.tell
      (host.console.tell (opening host paths).console
        (outcomes.flatMap host.console.outcomeBlock)).console (Console.verdictBlock summary) := by
    rw [closing, hsummary, hrun]
    rfl
  have hconcludes : Concludes host workspace fs fix paths :=
    ⟨hopening, by rw [hrun]; rfl, by rw [hend]; exact hclosing⟩
  rw [lintPaths_of_concludes hconcludes, hsummary, hend, hrun,
    Console.text_tell_append hopening, Console.text_tell_append hfiles, ← List.append_assoc]
  rfl

end Quiet

/-- A run that finds no files says so. -/
theorem exists_noFiles {json : Bool} (fs : FileSystem)
    (hprints : json = false → host.console.PrintsMarkup) (target : Text) :
    ∃ output, noFiles host fs json target = ⟨2, output, fs, none⟩ := by
  cases json with
  | true => exact ⟨_, finish_of_told rfl⟩
  | false => exact ⟨_, finish_of_told (hprints rfl _ (Console.isWellFormed_noFilesBlock target))⟩

/-- The current directory with a configuration and a workflow that has no findings. -/
def configured (configuration : Text) : FileSystem :=
  ⟨[([".pipelint"], .directory),
    ([".pipelint", "config.yaml"], .file (Utf8.encode configuration)),
    (["a.yml"], .file (Utf8.encode "on: push\njobs: \x7b\x7d\n"))], []⟩

/-- The configuration there if what is ignored is a list. -/
def ignoring (patterns : List Pattern) : Config :=
  ⟨false, .patterns patterns, some [".pipelint", "config.yaml"], []⟩

theorem grounded_configured (configuration : Text) : (configured configuration).Grounded := by
  constructor
  · intro part hpart
    cases hpart
  · intro place hplace
    rw [List.prefix_nil.mp hplace]
    rfl

/-- There is one workflow, and nothing is wrong with it. -/
def IsClean (fs : FileSystem) (config : Config) : Prop :=
  fs.discover (Path.ofText ".") = [Path.ofText "a.yml"] ∧
    (workspaceIn fs config false).lintFile fs (Path.ofText "a.yml") false =
      (.ok (.ofDiagnostics "a.yml" [] false), fs)

theorem isClean_configured (configuration : Text) {config : Config} (h : config.strict = false) :
    IsClean (configured configuration) config := by
  have hlint : lint false Rule.all "on: push\njobs: \x7b\x7d\n" "a.yml" false =
      .ok (.ofDiagnostics "a.yml" [] false) := by
    decide +kernel
  have hread : (configured configuration).readText (Path.ofText "a.yml") =
      .ok "on: push\njobs: \x7b\x7d\n" :=
    FileSystem.readText_of_readOctets rfl (by decide) (by decide)
  have hdisplay : (workspaceIn (configured configuration) config false).displayPath
      (configured configuration) (Path.ofText "a.yml") = .ok "a.yml" := rfl
  have hstrict : (workspaceIn (configured configuration) config false).strict = false := h
  refine ⟨rfl, ?_⟩
  unfold Workspace.lintFile Workspace.lintStored Workspace.lintText
  simp only [hdisplay, hread, hstrict, hlint, Report.diagnostics_ofDiagnostics,
    Workspace.reported]
  rfl

/-- A console that can write ASCII only.  What could not be written is tried again before
    anything else. -/
def asciiConsole : Console where
  State := Text
  start := []
  escape := Terminal.escape
  print kept printable :=
    match Terminal.print printable with
    | .error fault => (.error fault.toLibrary, kept)
    | .ok text =>
      if (kept ++ text).all fun c => c.toNat < 0x80 then (.ok (kept ++ text), [])
      else
        (.error ⟨"UnicodeEncodeError", "'ascii' codec can't encode characters"⟩, kept ++ text)

end CommandLine

end WorkflowLint
