/-
  WorkflowLint/Workspace.lean
  ===========================
  **Linting the files of a workspace.**

  A workspace is a directory with its configuration.  Files are named by their
  paths from there, ignored files are not found, and findings of ignored rules
  are dropped.  Linting a file with fixes replaces its text if the fixes change
  it, and reports what is left.
-/
import WorkflowLint.Config
import WorkflowLint.Evaluation
import WorkflowLint.FileSystem.Discovery
import WorkflowLint.Fix
import WorkflowLint.Json.Export

namespace WorkflowLint

/-- Why a file cannot be linted. -/
inductive LintError where
  | file (error : FileError)
  | parse (error : ParseError)
  | resolve (fault : FileSystem.ResolveFault)
  | config (fault : LibraryFault)
  | ignored (fault : LibraryFault)
deriving DecidableEq, Repr

namespace LintError

/-- The wording of an error. -/
def message : LintError → Text
  | .file error => error.message
  | .parse error => error.message
  | .resolve fault => fault.message
  | .config fault => fault.message
  | .ignored fault => fault.message

/-- Whether an error concerns one file only, so that a run may go on with the
    others. -/
def isFailure : LintError → Bool
  | .file error => error.isFailure
  | _ => false

end LintError

/-- A directory whose files are linted, its configuration, and whether warnings
    count as errors. -/
structure Workspace where
  root : Place
  config : Config
  strict : Bool
deriving DecidableEq, Repr

namespace Workspace

/-- The workspace at a path.  What is said about strictness wins over the
    configuration. -/
def load (yaml : YamlLibrary) (fs : FileSystem) (path : Path) (strict : Option Bool) :
    Except LintError Workspace :=
  match fs.resolve path with
  | .error fault => .error (.resolve fault)
  | .ok root =>
    match Config.load yaml fs root.toPath toolName with
    | .error fault => .error (.config fault)
    | .ok config => .ok ⟨root, config, strict.getD config.strict⟩

/-! ### Naming and finding files -/

/-- The path by which a file is reported: its path from the workspace, or the path as
    it was given if the file is elsewhere. -/
def displayPath (workspace : Workspace) (fs : FileSystem) (path : Path) :
    Except LintError Text :=
  match fs.resolve path with
  | .error .nullCharacter => .ok path.toText
  | .error fault => .error (.resolve fault)
  | .ok place =>
    match FileSystem.relative? workspace.root place with
    | some names => .ok (Path.mk .here names).toText
    | none => .ok path.toText

/-- The place of the file that the configuration was read from. -/
def configPlace (workspace : Workspace) (fs : FileSystem) : Except LintError (Option Place) :=
  match workspace.config.source with
  | none => .ok none
  | some names =>
    match fs.resolve (workspace.root.toPath.below names) with
    | .error fault => .error (.resolve fault)
    | .ok place => .ok (some place)

/-- Whether a file is to be linted: it is not the configuration and not ignored. -/
def admits (workspace : Workspace) (fs : FileSystem) (configuration : Option Place)
    (path : Path) : Except LintError Bool :=
  match fs.resolve path with
  | .error fault => if configuration.isSome then .error (.resolve fault) else admitsName
  | .ok place => if configuration = some place then .ok false else admitsName
where
  admitsName : Except LintError Bool :=
    match workspace.displayPath fs path with
    | .error error => .error error
    | .ok display =>
      match workspace.config.ignoresFile display with
      | .error fault => .error (.ignored fault)
      | .ok ignored => .ok !ignored

/-- The files that are to be linted among some files. -/
def admitted (workspace : Workspace) (fs : FileSystem) (configuration : Option Place) :
    List Path → Except LintError (List Path)
  | [] => .ok []
  | path :: rest =>
    match workspace.admits fs configuration path with
    | .error error => .error error
    | .ok keep =>
      match admitted workspace fs configuration rest with
      | .error error => .error error
      | .ok others => .ok (if keep then path :: others else others)

/-- The files to be linted that a path stands for. -/
def discover (workspace : Workspace) (fs : FileSystem) (target : Path) :
    Except LintError (List Path) :=
  match workspace.configPlace fs with
  | .error error => .error error
  | .ok configuration => workspace.admitted fs configuration (fs.discover target)

/-! ### Linting texts -/

/-- Whether a finding is reported: its rule is not ignored. -/
def reports (workspace : Workspace) (diagnostic : Diagnostic) : Except LintError Bool :=
  match diagnostic.ruleId with
  | none => .ok true
  | some ruleId =>
    match workspace.config.ignoresRule ruleId with
    | .error fault => .error (.ignored fault)
    | .ok ignored => .ok !ignored

/-- The findings that are reported among some findings. -/
def reported (workspace : Workspace) : List Diagnostic → Except LintError (List Diagnostic)
  | [] => .ok []
  | diagnostic :: rest =>
    match workspace.reports diagnostic with
    | .error error => .error error
    | .ok keep =>
      match reported workspace rest with
      | .error error => .error error
      | .ok others => .ok (if keep then diagnostic :: others else others)

/-- The report about a text under a path. -/
def lintText (workspace : Workspace) (text path : Text) (fixed : Bool) :
    Except LintError Report :=
  match lint workspace.strict Rule.all text path fixed with
  | .error error => .error (.parse error)
  | .ok report =>
    match workspace.reported report.diagnostics with
    | .error error => .error error
    | .ok diagnostics => .ok (.ofDiagnostics path diagnostics fixed)

/-- A text with all fixes that are reported for it. -/
def fixText (workspace : Workspace) (text path : Text) : Except LintError Text :=
  match workspace.lintText text path false with
  | .error error => .error error
  | .ok report => .ok (Fix.apply text report.diagnostics)

/-! ### Linting files -/

/-- The text of a file with the report about it. -/
def lintStored (workspace : Workspace) (fs : FileSystem) (path : Path) :
    Except LintError (Text × Report) :=
  match workspace.displayPath fs path with
  | .error error => .error error
  | .ok display =>
    match fs.readText path with
    | .error error => .error (.file error)
    | .ok text =>
      match workspace.lintText text display false with
      | .error error => .error error
      | .ok report => .ok (text, report)

/-- Replaces the text of a file and reports what is left to say about it. -/
def storeFixed (workspace : Workspace) (fs : FileSystem) (path : Path) (text display : Text) :
    Except LintError Report × FileSystem :=
  match fs.replaceText path text with
  | (.error error, fs) => (.error (.file error), fs)
  | (.ok (), fs) => (workspace.lintText text display true, fs)

/-- Lints a file, and fixes it if asked to. -/
def lintFile (workspace : Workspace) (fs : FileSystem) (path : Path) (fix : Bool) :
    Except LintError Report × FileSystem :=
  match workspace.lintStored fs path with
  | .error error => (.error error, fs)
  | .ok (text, report) =>
    let fixed := Fix.apply text report.diagnostics
    if fix && !report.fixable.isEmpty && fixed != text then
      workspace.storeFixed fs path fixed report.file
    else (.ok report, fs)

end Workspace

end WorkflowLint
