/-
  WorkflowLint/Config.lean
  ========================
  **The configuration of a workspace.**

  A workspace may hold a configuration in one of two files.  The first one that
  can be read counts, a file that cannot be read being passed over.  The
  configuration says whether warnings count as errors and which files and rules
  are ignored, by patterns.
-/
import WorkflowLint.FileSystem.Walk
import WorkflowLint.FileSystem.Access
import WorkflowLint.Glob
import WorkflowLint.Host.Yaml

namespace WorkflowLint

/-! ### What is ignored -/

/-- A pattern of what is ignored.  A value may be one that cannot be written. -/
inductive Pattern where
  | glob (codes : CodePoints)
  | unwritable (fault : LibraryFault)
deriving DecidableEq, Repr

/-- What is ignored: whatever one of some patterns stands for, or nothing that can be
    told, because a value was given that has no parts. -/
inductive Ignored where
  | patterns (patterns : List Pattern)
  | noPatterns (fault : LibraryFault)
deriving DecidableEq, Repr

/-- The pattern that a text is, if it could be written. -/
def Pattern.of : Except LibraryFault CodePoints → Pattern
  | .ok codes => .glob codes
  | .error fault => .unwritable fault

namespace Ignored

/-- What a value says is ignored: its parts are the patterns.  A value that does not
    count as true has none. -/
def ofValue (yaml : YamlLibrary) (value : yaml.Value) : Ignored :=
  if !yaml.isTrue value then .patterns []
  else
    match yaml.parts value with
    | .error fault => .noPatterns fault
    | .ok parts => .patterns (parts.map fun part => .of (yaml.write part))

/-- Whether one of some patterns stands for one of some texts.  The first pattern that
    does decides; one before it that cannot be written is an error. -/
def anyAccepts (texts : List Text) : List Pattern → Except LibraryFault Bool
  | [] => .ok false
  | .unwritable fault :: _ => .error fault
  | .glob codes :: rest =>
    if texts.any fun text => Glob.accepts? codes text then .ok true else anyAccepts texts rest

/-- Whether one of some texts is ignored. -/
def accepts (texts : List Text) : Ignored → Except LibraryFault Bool
  | .noPatterns fault => .error fault
  | .patterns given => anyAccepts texts given

end Ignored

/-! ### Configurations -/

/-- A configuration.  Its source is the file that it was read from, by its names below
    the workspace; the files that could not be read are listed too. -/
structure Config where
  strict : Bool
  ignored : Ignored
  source : Option (List Text)
  unreadable : List (List Text)
deriving DecidableEq, Repr

namespace Config

/-- The configuration of a workspace without one. -/
def default : Config := ⟨false, .patterns [], none, []⟩

/-- What stands at the keys of the rules section of a configuration; at none, if the
    configuration or the section is no mapping. -/
def rulesOf (yaml : YamlLibrary) (value : yaml.Value) : Text → Option yaml.Value :=
  let rules := do
    let entries ← yaml.entries? value
    let rules ← entries "rules"
    yaml.entries? rules
  rules.getD fun _ => none

/-- The configuration that a value stands for. -/
def ofValue (yaml : YamlLibrary) (value : yaml.Value) : Config :=
  let rules := rulesOf yaml value
  { default with
    strict := (rules "strict").any yaml.isTrue
    ignored := ((rules "ignore").map (Ignored.ofValue yaml)).getD (.patterns []) }

/-! ### Reading -/

/-- The files that may hold the configuration for a tool, by their names below the
    workspace. -/
def candidates (tool : Text) : List (List Text) :=
  [(Path.ofText ('.' :: tool)).parts ++ ["config.yaml".toList],
   (Path.ofText ('.' :: tool ++ ".yaml")).parts]

/-- The configuration in a file, or nothing if it cannot be read, with the loader after
    it. -/
def read? (yaml : YamlLibrary) (fs : FileSystem) (loader : yaml.Loader) (path : Path) :
    Except LibraryFault (Option Config) × yaml.Loader :=
  match fs.readOctets path with
  | .error _ => (.ok none, loader)
  | .ok octets =>
    match yaml.load loader octets with
    | (.error (.raised fault), loader) => (.error fault, loader)
    | (.error .refused, loader) => (.ok none, loader)
    | (.ok value, loader) => (.ok (some (ofValue yaml value)), loader)

/-- The configuration in the first file that can be read. -/
def loadFirst (yaml : YamlLibrary) (fs : FileSystem) (loader : yaml.Loader) (workspace : Path) :
    List (List Text) → Except LibraryFault Config
  | [] => .ok default
  | names :: rest =>
    let path := workspace.below names
    if fs.isFile path then
      match read? yaml fs loader path with
      | (.error fault, _) => .error fault
      | (.ok (some config), _) => .ok { config with source := some names }
      | (.ok none, loader) =>
        (loadFirst yaml fs loader workspace rest).map fun config =>
          { config with unreadable := names :: config.unreadable }
    else loadFirst yaml fs loader workspace rest

/-- The configuration of a workspace for a tool. -/
def load (yaml : YamlLibrary) (fs : FileSystem) (workspace : Path) (tool : Text) :
    Except LibraryFault Config :=
  loadFirst yaml fs yaml.start workspace (candidates tool)

/-- What is said of a configuration that could not be read.  It ends before the first
    colon. -/
def unreadableMessage (names : List Text) : Text :=
  "Failed to parse " ++ (names.getLast?.getD []).takeWhile (· != ':')

/-! ### Ignoring -/

/-- Whether a file is ignored, by its path or by its name. -/
def ignoresFile (config : Config) (path : Text) : Except LibraryFault Bool :=
  config.ignored.accepts [path, (Path.ofText path).name]

/-- Whether a rule is ignored. -/
def ignoresRule (config : Config) (ruleId : Text) : Except LibraryFault Bool :=
  config.ignored.accepts [ruleId]

end Config

end WorkflowLint
