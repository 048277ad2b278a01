/-
  WorkflowLint/FileSystem/Discovery.lean
  ======================================
  **Finding workflows.**

  A path to a file stands for that file.  A path to a directory stands for the
  workflows in its folder for workflows, followed by those in the directory
  itself, in order of their names; of several paths to one file the first is
  kept.
-/
import WorkflowLint.FileSystem.Walk

namespace WorkflowLint.FileSystem

/-- The folder of a project that holds its workflows. -/
def workflowFolder : List Text := [".github", "workflows"]

/-- Whether a name is the name of a workflow. -/
def isWorkflowName (name : Text) : Bool :=
  List.isSuffixOf ".yml".toList name || List.isSuffixOf ".yaml".toList name

/-- The paths to the workflows in a folder, in order of their names. -/
def workflowsIn (fs : FileSystem) (folder : Path) : List Path :=
  match fs.walk .followed folder with
  | .error _ => []
  | .ok place =>
    if fs.item? place = some .directory then
      ((fs.names place).map fun name => folder.below [name]).filter fun path =>
        isWorkflowName path.name && fs.isFile path
    else []

/-- The paths to workflows that a directory stands for, some of which may lead to
    one file. -/
def candidates (fs : FileSystem) (directory : Path) : List Path :=
  fs.workflowsIn (directory.below workflowFolder) ++ fs.workflowsIn directory

/-- Keeps the paths that lead neither to one of the places that were seen nor to
    where an earlier path leads. -/
def keepFirst (fs : FileSystem) (seen : List Place) : List Path → List Path
  | [] => []
  | path :: rest =>
    match fs.walk .followed path with
    | .error _ => keepFirst fs seen rest
    | .ok place =>
      if place ∈ seen then keepFirst fs seen rest
      else path :: keepFirst fs (place :: seen) rest

/-- The workflows that a path stands for. -/
def discover (fs : FileSystem) (target : Path) : List Path :=
  if fs.isFile target then [target]
  else if fs.isDirectory target then fs.keepFirst [] (fs.candidates target)
  else []

end WorkflowLint.FileSystem
