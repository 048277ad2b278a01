/-
  WorkflowLint/Host.lean
  ======================
  **What the command is built on.**

  The libraries and the platform that the command uses are given to it.
-/
import WorkflowLint.Host.Console
import WorkflowLint.Host.Float
import WorkflowLint.Host.Yaml

namespace WorkflowLint

/-- The platform that the command runs on. -/
structure Platform where
  system : Text
  release : Text
  machine : Text
  runtime : Text
deriving DecidableEq, Repr

/-- The libraries and the platform of a command. -/
structure Host where
  yaml : YamlLibrary
  floats : FloatFormat
  console : Console
  platform : Platform

end WorkflowLint
