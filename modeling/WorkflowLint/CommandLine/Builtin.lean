/-
  WorkflowLint/CommandLine/Builtin.lean
  =====================================
  **The command on its own.**

  The command runs with the reader of configurations, the doubles and the console of
  this library, unless it is given others.
-/
import WorkflowLint.CommandLine.Run
import WorkflowLint.Number.Double
import WorkflowLint.Terminal.Console
import WorkflowLint.Yaml.Library

namespace WorkflowLint.CommandLine

/-- The libraries that come with the command. -/
def builtin : Host where
  yaml := Yaml.library
  floats := Double.format
  console := Terminal.console
  platform := ⟨"Linux", "0", "x86_64", "3.11.2"⟩

end WorkflowLint.CommandLine
