/-
  WorkflowLint/Host/Fault.lean
  ============================
  **Faults of libraries.**

  The command is built on libraries that may fail in ways of their own.  A fault is
  known by its kind and its wording, and nothing is assumed about which there are.
-/
import WorkflowLint.Text.Basic

namespace WorkflowLint

/-- A fault that a library raises. -/
structure LibraryFault where
  kind : Text
  message : Text
deriving DecidableEq, Repr

end WorkflowLint
