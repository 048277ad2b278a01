/-
  WorkflowLint/Rule/LineView.lean
  ===============================
  **A line under inspection.**

  Rules on lines see one line at a time, with its number and the lines after it.
  `current` is the line as the fixes of earlier rules in the same pass have left
  it, so that whole-line fixes of one line build on each other.
-/
import WorkflowLint.Diagnostic
import WorkflowLint.Line.Comment

namespace WorkflowLint

/-- One line with what a rule may look at. -/
structure LineView where
  line : Text
  number : Int
  following : List Text
  strict : Bool
  current : Text
deriving DecidableEq, Repr

end WorkflowLint
