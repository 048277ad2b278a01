/-
  WorkflowLint/Host/Float.lean
  ============================
  **Floating-point numbers.**

  The times in a report are floating-point numbers.  They are known by how they are
  written and by which of them a decimal number is read as.
-/
import WorkflowLint.Text.Basic

namespace WorkflowLint

/-- Floating-point numbers. -/
structure FloatFormat where
  Value : Type
  /-- A number as it is written. -/
  write : Value → Text
  /-- The number that is nearest to a decimal one, given by its sign, its digits and the power
      of ten that they are multiplied by. -/
  read : Bool → Nat → Int → Value

/-- The time at which a report is written and how long the run took, in seconds. -/
structure Clock (Value : Type) where
  timestamp : Value
  duration : Value
deriving DecidableEq, Repr

end WorkflowLint
