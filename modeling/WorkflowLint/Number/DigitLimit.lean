/-
  WorkflowLint/Number/DigitLimit.lean
  ===================================
  **How many digits a number may have.**

  A number of too many decimal digits is neither read nor written.  Leading zeros
  count.
-/
import WorkflowLint.Text.Basic

namespace WorkflowLint

/-- The greatest number of digits in which a number is read or written. -/
def digitLimit : Nat := 4300

/-- How the messages about numbers with too many digits start. -/
def digitLimitText : Text :=
  "Exceeds the limit (" ++ Text.ofNat digitLimit ++ " digits) for integer string conversion"

/-- How they end. -/
def digitLimitAdvice : Text := "; use sys.set_int_max_str_digits() to increase the limit"

/-- What is said of a number that has too many digits. -/
def tooManyDigitsText (digits : Nat) : Text :=
  digitLimitText ++ ": value has " ++ Text.ofNat digits ++ " digits" ++ digitLimitAdvice

end WorkflowLint
