/-
  WorkflowLint/Line/Value.lean
  ============================
  **Values written on a line.**

  A value on the line of its key is a scalar, a block indicator that announces
  the lines of a block scalar, or nothing at all, which opens a nested block.
  A scalar loses one pair of matching quotes; then `true`, `false` and rows of
  decimal digits are read as what they denote, and everything else is a string.
  The only value that is refused is a number of more than `digitLimit` digits.
-/
import WorkflowLint.Number.DigitLimit
import WorkflowLint.Text.Blank
import WorkflowLint.Text.DecimalDigit
import WorkflowLint.Tree.Node

namespace WorkflowLint

/-- Why a workflow could not be read. -/
inductive ParseError where
  | tooManyDigits (digits : Nat)
deriving DecidableEq, Repr

/-- The wording of a parse error. -/
def ParseError.message : ParseError → Text
  | .tooManyDigits digits => tooManyDigitsText digits

/-- What stands after the colon of a key. -/
inductive LineValue where
  | nested
  | block
  | scalar (value : Scalar)
deriving DecidableEq, Repr

namespace Line

/-- Whether a character is a quote. -/
def isQuote (c : Char) : Bool := c == '"' || c == '\''

/-- The text without one pair of equal quotes around it. -/
def stripQuotes : Text → Text
  | [] => []
  | c :: rest => if isQuote c && rest.getLast? == some c then rest.dropLast else c :: rest

/-- The digit values of a text that is a row of decimal digits, with one line
    feed allowed after them. -/
def digits? (text : Text) : Option (List Nat) :=
  let body := if text.getLast? = some '\n' then text.dropLast else text
  if body.isEmpty then none else body.mapM Text.digitValue?

/-- The scalar that a text denotes. -/
def readScalar (text : Text) : Except ParseError Scalar :=
  let value := stripQuotes (Text.trim text)
  if value = "true" then .ok (.bool true)
  else if value = "false" then .ok (.bool false)
  else
    match digits? value with
    | none => .ok (.str value)
    | some digits =>
      if digits.length ≤ digitLimit then .ok (.int (Text.ofDigitValues digits))
      else .error (.tooManyDigits digits.length)

/-! ### Block indicators -/

/-- Whether a character is an indentation digit of a block indicator. -/
def isIndentDigit (c : Char) : Bool := '1' ≤ c && c ≤ '9'

/-- Whether a character is a chomping sign of a block indicator. -/
def isChompSign (c : Char) : Bool := c == '+' || c == '-'

/-- Whether a text may follow the first character of a block indicator: at most
    one sign and at most one digit, in either order. -/
def isBlockHeader : Text → Bool
  | [] => true
  | [c] => isChompSign c || isIndentDigit c
  | [c, d] => isChompSign c && isIndentDigit d || isIndentDigit c && isChompSign d
  | _ => false

/-- Whether a text is a block indicator such as `|`, `>-` or `|2+`. -/
def isBlockIndicator : Text → Bool
  | [] => false
  | c :: rest => (c == '|' || c == '>') && isBlockHeader rest

/-- Whether the last word of a text is a block indicator. -/
def endsInBlockIndicator (text : Text) : Bool :=
  isBlockIndicator (text.reverse.takeWhile fun c => !Text.isBlank c).reverse

/-- Reads what stands after the colon of a key. -/
def readValue (text : Text) : Except ParseError LineValue :=
  if text.isEmpty then .ok .nested
  else if isBlockIndicator text then .ok .block
  else (readScalar text).map .scalar

end Line

end WorkflowLint
