/-
  WorkflowLint/Line/Comment.lean
  ==============================
  **Where a comment starts.**

  A hash sign starts a comment if it stands outside quotes and either at the
  start of the text or after a blank.  `Quoting` is the state of the scan that
  knows where quotes are open: in double quotes a backslash protects the next
  character, in single quotes it does not.
-/
import WorkflowLint.Text.Blank

namespace WorkflowLint

/-- Which quotes are open at a point of a text. -/
inductive Quoting where
  | none
  | single
  | double
  | doubleEscape
deriving DecidableEq, Repr

/-- The quotes that are open after one more character. -/
def Quoting.next : Quoting → Char → Quoting
  | .none, '"' => .double
  | .none, '\'' => .single
  | .none, _ => .none
  | .single, '\'' => .none
  | .single, _ => .single
  | .double, '\\' => .doubleEscape
  | .double, '"' => .none
  | .double, _ => .double
  | .doubleEscape, _ => .double

namespace Line

/-- The position of the comment in the rest of a text, given the open quotes and
    whether the rest starts the text or follows a blank. -/
def commentStartFrom (quoting : Quoting) (afterBlank : Bool) : Text → Option Nat
  | [] => none
  | c :: rest =>
    if c = '#' ∧ quoting = .none ∧ afterBlank = true then some 0
    else (commentStartFrom (quoting.next c) (Text.isBlank c) rest).map (· + 1)

/-- The position of the hash sign that starts the comment of a text. -/
def commentStart? (text : Text) : Option Nat := commentStartFrom .none true text

/-- The text before the comment, without blanks at its end; a text without a
    comment stays as it is. -/
def stripComment (text : Text) : Text :=
  match commentStart? text with
  | none => text
  | some start => Text.trimRight (text.take start)

/-- Whether a line is blank or a comment from its first character on, blanks left
    aside. -/
def isIgnorable (line : Text) : Bool :=
  (Text.trim line).isEmpty || (Text.trim line).head? == some '#'

end Line

end WorkflowLint
