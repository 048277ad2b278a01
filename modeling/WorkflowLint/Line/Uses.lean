/-
  WorkflowLint/Line/Uses.lean
  ===========================
  **The action a line uses.**

  A line that starts with `uses:`, after blanks and at most one list dash, names
  an action.  This is read off the raw line and so does not depend on the tree.
-/
import WorkflowLint.Line.Comment
import WorkflowLint.Line.Value

namespace WorkflowLint.Line

/-- The text after `word` if the text starts with it. -/
def after? (word text : Text) : Option Text :=
  if word.isPrefixOf text then some (text.drop word.length) else none

/-- The text without a dash and the blanks after it; a dash that no blank
    follows stays. -/
def dropDash : Text → Text
  | '-' :: c :: rest => if Text.isBlank c then Text.trimLeft rest else '-' :: c :: rest
  | text => text

/-- The text up to its end or up to one line feed at its end; a text with a line
    feed elsewhere is refused. -/
def wholeLine? (text : Text) : Option Text :=
  match Text.cutAt? '\n' text with
  | none => some text
  | some (before, []) => some before
  | some _ => none

/-- The action reference of a line that starts with `uses:`, without comment and
    quotes; it is empty if no reference follows. -/
def usesReference? (line : Text) : Option Text :=
  (after? "uses:" (dropDash (Text.trimLeft line))).bind fun rest =>
    (wholeLine? rest).map fun value => stripQuotes (stripComment (Text.trim value))

end WorkflowLint.Line
