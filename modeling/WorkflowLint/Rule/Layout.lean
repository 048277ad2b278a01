/-
  WorkflowLint/Rule/Layout.lean
  =============================
  **Rules on the layout of a line.**

  Layout rules look at raw lines before anything is made of their structure.
  Tabs in the indentation and blanks at the end of a line can be fixed by a new
  text for the whole line; the fix starts from the line as earlier fixes left it
  (`LayoutRule.correct?`).
-/
import WorkflowLint.Rule.LineView
import WorkflowLint.Text.WordChar

namespace WorkflowLint

/-- The rules on the layout of a line. -/
inductive LayoutRule where
  | tabIndentation
  | trailingWhitespace
  | doubleColon
deriving DecidableEq, Repr

namespace Line

/-- The line with each tab in its indentation replaced by two spaces. -/
def expandLeadingTabs : Text → Text
  | '\t' :: rest => ' ' :: ' ' :: expandLeadingTabs rest
  | ' ' :: rest => ' ' :: expandLeadingTabs rest
  | text => text

/-- The line without spaces and tabs at its end. -/
def trimTrailing (line : Text) : Text := Text.dropRightWhile Text.isIndent line

/-- Whether a line starts with a tab. -/
def startsWithTab (line : Text) : Bool := line.head? == some '\t'

/-- Whether a line starts with a space or a tab. -/
def isIndented (line : Text) : Bool := line.head?.any Text.isIndent

/-- Whether a line ends with a space or a tab. -/
def endsInIndent (line : Text) : Bool := line.getLast?.any Text.isIndent

/-- Whether a character may stand in a bare key. -/
def isKeyChar (c : Char) : Bool := Text.isWordChar c || c == '-'

/-- Whether a text is a bare key with two colons after it and no other colon. -/
def hasDoubleColon (text : Text) : Bool :=
  text.head?.any isKeyChar && [':', ':'].isPrefixOf (text.dropWhile isKeyChar)
    && text.count ':' == 2

end Line

namespace LayoutRule

/-- The identifier of a rule. -/
def id : LayoutRule → Text
  | .tabIndentation => "syntax/tab-indentation"
  | .trailingWhitespace => "style/trailing-whitespace"
  | .doubleColon => "syntax/double-colon"

/-- What a rule checks. -/
def description : LayoutRule → Text
  | .tabIndentation => "YAML indentation must use spaces, not tabs"
  | .trailingWhitespace => "Trailing whitespace (strict mode only)"
  | .doubleColon => "Flags 'key::' typos"

/-- Whether a rule also looks at the lines of block scalars. -/
def checksBlockBody : LayoutRule → Bool
  | .tabIndentation => true
  | _ => false

/-- Whether a rule objects to a line. -/
def objects : LayoutRule → LineView → Bool
  | .tabIndentation, view => Line.startsWithTab view.line
  | .trailingWhitespace, view => view.strict && Line.endsInIndent view.line
  | .doubleColon, view => Line.hasDoubleColon (Text.trim view.line)

/-- How a rule corrects a text. -/
def correction? : LayoutRule → Option (Text → Text)
  | .tabIndentation => some Line.expandLeadingTabs
  | .trailingWhitespace => some Line.trimTrailing
  | .doubleColon => none

/-- The line as the rule wants it, if it objects and has a correction. -/
def correct? (rule : LayoutRule) (view : LineView) : Option Text :=
  if rule.objects view then rule.correction?.map fun correct => correct view.current else none

/-- The severity and the wording of a finding. -/
def finding : LayoutRule → Severity × Text
  | .tabIndentation => (.error, "Tab indentation detected. YAML requires spaces.")
  | .trailingWhitespace => (.warning, "Trailing whitespace")
  | .doubleColon => (.error, "Double colon detected, likely a typo")

/-- The findings of a rule on a line. -/
def check (rule : LayoutRule) (view : LineView) : List Diagnostic :=
  if rule.objects view then
    [{ severity := rule.finding.1, message := rule.finding.2, line := some view.number,
       fix := rule.correct? view, ruleId := some rule.id }]
  else []

/-- The line as later rules see it. -/
def advance (rule : LayoutRule) (view : LineView) : LineView :=
  { view with current := (rule.correct? view).getD view.current }

/-- The findings of several rules on a line, each rule starting from the
    corrections of those before it. -/
def checkAll : List LayoutRule → LineView → List Diagnostic
  | [], _ => []
  | rule :: rest, view => rule.check view ++ checkAll rest (rule.advance view)

end LayoutRule

end WorkflowLint
