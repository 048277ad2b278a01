/-
  WorkflowLint/Rule/Content.lean
  ==============================
  **Rules on the content of a line.**

  Content rules scan every raw line, whatever the tree looks like, for secrets,
  action references, expressions in `${{ }}` and empty runners.  They are
  heuristics and do not read the expression language.
-/
import WorkflowLint.Line.Uses
import WorkflowLint.Rule.LineView

namespace WorkflowLint

/-- The rules on the content of a line. -/
inductive ContentRule where
  | hardcodedSecret
  | unpinnedAction
  | unbalancedParentheses
  | unclosedExpression
  | emptyRunsOn
deriving DecidableEq, Repr

namespace Line

/-! ### Secrets -/

/-- Whether a character is a lower-case letter in either case; the long s counts
    as an s and the Kelvin sign as a k. -/
def sameLetter (letter c : Char) : Bool :=
  c == letter || c == letter.toUpper || letter == 's' && c == '\u017F'
    || letter == 'k' && c == '\u212A'

/-- The text after a word, in any mixture of cases, if the text starts with it. -/
def afterWord? : Text → Text → Option Text
  | [], text => some text
  | _ :: _, [] => none
  | letter :: word, c :: rest => if sameLetter letter c then afterWord? word rest else none

/-- The words that announce a secret. -/
def secretWords : List Text := ["password", "token", "secret"]

/-- The text without a quote at its start. -/
def dropQuote : Text → Text
  | [] => []
  | c :: rest => if isQuote c then rest else c :: rest

/-- Whether a text starts with a quote, at least one character that is no blank,
    and a quote, without a blank in between. -/
def startsWithLiteral : Text → Bool
  | [] => false
  | c :: rest => isQuote c && ((rest.takeWhile fun c => !Text.isBlank c).drop 1).any isQuote

/-- Whether a colon or an equals sign and then a literal in quotes follow. -/
def startsWithAssignment (text : Text) : Bool :=
  match Text.trimLeft (dropQuote text) with
  | [] => false
  | c :: rest => (c == ':' || c == '=') && startsWithLiteral (Text.trimLeft rest)

/-- Whether a text starts with a secret word that is given a literal. -/
def startsWithSecret (text : Text) : Bool :=
  secretWords.any fun word => (afterWord? word text).any startsWithAssignment

/-- Whether a literal is given to a secret word somewhere in a text. -/
def hasSecret : Text → Bool
  | [] => false
  | c :: rest => startsWithSecret (c :: rest) || hasSecret rest

/-! ### Expressions -/

/-- The mark that opens an expression. -/
def expressionOpen : Text := "$\x7b\x7b"

/-- The mark that closes an expression. -/
def expressionClose : Text := "\x7d\x7d"

/-- The body of the expression that a text starts with; it holds no brace that
    closes. -/
def expressionBody? (text : Text) : Option Text :=
  (after? expressionOpen text).bind fun rest =>
    match Text.cutAt? '}' rest with
    | some (body, '}' :: _) => some body
    | _ => none

/-- The bodies of the expressions of a text from left to right, leaving out its
    first `skip` characters. -/
def expressionsFrom (skip : Nat) : Text → List Text
  | [] => []
  | c :: rest =>
    match skip with
    | skip + 1 => expressionsFrom skip rest
    | 0 =>
      match expressionBody? (c :: rest) with
      | some body => body :: expressionsFrom (body.length + 4) rest
      | none => expressionsFrom 0 rest

/-- The bodies of the expressions of a text from left to right. -/
def expressions (text : Text) : List Text := expressionsFrom 0 text

/-- Whether a text has as many opening as closing parentheses. -/
def isBalanced (text : Text) : Bool := text.count '(' == text.count ')'

/-- How many lines below its start an expression may be closed. -/
def expressionReach : Nat := 4

/-- Whether an expression is opened on a line and closed neither there nor within
    reach. -/
def leavesExpressionOpen (line : Text) (following : List Text) : Bool :=
  Text.hasPart expressionOpen line && !Text.hasPart expressionClose line
    && !(following.take expressionReach).any (Text.hasPart expressionClose)

/-! ### Runners -/

/-- The column of the first line that is neither blank nor a comment. -/
def nextColumn? (following : List Text) : Option Nat :=
  (following.find? fun line => !isIgnorable line).map Text.blankWidth

/-- Whether a line is `runs-on:` without a value and no deeper line follows. -/
def hasEmptyRunner (line : Text) (following : List Text) : Bool :=
  dropDash (stripComment (Text.trim line)) == "runs-on:".toList
    && !(nextColumn? following).any fun column => Text.blankWidth line < column

/-! ### Action references -/

/-- Whether an action reference names neither a version nor something that has
    none, such as a local action or a container image. -/
def isUnpinned (action : Text) : Bool :=
  !action.isEmpty && action.head? != some '.' && !"docker://".toList.isPrefixOf action
    && !action.contains '@'

end Line

namespace ContentRule

/-- The identifier of a rule. -/
def id : ContentRule → Text
  | .hardcodedSecret => "security/hardcoded-secret"
  | .unpinnedAction => "actions/unpinned"
  | .unbalancedParentheses => "expressions/unbalanced-parentheses"
  | .unclosedExpression => "expressions/unclosed"
  | .emptyRunsOn => "jobs/empty-runs-on"

/-- What a rule checks. -/
def description : ContentRule → Text
  | .hardcodedSecret => "Quoted password/token/secret literals"
  | .unpinnedAction => "Action references must pin a version (@tag or @sha)"
  | .unbalancedParentheses => "Unbalanced parentheses inside $\x7b\x7b \x7d\x7d expressions"
  | .unclosedExpression => "$\x7b\x7b without a matching \x7d\x7d within the next four lines"
  | .emptyRunsOn => "runs-on must name a runner"

/-- The wordings of the findings of a rule on a line. -/
def objections : ContentRule → LineView → List Text
  | .hardcodedSecret, view =>
    let text := Text.trim view.line
    if Line.hasSecret text && !Text.hasPart Line.expressionOpen text
        && !Text.hasPart "secrets." text then
      ["Possible hardcoded secret. Use $\x7b\x7b secrets.YOUR_SECRET \x7d\x7d instead."]
    else []
  | .unpinnedAction, view =>
    match Line.usesReference? view.line with
    | some action =>
      if Line.isUnpinned action then
        ["Action \"" ++ action
          ++ "\" missing version tag. Pin to a specific version (e.g., @v4 or @sha)."]
      else []
    | none => []
  | .unbalancedParentheses, view =>
    ((Line.expressions view.line).filter fun body => !Line.isBalanced (Text.trim body)).map
      fun body =>
        "Unbalanced parentheses in expression: $\x7b\x7b " ++ Text.trim body ++ " \x7d\x7d"
  | .unclosedExpression, view =>
    if Line.leavesExpressionOpen view.line view.following then
      ["Unclosed expression: $\x7b\x7b without matching \x7d\x7d"]
    else []
  | .emptyRunsOn, view =>
    if Line.hasEmptyRunner view.line view.following then
      ["runs-on has an empty value. Specify a runner (e.g., ubuntu-latest)."]
    else []

/-- The findings of a rule on a line. -/
def check (rule : ContentRule) (view : LineView) : List Diagnostic :=
  (rule.objections view).map fun message =>
    { severity := .error, message := message, line := some view.number, ruleId := some rule.id }

end ContentRule

end WorkflowLint
