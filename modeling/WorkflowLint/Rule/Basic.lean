/-
  WorkflowLint/Rule/Basic.lean
  ============================
  **All rules.**

  A rule belongs to one of three stages, which run in this order: rules on the
  layout of lines, rules on the structure of the document, and rules on the
  content of lines.
-/
import WorkflowLint.Rule.Content
import WorkflowLint.Rule.Layout
import WorkflowLint.Rule.Structure

namespace WorkflowLint

/-- The stages of an evaluation. -/
inductive Stage where
  | layout
  | document
  | content
deriving DecidableEq, Repr

/-- The name of a stage. -/
def Stage.name : Stage → Text
  | .layout => "pre-parse"
  | .document => "structure"
  | .content => "content"

/-- A rule of any stage. -/
inductive Rule where
  | layout (rule : LayoutRule)
  | document (rule : StructureRule)
  | content (rule : ContentRule)
deriving DecidableEq, Repr

namespace Rule

/-- The identifier of a rule, by which configurations and reports name it. -/
def id : Rule → Text
  | .layout rule => rule.id
  | .document rule => rule.id
  | .content rule => rule.id

/-- What a rule checks. -/
def description : Rule → Text
  | .layout rule => rule.description
  | .document rule => rule.description
  | .content rule => rule.description

/-- The stage of a rule. -/
def stage : Rule → Stage
  | .layout _ => .layout
  | .document _ => .document
  | .content _ => .content

/-- Whether a rule on lines looks at the lines of block scalars before the tree is
    built; rules on documents have no such property. -/
def checksBlockBody? : Rule → Option Bool
  | .layout rule => some rule.checksBlockBody
  | .document _ => none
  | .content _ => some false

/-- The layout rule that a rule is. -/
def layout? : Rule → Option LayoutRule
  | .layout rule => some rule
  | _ => none

/-- The structure rule that a rule is. -/
def document? : Rule → Option StructureRule
  | .document rule => some rule
  | _ => none

/-- The content rule that a rule is. -/
def content? : Rule → Option ContentRule
  | .content rule => some rule
  | _ => none

/-- All rules in their usual order. -/
def all : List Rule :=
  [.layout .tabIndentation, .layout .trailingWhitespace, .layout .doubleColon,
   .document .missingTrigger, .document .missingJobs, .document .unknownTopLevelKey,
   .document .deprecatedAction, .document .unknownJobKey, .document .missingRunsOn,
   .document .unknownStepKey,
   .content .hardcodedSecret, .content .unpinnedAction, .content .unbalancedParentheses,
   .content .unclosedExpression, .content .emptyRunsOn]

/-- No rule is missing from the list of all rules. -/
theorem mem_all (rule : Rule) : rule ∈ all := by
  cases rule with
  | layout rule => cases rule <;> decide
  | document rule => cases rule <;> decide
  | content rule => cases rule <;> decide

end Rule

end WorkflowLint
