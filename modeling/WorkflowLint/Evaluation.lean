/-
  WorkflowLint/Evaluation.lean
  ============================
  **Evaluating a document.**

  An evaluation runs rules against one document, stage by stage, and keeps the
  findings in the order of their detection.  In the layout stage the bodies of
  block scalars are left alone, except by rules that ask for them: a line that
  ends in a block indicator starts a body, and the body lasts as long as lines
  start with a space or a tab.
-/
import WorkflowLint.Rule.Basic

namespace WorkflowLint

/-- The findings of the three stages, or the one finding that a document without
    any text has. -/
inductive Evaluation where
  | empty
  | staged (layout document content : List Diagnostic)
deriving DecidableEq, Repr

namespace Evaluation

/-- The identifier under which an empty document is reported. -/
def emptyDocumentId : Text := "document/empty"

/-- The finding about an empty document. -/
def emptyFinding : Diagnostic :=
  { severity := .error, message := "Workflow file is empty", line := some 1,
    ruleId := some emptyDocumentId }

/-- All findings in order. -/
def diagnostics : Evaluation → List Diagnostic
  | .empty => [emptyFinding]
  | .staged layout document content => layout ++ document ++ content

/-- What the log says about the stages. -/
def log : Evaluation → List Text
  | .empty => []
  | .staged layout document content =>
    ["Stage 1: Pre-parse line rules produced " ++ Text.ofNat layout.length ++ " finding(s)",
     "Stage 2: Structural rules produced " ++ Text.ofNat document.length ++ " finding(s)",
     "Stage 3: Content rules produced " ++ Text.ofNat content.length ++ " finding(s)"]

end Evaluation

/-! ### The layout stage -/

/-- Whether a line that is neither blank nor a comment belongs to a block scalar,
    as its indicator line or in its body, given whether the line before did. -/
def inBlockAfter (inBlock : Bool) (line : Text) : Bool :=
  inBlock && Line.isIndented line || Line.endsInBlockIndicator (Text.trim line)

/-- The layout rules that run on a line: all of them outside block scalars, with
    those that look into block scalars first. -/
def layoutRulesFor (rules : List LayoutRule) (inBlock : Bool) : List LayoutRule :=
  rules.filter LayoutRule.checksBlockBody
    ++ if inBlock then [] else rules.filter fun rule => !rule.checksBlockBody

/-- The findings of the layout rules on the lines from line `number` on. -/
def layoutFindings (strict : Bool) (rules : List LayoutRule) (number : Int) (inBlock : Bool) :
    List Text → List Diagnostic
  | [] => []
  | line :: rest =>
    if Line.isIgnorable line then layoutFindings strict rules (number + 1) inBlock rest
    else
      let inBlock := inBlockAfter inBlock line
      LayoutRule.checkAll (layoutRulesFor rules inBlock) ⟨line, number, rest, strict, line⟩
        ++ layoutFindings strict rules (number + 1) inBlock rest

/-! ### The content stage -/

/-- The findings of the content rules on the lines from line `number` on. -/
def contentFindings (strict : Bool) (rules : List ContentRule) (number : Int) :
    List Text → List Diagnostic
  | [] => []
  | line :: rest =>
    rules.flatMap (fun rule => rule.check ⟨line, number, rest, strict, line⟩)
      ++ contentFindings strict rules (number + 1) rest

/-! ### Evaluation -/

/-- Runs rules against a document. -/
def Document.evaluate (document : Document) (strict : Bool) (rules : List Rule) : Evaluation :=
  if Text.allBlank document.text then .empty
  else
    .staged (layoutFindings strict (rules.filterMap Rule.layout?) 1 false document.lines)
      ((rules.filterMap Rule.document?).flatMap fun rule => rule.analyze document)
      (contentFindings strict (rules.filterMap Rule.content?) 1 document.lines)

/-- Loads a text, runs rules against it and reports the findings under a path. -/
def lint (strict : Bool) (rules : List Rule) (text path : Text) (fixed : Bool) :
    Except ParseError Report :=
  (Document.load text).map fun document =>
    .ofDiagnostics path (document.evaluate strict rules).diagnostics fixed

end WorkflowLint
