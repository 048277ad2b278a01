/-
  WorkflowLint/FixRound.lean
  ==========================
  **Rounds of finding and fixing.**

  A round evaluates a text with all rules and applies the fixes it finds; the
  next round starts from the result.
-/
import WorkflowLint.Evaluation
import WorkflowLint.Fix

namespace WorkflowLint

/-- One round: its findings and the text with their fixes applied. -/
structure FixRound where
  diagnostics : List Diagnostic
  text : Text
  changed : Bool
deriving DecidableEq, Repr

namespace FixRound

/-- The round that starts from a text. -/
def start (strict : Bool) (text : Text) : Except ParseError FixRound :=
  (Document.load text).map fun document =>
    let diagnostics := (document.evaluate strict Rule.all).diagnostics
    let fixed := Fix.apply text diagnostics
    ⟨diagnostics, fixed, fixed != text⟩

/-- The first `count` rounds from a text on. -/
def rounds (strict : Bool) : Nat → Text → Except ParseError (List FixRound)
  | 0, _ => .ok []
  | count + 1, text =>
    (start strict text).bind fun round =>
      (rounds strict count round.text).map fun others => round :: others

end FixRound

end WorkflowLint
