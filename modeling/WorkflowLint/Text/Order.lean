/-
  WorkflowLint/Text/Order.lean
  ============================
  **Texts in order.**

  Texts are ordered by their code points, the first difference deciding, and a
  text comes before its extensions.
-/
import WorkflowLint.Text.Basic

namespace WorkflowLint.Text

/-- Whether the first text comes before the second or is the same. -/
def precedes : Text → Text → Bool
  | [], _ => true
  | _ :: _, [] => false
  | a :: rest, b :: other => if a = b then precedes rest other else a.toNat < b.toNat

/-- Puts a text before the first one that it precedes. -/
def insertSorted (text : Text) : List Text → List Text
  | [] => [text]
  | other :: rest =>
    if precedes text other then text :: other :: rest else other :: insertSorted text rest

/-- The texts in order. -/
def sort (texts : List Text) : List Text := texts.foldr insertSorted []

end WorkflowLint.Text
