/-
  WorkflowLint/Document.lean
  ==========================
  **A workflow document.**

  A document is the text of one workflow with its lines and its tree.
-/
import WorkflowLint.Outline.Parse

namespace WorkflowLint

/-- The text of a workflow, its lines and its tree. -/
structure Document where
  text : Text
  lines : List Text
  outline : Outline
deriving Repr

namespace Document

/-- The document of a text. -/
def load (text : Text) : Except ParseError Document :=
  (Outline.parse text).map fun outline => ⟨text, Text.lines text, outline⟩

/-- The entries of the root mapping. -/
def entries (document : Document) : List (Entry Node) := document.outline.tree.entries

/-- Whether a text starts with a key and its colon, the key being bare or in
    quotes of either kind. -/
def startsWithKey (key text : Text) : Bool :=
  (key ++ ":").isPrefixOf text || ("\"" ++ key ++ "\":").isPrefixOf text
    || ("'" ++ key ++ "':").isPrefixOf text

/-- The number of the first line, counted from `number`, whose text starts with a
    key and its colon. -/
def findKeyLineFrom? (key : Text) (number : Int) : List Text → Option Int
  | [] => none
  | line :: rest =>
    if startsWithKey key (Text.trim line) then some number
    else findKeyLineFrom? key (number + 1) rest

/-- The number of the first line whose text starts with a key and its colon. -/
def findKeyLine? (document : Document) (key : Text) : Option Int :=
  findKeyLineFrom? key 1 document.lines

end Document

end WorkflowLint
