/-
  WorkflowLint/Yaml/Document.lean
  ===============================
  **Documents.**

  A document is its root value with the nodes that its containers belong to.
  Loading one gives the loader as it is left, also if the text is refused.
-/
import WorkflowLint.Yaml.Encoding
import WorkflowLint.Yaml.Node
import WorkflowLint.Yaml.Value

namespace WorkflowLint.Yaml

/-- A document. -/
structure Document where
  root : Value
  graph : Graph
deriving DecidableEq, Repr

namespace Document

/-- The value of the root that lexemes stand for. -/
def readRoot (lexemes : List Lexeme) : Load Value := do
  match ← Node.ofLexemes lexemes with
  | none => pure .null
  | some root => Value.ofRoot root

/-- The document in a file, and the loader after it. -/
def load (loader : Loader) (octets : Octets) : Except Fault Document × Loader :=
  match readText octets with
  | .error fault => (.error fault, loader)
  | .ok text =>
    match (readRoot (readLexemes text)).run.run loader with
    | (.error fault, loader) => (.error fault, loader)
    | (.ok root, loader) => (.ok ⟨root, loader.graph⟩, loader)

/-- The entries of a value that is a mapping. -/
def entries? (document : Document) : Value → Option (List (Key × Value))
  | .atom _ => none
  | .container id =>
    match document.graph.content id with
    | .mapping entries => some entries
    | .list _ => none

end Document

end WorkflowLint.Yaml
