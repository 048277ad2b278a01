/-
  WorkflowLint/Json/Tree.lean
  ===========================
  **Trees as JSON.**

  The plain value of a node: mappings become objects, sequences arrays, and the
  recorded lines are left out.
-/
import WorkflowLint.Json.Basic
import WorkflowLint.Tree.Node

namespace WorkflowLint

/-- The plain value of a scalar. -/
def Scalar.toJson : Scalar → Json
  | .str value => .str value
  | .int value => .int value
  | .bool value => .bool value

namespace Node

mutual

/-- The plain value of a node. -/
def toJson : Node → Json
  | .scalar value _ => value.toJson
  | .sequence items _ => .array (itemsToJson items)
  | .mapping entries _ => .object (entriesToJson entries)

/-- The plain values of items. -/
def itemsToJson : List Node → List Json
  | [] => []
  | item :: items => toJson item :: itemsToJson items

/-- The plain values of entries under their keys. -/
def entriesToJson : List (Entry Node) → List (Text × Json)
  | [] => []
  | ⟨key, _, value⟩ :: entries => (key, toJson value) :: entriesToJson entries

end

end Node

end WorkflowLint
