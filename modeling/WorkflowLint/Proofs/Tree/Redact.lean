/-
  WorkflowLint/Proofs/Tree/Redact.lean
  ====================================
  **Trees up to some of their texts.**

  Redacting a tree blanks the strings that were read from hidden lines and keeps
  everything else: the shape, the keys, and all recorded lines.  Two trees with
  the same redaction differ in such strings only.  Redacting commutes with
  whatever is done to a tree, so a reader of trees cannot make more of the
  difference than that.
-/
import WorkflowLint.Proofs.Tree.Relabel

namespace WorkflowLint

/-- A scalar without its text, if it is a string. -/
def Scalar.redact : Scalar → Scalar
  | .str _ => .str []
  | scalar => scalar

mutual

/-- The tree with the strings from hidden lines blanked. -/
def Node.redact (hidden : Int → Bool) : Node → Node
  | .scalar value line => .scalar (if line.any hidden then value.redact else value) line
  | .sequence items line => .sequence (Node.redactItems hidden items) line
  | .mapping entries line => .mapping (Node.redactEntries hidden entries) line

/-- The items with the strings from hidden lines blanked. -/
def Node.redactItems (hidden : Int → Bool) : List Node → List Node
  | [] => []
  | item :: rest => item.redact hidden :: Node.redactItems hidden rest

/-- The entries with the strings from hidden lines blanked. -/
def Node.redactEntries (hidden : Int → Bool) : List (Entry Node) → List (Entry Node)
  | [] => []
  | ⟨key, line, value⟩ :: rest => ⟨key, line, value.redact hidden⟩ :: Node.redactEntries hidden rest

end

/-! ### Values of entries -/

/-- An entry with its value changed. -/
def Entry.mapValue {α : Type} (f : α → α) (entry : Entry α) : Entry α :=
  { entry with value := f entry.value }

theorem Entry.mapValue_eq_relabel {α : Type} (f : α → α) :
    Entry.mapValue f = Entry.relabel id f := by
  funext entry
  rw [mapValue, relabel, Option.map_id_fun, id]

namespace Node

variable (hidden : Int → Bool)

theorem redactItems_eq_map (items : List Node) :
    redactItems hidden items = items.map (redact hidden) := by
  induction items with
  | nil => rw [redactItems, List.map_nil]
  | cons item rest ih => rw [redactItems, ih, List.map_cons]

theorem redactEntries_eq_map (entries : List (Entry Node)) :
    redactEntries hidden entries = entries.map (Entry.mapValue (redact hidden)) := by
  induction entries with
  | nil => rw [redactEntries, List.map_nil]
  | cons entry rest ih =>
    obtain ⟨key, line, value⟩ := entry
    rw [redactEntries, ih, List.map_cons]
    rfl

@[simp] theorem redact_scalar (value : Scalar) (line : Option Int) :
    (scalar value line).redact hidden =
      scalar (if line.any hidden then value.redact else value) line := by
  rw [redact]

@[simp] theorem redact_sequence (items : List Node) (line : Option Int) :
    (sequence items line).redact hidden = sequence (items.map (redact hidden)) line := by
  rw [redact, redactItems_eq_map]

@[simp] theorem redact_mapping (entries : List (Entry Node)) (line : Option Int) :
    (mapping entries line).redact hidden =
      mapping (entries.map (Entry.mapValue (redact hidden))) line := by
  rw [redact, redactEntries_eq_map]

/-! ### Reading and changing a redacted tree -/

theorem isRelabelling_redact : IsRelabelling id (redact hidden) where
  scalar_eq value line := by
    rw [redact_scalar, Option.map_id_fun, id]
    exact ⟨_, rfl⟩
  sequence_eq items line := by rw [redact_sequence, Option.map_id_fun, id]
  mapping_eq entries line := by
    rw [redact_mapping, Entry.mapValue_eq_relabel, Option.map_id_fun, id]

theorem at?_redact (node : Node) (address : Address) :
    (node.redact hidden).at? address = (node.at? address).map (redact hidden) :=
  (isRelabelling_redact hidden).at?_eq node address

theorem set_redact (node : Node) (key : Text) (value : Node) (keyLine : Option Int) :
    (node.set key value keyLine).redact hidden =
      (node.redact hidden).set key (value.redact hidden) keyLine := by
  have hset := (isRelabelling_redact hidden).set_eq node key value keyLine
  rwa [Option.map_id_fun, id] at hset

theorem append_redact (node item : Node) :
    (node.append item).redact hidden = (node.redact hidden).append (item.redact hidden) :=
  (isRelabelling_redact hidden).append_eq node item

/-- A change that commutes with redacting does so at any address. -/
theorem modifyAt_redact {change change' : Node → Node}
    (h : ∀ node, (change node).redact hidden = change' (node.redact hidden)) (address : Address)
    (node : Node) :
    (modifyAt change address node).redact hidden =
      modifyAt change' address (node.redact hidden) :=
  (isRelabelling_redact hidden).modifyAt_eq h address node

end Node

end WorkflowLint
