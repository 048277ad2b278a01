/-
  WorkflowLint/Proofs/Tree/Elsewhere.lean
  =======================================
  **What a change leaves alone.**

  A change at an address reaches the node there and the nodes below it.  A node
  anywhere else keeps what it says of itself: its kind, its line, its keys with their
  lines, and the number of its items (`own_at?_modifyAt`).  Only the nodes above the
  address have children that are not what they were.
-/
import WorkflowLint.Proofs.Tree.Address

namespace WorkflowLint

theorem Entries.get?_modify_of_ne {α : Type} {key other : Text} (h : other ≠ key) (f : α → α)
    (entries : List (Entry α)) : get? key (modify other f entries) = get? key entries := by
  induction entries with
  | nil => rfl
  | cons entry rest ih =>
    rw [modify]
    split
    · rename_i hother
      have hkey : entry.key ≠ key := fun heq => h (hother.symm.trans heq)
      rw [get?_cons, get?_cons, if_neg hkey, if_neg hkey]
    · rw [get?_cons, get?_cons, ih]

namespace Node

/-! ### Nodes without their children -/

/-- What a node says of itself, its children left aside: a mapping its keys with their lines, a
    sequence the number of its items, and each node its kind and its line. -/
def own : Node → Node
  | .scalar value line => .scalar value line
  | .sequence items line => .sequence (items.map fun _ => default) line
  | .mapping entries line =>
    .mapping (entries.map fun entry => { entry with value := default }) line

/-- The kind and the line of a node, and its value if it is a scalar. -/
def bare : Node → Node
  | .scalar value line => .scalar value line
  | .sequence _ line => .sequence [] line
  | .mapping _ line => .mapping [] line

theorem bare_own (node : Node) : node.own.bare = node.bare := by cases node <;> rfl

theorem line?_bare (node : Node) : node.bare.line? = node.line? := by cases node <;> rfl

theorem bare_eq_scalar {node : Node} {value : Scalar} {line : Option Int} :
    node.bare = .scalar value line ↔ node = .scalar value line := by
  cases node <;> simp [bare]

theorem bare_eq_mapping {node : Node} {line : Option Int} :
    node.bare = .mapping [] line ↔ ∃ entries, node = .mapping entries line := by
  cases node <;> simp [bare]

theorem bare_eq_sequence {node : Node} {line : Option Int} :
    node.bare = .sequence [] line ↔ ∃ items, node = .sequence items line := by
  cases node <;> simp [bare]

/-! ### Changes beside and below -/

theorem child?_modifyChild_of_ne {step other : Step} (h : step ≠ other) (f : Node → Node)
    (node : Node) : (modifyChild f step node).child? other = node.child? other := by
  cases node with
  | scalar value line => cases step <;> rfl
  | sequence items line =>
    cases step with
    | key key => rfl
    | item index =>
      cases other with
      | key key => rfl
      | item index' =>
        have hindex : index ≠ index' := fun heq => h (congrArg Step.item heq)
        exact List.getElem?_modify_ne f items hindex
  | mapping entries line =>
    cases step with
    | item index => rfl
    | key key =>
      cases other with
      | item index => rfl
      | key key' =>
        have hkey : key ≠ key' := fun heq => h (congrArg Step.key heq)
        exact Entries.get?_modify_of_ne hkey f entries

theorem own_modifyChild (f : Node → Node) (step : Step) (node : Node) :
    (modifyChild f step node).own = node.own := by
  cases node with
  | scalar value line => cases step <;> rfl
  | sequence items line =>
    cases step with
    | key key => rfl
    | item index => simp [modifyChild, own, List.map_const']
  | mapping entries line =>
    cases step with
    | item index => rfl
    | key key =>
      simp only [modifyChild, own, mapping.injEq, and_true]
      induction entries with
      | nil => rfl
      | cons entry rest ih =>
        rw [Entries.modify]
        split
        · rfl
        · rw [List.map_cons, List.map_cons, ih]

/-- A node that is not at an address or below it keeps what it says of itself. -/
theorem own_at?_modifyAt {address other : Address} (h : ¬address <+: other) (f : Node → Node)
    (tree : Node) : ((modifyAt f address tree).at? other).map own = (tree.at? other).map own := by
  induction address generalizing tree other with
  | nil => exact absurd List.nil_prefix h
  | cons step rest ih =>
    rw [modifyAt]
    cases other with
    | nil => rw [at?_nil, at?_nil, Option.map_some, own_modifyChild, Option.map_some]
    | cons step' rest' =>
      rw [at?_cons, at?_cons]
      by_cases heq : step = step'
      · subst heq
        rw [child?_modifyChild]
        cases tree.child? step with
        | none => rfl
        | some child => exact ih (fun hrest => h (List.cons_prefix_cons.mpr ⟨rfl, hrest⟩)) child
      · rw [child?_modifyChild_of_ne heq]

/-- What is put below a node is put into that node. -/
theorem put_below {tree node : Node} {address : Address} (h : tree.at? address = some node)
    (back : Address) (below : Node) :
    tree.put (address ++ back) below = tree.put address (node.put back below) := by
  rw [put, modifyAt_append, modifyAt_eq_put h]
  rfl

end Node

end WorkflowLint
