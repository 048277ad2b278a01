/-
  WorkflowLint/Proofs/Tree/Relabel.lean
  =====================================
  **Trees with other labels.**

  A relabelling gives the scalars of a tree other values and moves the recorded
  lines, and keeps the shape and the keys.  It commutes with whatever is done to
  a tree: looking something up, setting a key, appending an item, and changing
  the node at an address (`IsRelabelling.modifyAt_eq`).
-/
import WorkflowLint.Tree.Node

namespace WorkflowLint

/-! ### Entries -/

/-- An entry with its value changed and its line moved. -/
def Entry.relabel {α : Type} (move : Int → Int) (f : α → α) (entry : Entry α) : Entry α :=
  ⟨entry.key, entry.line.map move, f entry.value⟩

namespace Entries

variable {α : Type} (move : Int → Int) (f : α → α) (key : Text) (entries : List (Entry α))

theorem find?_relabel : find? key (entries.map (Entry.relabel move f)) =
    (find? key entries).map (Entry.relabel move f) :=
  List.find?_map ..

theorem get?_relabel :
    get? key (entries.map (Entry.relabel move f)) = (get? key entries).map f := by
  rw [get?, get?, find?_relabel, Option.map_map, Option.map_map]
  rfl

theorem has_relabel : has key (entries.map (Entry.relabel move f)) = has key entries := by
  rw [has, has, find?_relabel, Option.isSome_map]

theorem keys_relabel : keys (entries.map (Entry.relabel move f)) = keys entries := by
  rw [keys, keys, List.map_map]
  rfl

theorem set_relabel (value : α) (line : Option Int) :
    (set key value line entries).map (Entry.relabel move f) =
      set key (f value) (line.map move) (entries.map (Entry.relabel move f)) := by
  induction entries with
  | nil => rfl
  | cons entry rest ih =>
    rw [set, List.map_cons, set]
    by_cases hkey : entry.key = key
    · rw [if_pos hkey, if_pos (show (entry.relabel move f).key = key from hkey), List.map_cons]
      cases line <;> rfl
    · rw [if_neg hkey, if_neg (show ¬(entry.relabel move f).key = key from hkey), List.map_cons, ih]

theorem modify_relabel {g : α → α} {change change' : α → α}
    (h : ∀ value, g (change value) = change' (g value)) :
    (modify key change entries).map (Entry.relabel move g) =
      modify key change' (entries.map (Entry.relabel move g)) := by
  induction entries with
  | nil => rfl
  | cons entry rest ih =>
    rw [modify, List.map_cons, modify]
    by_cases hkey : entry.key = key
    · rw [if_pos hkey, if_pos (show (entry.relabel move g).key = key from hkey), List.map_cons]
      simp only [Entry.relabel, h]
    · rw [if_neg hkey, if_neg (show ¬(entry.relabel move g).key = key from hkey), List.map_cons, ih]

end Entries

/-! ### Trees -/

namespace Node

/-- A function on trees that gives scalars other values and moves lines, and that keeps the
    shape and the keys. -/
structure IsRelabelling (move : Int → Int) (f : Node → Node) : Prop where
  scalar_eq : ∀ value line, ∃ value', f (.scalar value line) = .scalar value' (line.map move)
  sequence_eq : ∀ items line, f (.sequence items line) = .sequence (items.map f) (line.map move)
  mapping_eq : ∀ entries line,
    f (.mapping entries line) = .mapping (entries.map (Entry.relabel move f)) (line.map move)

namespace IsRelabelling

variable {move : Int → Int} {f : Node → Node} (h : IsRelabelling move f)

include h

theorem entries_eq (node : Node) :
    (f node).entries = node.entries.map (Entry.relabel move f) := by
  cases node with
  | scalar value line =>
    obtain ⟨value', hvalue⟩ := h.scalar_eq value line
    rw [hvalue]
    rfl
  | sequence items line => rw [h.sequence_eq]; rfl
  | mapping entries line => rw [h.mapping_eq]; rfl

theorem child?_eq (node : Node) (step : Step) :
    (f node).child? step = (node.child? step).map f := by
  cases node with
  | scalar value line =>
    obtain ⟨value', hvalue⟩ := h.scalar_eq value line
    rw [hvalue]
    cases step <;> rfl
  | sequence items line =>
    rw [h.sequence_eq]
    cases step with
    | key key => rfl
    | item index => exact List.getElem?_map ..
  | mapping entries line =>
    rw [h.mapping_eq]
    cases step with
    | key key => exact Entries.get?_relabel move f key entries
    | item index => rfl

theorem at?_eq (node : Node) (address : Address) :
    (f node).at? address = (node.at? address).map f := by
  induction address generalizing node with
  | nil => simp
  | cons step rest ih =>
    rw [at?_cons, at?_cons, h.child?_eq]
    cases node.child? step with
    | none => rfl
    | some child => exact ih child

theorem set_eq (node : Node) (key : Text) (value : Node) (keyLine : Option Int) :
    f (node.set key value keyLine) = (f node).set key (f value) (keyLine.map move) := by
  cases node with
  | scalar value' line =>
    obtain ⟨value', hvalue⟩ := h.scalar_eq value' line
    rw [hvalue]
    exact hvalue
  | sequence items line =>
    rw [h.sequence_eq]
    exact h.sequence_eq items line
  | mapping entries line => rw [set, h.mapping_eq, h.mapping_eq, set, Entries.set_relabel]

theorem append_eq (node item : Node) : f (node.append item) = (f node).append (f item) := by
  cases node with
  | scalar value line =>
    obtain ⟨value', hvalue⟩ := h.scalar_eq value line
    rw [hvalue]
    exact hvalue
  | sequence items line =>
    rw [append, h.sequence_eq, h.sequence_eq, append, List.map_append, List.map_singleton]
  | mapping entries line =>
    rw [h.mapping_eq]
    exact h.mapping_eq entries line

theorem modifyChild_eq {change change' : Node → Node}
    (hchange : ∀ node, f (change node) = change' (f node)) (step : Step) (node : Node) :
    f (modifyChild change step node) = modifyChild change' step (f node) := by
  cases node with
  | scalar value line =>
    obtain ⟨value', hvalue⟩ := h.scalar_eq value line
    cases step <;> simp only [modifyChild, hvalue]
  | sequence items line =>
    cases step with
    | key key => simp only [modifyChild, h.sequence_eq]
    | item index =>
      simp only [modifyChild, h.sequence_eq, Node.sequence.injEq, and_true]
      refine List.ext_getElem? fun i => ?_
      rw [List.getElem?_map, List.getElem?_modify, List.getElem?_modify, List.getElem?_map]
      cases items[i]? with
      | none => rfl
      | some item =>
        split
        · exact congrArg some (hchange item)
        · rfl
  | mapping entries line =>
    cases step with
    | key key =>
      simp only [modifyChild, h.mapping_eq, Entries.modify_relabel move key entries hchange]
    | item index => simp only [modifyChild, h.mapping_eq]

/-- A change that commutes with the relabelling does so at any address. -/
theorem modifyAt_eq {change change' : Node → Node}
    (hchange : ∀ node, f (change node) = change' (f node)) (address : Address) (node : Node) :
    f (modifyAt change address node) = modifyAt change' address (f node) := by
  induction address generalizing node with
  | nil => exact hchange node
  | cons step rest ih => exact h.modifyChild_eq ih step node

end IsRelabelling

end Node

end WorkflowLint
