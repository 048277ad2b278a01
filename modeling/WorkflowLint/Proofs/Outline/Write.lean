/-
  WorkflowLint/Proofs/Outline/Write.lean
  ======================================
  **One write to the tree.**

  A line of an outline changes the tree in one place or not at all.  It sets a key of
  a mapping or appends an item to a sequence, and the first item of a list puts its
  sequence where an empty mapping has kept the place for it.  In all three cases one
  step below one node comes to lead to something new, the other steps from there lead
  where they led before, and the rest of the tree does not notice (`Writes.own_eq`).
-/
import WorkflowLint.Proofs.Outline.Place
import WorkflowLint.Proofs.Tree.Elsewhere
import WorkflowLint.Proofs.Tree.Overlay

namespace WorkflowLint.Outline

/-- A write to a tree while line `number` is read: from `container`, the step `last` comes to lead
    to `written`.  The last argument is the tree after it. -/
inductive Writes (number : Int) (tree : Node) : Address → Step → Node → Node → Prop
  | set {owner : Address} {entries : List (Entry Node)} {line : Option Int}
      (hat : tree.at? owner = some (.mapping entries line)) (key : Text) (value : Node) :
      Writes number tree owner (.key key) value
        (tree.put owner (.mapping (Entries.set key value (some number) entries) line))
  | start {owner : Address} {key : Text} {line : Option Int}
      (hat : tree.at? (owner ++ [.key key]) = some (.mapping [] line)) (item : Node) :
      Writes number tree owner (.key key) (.sequence [item] (some number))
        (tree.put (owner ++ [.key key]) (.sequence [item] (some number)))
  | append {list : Address} {items : List Node} {line : Option Int}
      (hat : tree.at? list = some (.sequence items line)) (item : Node) :
      Writes number tree list (.item items.length) item
        (tree.put list (.sequence (items ++ [item]) line))

namespace Writes

variable {number : Int} {tree tree' written : Node} {container other : Address} {last : Step}

/-- A write puts another node in the place of the container, which differs in one step. -/
theorem exists_put (h : Writes number tree container last written tree') : ∃ old new,
    tree.at? container = some old ∧ tree' = tree.put container new ∧ new.bare = old.bare ∧
      new.child? last = some written ∧ ∀ step, step ≠ last → new.child? step = old.child? step := by
  cases h with
  | set hat key =>
    refine ⟨_, _, hat, rfl, rfl, Entries.get?_set_self key written _ _, fun step hstep => ?_⟩
    cases step with
    | item index => rfl
    | key key' =>
      exact Entries.get?_set_of_ne (fun heq => hstep (congrArg Step.key heq.symm)) _ _ _
  | start hat item =>
    rename_i key line
    obtain ⟨entries, ownerLine, howner, hget⟩ := Node.exists_mapping_of_at?_key hat
    refine ⟨_, _, howner, Node.put_below howner _ _, rfl, ?_, fun step hstep => ?_⟩
    · exact (Entries.get?_modify _).trans (congrArg _ hget)
    · exact Node.child?_modifyChild_of_ne hstep.symm _ (.mapping entries ownerLine)
  | append hat =>
    rename_i items line
    refine ⟨_, _, hat, rfl, rfl, List.getElem?_concat_length, fun step hstep => ?_⟩
    cases step with
    | key key => rfl
    | item index =>
      have hne : index ≠ items.length := fun heq => hstep (congrArg Step.item heq)
      rcases Nat.lt_or_ge index items.length with hlt | hge
      · exact List.getElem?_append_left hlt
      · show (items ++ [written])[index]? = items[index]?
        rw [List.getElem?_eq_none hge, List.getElem?_eq_none]
        rw [List.length_append, List.length_singleton]
        omega

/-- What the new step leads to. -/
theorem at?_place (h : Writes number tree container last written tree') (back : Address) :
    tree'.at? (container ++ last :: back) = written.at? back := by
  obtain ⟨old, new, hold, rfl, -, hlast, -⟩ := h.exists_put
  rw [Node.at?_put_append hold, Node.at?_cons, hlast, Option.bind_some]

/-- The other steps lead where they led before. -/
theorem at?_beside (h : Writes number tree container last written tree') {step : Step}
    (hstep : step ≠ last) (back : Address) :
    tree'.at? (container ++ step :: back) = tree.at? (container ++ step :: back) := by
  obtain ⟨old, new, hold, rfl, -, -, hbeside⟩ := h.exists_put
  rw [Node.at?_put_append hold, Node.at?_append tree, hold, Option.bind_some, Node.at?_cons,
    Node.at?_cons, hbeside step hstep]

/-- The container and what was written set aside, all nodes keep what they say of themselves. -/
theorem own_eq (h : Writes number tree container last written tree')
    (hplace : ¬container ++ [last] <+: other) (hne : other ≠ container) :
    (tree'.at? other).map Node.own = (tree.at? other).map Node.own := by
  by_cases hbelow : container <+: other
  · obtain ⟨back, rfl⟩ := hbelow
    cases back with
    | nil => exact absurd (List.append_nil container) hne
    | cons step rest =>
      have hstep : step ≠ last := by
        rintro rfl
        exact hplace ⟨rest, by simp⟩
      rw [h.at?_beside hstep]
  · obtain ⟨old, new, -, rfl, -⟩ := h.exists_put
    exact Node.own_at?_modifyAt hbelow _ tree

/-- What was written set aside, all nodes keep their kind and their line. -/
theorem bare_eq (h : Writes number tree container last written tree')
    (hplace : ¬container ++ [last] <+: other) :
    (tree'.at? other).map Node.bare = (tree.at? other).map Node.bare := by
  by_cases hne : other = container
  · subst hne
    obtain ⟨old, new, hold, rfl, hbare, -⟩ := h.exists_put
    rw [Node.at?_put hold, hold, Option.map_some, Option.map_some, hbare]
  · have hown := congrArg (Option.map Node.bare) (h.own_eq hplace hne)
    rw [Option.map_map, Option.map_map] at hown
    have hcomp : Node.bare ∘ Node.own = Node.bare := funext Node.bare_own
    rwa [hcomp] at hown

/-- A node elsewhere is there after the write, of the same kind and with the same line. -/
theorem exists_at? (h : Writes number tree container last written tree')
    (hplace : ¬container ++ [last] <+: other) {node : Node} (hnode : tree.at? other = some node) :
    ∃ node', tree'.at? other = some node' ∧ node'.bare = node.bare := by
  have hbare := h.bare_eq hplace
  rwa [hnode, Option.map_some, Option.map_eq_some_iff] at hbare

end Writes

end WorkflowLint.Outline
