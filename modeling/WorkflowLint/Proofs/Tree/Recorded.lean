/-
  WorkflowLint/Proofs/Tree/Recorded.lean
  ======================================
  **The lines recorded for keys.**

  A mapping records a line for each of its keys (`Node.keyLine?`).  The lines depend
  on what a node says of its keys alone (`keyLine?_eq_of_keyed_eq`), so a change that
  leaves the keys of a node alone leaves their lines alone as well, whatever becomes
  of the values.
-/
import WorkflowLint.Proofs.Tree.Elsewhere
import WorkflowLint.Proofs.Tree.Overlay

namespace WorkflowLint

/-! ### Entries with lines -/

namespace Entries

variable {α : Type} {key : Text}

theorem lineOf?_cons (entry : Entry α) (rest : List (Entry α)) :
    lineOf? key (entry :: rest) = if entry.key = key then entry.line else lineOf? key rest := by
  rw [lineOf?, find?, List.find?_cons]
  by_cases hkey : entry.key = key
  · rw [if_pos hkey, decide_eq_true hkey, Option.bind_some]
  · rw [if_neg hkey, decide_eq_false hkey, lineOf?, find?]

theorem lineOf?_set (other : Text) (value : α) (line : Int) (entries : List (Entry α)) :
    lineOf? key (set other value (some line) entries) =
      if other = key then some line else lineOf? key entries := by
  induction entries with
  | nil => rw [set, lineOf?_cons]
  | cons entry rest ih =>
    rw [set]
    split
    · rename_i hother
      rw [lineOf?_cons, lineOf?_cons, hother]
      split
      · rfl
      · rfl
    · rename_i hother
      rw [lineOf?_cons, lineOf?_cons, ih]
      by_cases hkey : entry.key = key
      · have hne : other ≠ key := fun heq => hother (hkey.trans heq.symm)
        rw [if_pos hkey, if_pos hkey, if_neg hne]
      · rw [if_neg hkey, if_neg hkey]

/-- No key stands in two entries, and each has a line. -/
def Recorded (entries : List (Entry α)) : Prop :=
  (keys entries).Nodup ∧ ∀ entry ∈ entries, entry.line.isSome = true

theorem recorded_nil : Recorded ([] : List (Entry α)) :=
  ⟨List.nodup_nil, fun _ hentry => absurd hentry List.not_mem_nil⟩

theorem Recorded.set {entries : List (Entry α)} (h : Recorded entries) (key : Text) (value : α)
    (line : Int) : Recorded (set key value (some line) entries) :=
  ⟨nodup_keys_set h.1 key value _, fun _ => isSome_line_of_mem_set h.2 (.inl rfl)⟩

theorem find?_of_mem {entries : List (Entry α)} (hnodup : (keys entries).Nodup) {entry : Entry α}
    (h : entry ∈ entries) : find? entry.key entries = some entry := by
  induction entries with
  | nil => exact absurd h List.not_mem_nil
  | cons first rest ih =>
    rw [keys, List.map_cons, List.nodup_cons] at hnodup
    rw [find?, List.find?_cons]
    rcases List.mem_cons.mp h with rfl | hrest
    · rw [decide_eq_true rfl]
    · have hne : first.key ≠ entry.key := fun heq =>
        hnodup.1 (heq ▸ List.mem_map_of_mem hrest)
      rw [decide_eq_false hne]
      exact ih hnodup.2 hrest

theorem filter_of_mem {entries : List (Entry α)} (hnodup : (keys entries).Nodup) {entry : Entry α}
    (h : entry ∈ entries) : entries.filter (fun other => other.key = entry.key) = [entry] := by
  induction entries with
  | nil => exact absurd h List.not_mem_nil
  | cons first rest ih =>
    rw [keys, List.map_cons, List.nodup_cons] at hnodup
    rcases List.mem_cons.mp h with rfl | hrest
    · rw [List.filter_cons_of_pos (by simp), List.filter_eq_nil_iff.mpr]
      intro other hother heq
      exact hnodup.1 (of_decide_eq_true heq ▸ List.mem_map_of_mem hother)
    · have hne : first.key ≠ entry.key := fun heq =>
        hnodup.1 (heq ▸ List.mem_map_of_mem hrest)
      rw [List.filter_cons_of_neg (by simp [hne]), ih hnodup.2 hrest]

end Entries

namespace Node

variable {number : Int} {tree node : Node} {address : Address} {key : Text}

/-- The line recorded for a key of the mapping at an address. -/
def keyLine? (tree : Node) (address : Address) (key : Text) : Option Int :=
  (tree.at? address).bind fun node => Entries.lineOf? key node.entries

theorem keyLine?_of_at? (h : tree.at? address = some node) (key : Text) :
    tree.keyLine? address key = Entries.lineOf? key node.entries := by
  rw [keyLine?, h, Option.bind_some]

/-- The keys of a node with their lines, the values left aside. -/
def keyed (node : Node) : List (Entry Node) :=
  node.entries.map fun entry => { entry with value := default }

theorem keyed_own (node : Node) : node.own.keyed = node.keyed := by
  cases node with
  | scalar value line => rfl
  | sequence items line => rfl
  | mapping entries line => simp [own, keyed, Node.entries]

theorem recorded_keyed {node : Node} :
    Entries.Recorded node.keyed ↔ Entries.Recorded node.entries := by
  have hkeys : Entries.keys node.keyed = Entries.keys node.entries := by
    rw [Entries.keys, keyed, List.map_map]
    rfl
  rw [Entries.Recorded, Entries.Recorded, hkeys, keyed, List.forall_mem_map]

theorem lineOf?_keyed (key : Text) (node : Node) :
    Entries.lineOf? key node.keyed = Entries.lineOf? key node.entries := by
  rw [keyed]
  induction node.entries with
  | nil => rfl
  | cons entry rest ih => rw [List.map_cons, Entries.lineOf?_cons, Entries.lineOf?_cons, ih]

theorem keyLine?_eq_of_keyed_eq {tree' : Node}
    (h : (tree'.at? address).map keyed = (tree.at? address).map keyed) (key : Text) :
    tree'.keyLine? address key = tree.keyLine? address key := by
  have hkeyed (tree : Node) : tree.keyLine? address key =
      ((tree.at? address).map keyed).bind (Entries.lineOf? key) := by
    rw [keyLine?, Option.bind_map]
    exact congrArg _ (funext fun node => (lineOf?_keyed key node).symm)
  rw [hkeyed, hkeyed, h]

theorem keyed_eq_of_own_eq {tree' : Node}
    (h : (tree'.at? address).map own = (tree.at? address).map own) :
    (tree'.at? address).map keyed = (tree.at? address).map keyed := by
  have hkeyed := congrArg (Option.map keyed) h
  rw [Option.map_map, Option.map_map] at hkeyed
  have hcomp : keyed ∘ own = keyed := funext keyed_own
  rwa [hcomp] at hkeyed

/-! ### Nodes without keys -/

/-- A node as a line leaves it behind, with nothing below it. -/
inductive IsFresh (number : Int) : Node → Prop
  | mapping : IsFresh number (.mapping [] (some number))
  | scalar (value : Scalar) : IsFresh number (.scalar value (some number))

theorem IsFresh.child?_eq_none (h : node.IsFresh number) (step : Step) :
    node.child? step = none := by
  cases h with
  | mapping => cases step <;> rfl
  | scalar value => cases step <;> rfl

theorem IsFresh.line?_eq (h : node.IsFresh number) : node.line? = some number := by
  cases h <;> rfl

/-- What is written for a line before its keys: a node without nodes below it, or the sequence
    that one comes with. -/
inductive IsKeyless (number : Int) : Node → Prop
  | fresh {node : Node} (h : node.IsFresh number) : IsKeyless number node
  | list {item : Node} (h : item.IsFresh number) : IsKeyless number (.sequence [item] (some number))

theorem IsFresh.eq_nil_of_at? (h : node.IsFresh number) {back : Address} {below : Node}
    (hat : node.at? back = some below) : back = [] ∧ below = node := by
  cases back with
  | nil =>
    rw [at?_nil, Option.some_inj] at hat
    exact ⟨rfl, hat.symm⟩
  | cons step rest =>
    rw [at?_cons, h.child?_eq_none] at hat
    cases hat

/-- What is found in it: a fresh node, or the list of one. -/
theorem IsKeyless.of_at? (h : node.IsKeyless number) {back : Address} {below : Node}
    (hat : node.at? back = some below) : below.IsKeyless number := by
  cases h with
  | fresh h =>
    obtain ⟨-, rfl⟩ := h.eq_nil_of_at? hat
    exact .fresh h
  | list h =>
    cases back with
    | nil =>
      rw [at?_nil, Option.some_inj] at hat
      subst hat
      exact .list h
    | cons step rest =>
      rw [at?_cons, Option.bind_eq_some_iff] at hat
      obtain ⟨item, hitem, hat⟩ := hat
      cases step with
      | key key => cases hitem
      | item index =>
        have hmem := List.mem_of_getElem? hitem
        rw [List.mem_singleton.mp hmem] at hat
        obtain ⟨-, rfl⟩ := h.eq_nil_of_at? hat
        exact .fresh h

theorem IsKeyless.keyed_eq_nil (h : node.IsKeyless number) : node.keyed = [] := by
  cases h with
  | list h => rfl
  | fresh h =>
    cases h with
    | mapping => rfl
    | scalar value => rfl

end Node

end WorkflowLint
