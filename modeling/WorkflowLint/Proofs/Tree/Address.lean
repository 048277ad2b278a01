/-
  WorkflowLint/Proofs/Tree/Address.lean
  =====================================
  **Writing below an address.**

  Changes at addresses compose: two changes at one address are one change, and a
  change below an address is a change at it (`modifyAt_modifyAt`,
  `modifyAt_append`).  So whatever is written below an address of a tree comes to
  putting one node there (`put_append`), and the rest of the tree can be left out
  of the account.
-/
import WorkflowLint.Tree.Node

namespace WorkflowLint

namespace Entries

variable {α : Type} {key : Text} {entries : List (Entry α)}

theorem modify_modify (f g : α → α) :
    modify key g (modify key f entries) = modify key (fun value => g (f value)) entries := by
  induction entries with
  | nil => rfl
  | cons entry rest ih =>
    simp only [modify]
    split
    · rename_i hkey
      simp only [modify, if_pos hkey]
    · rename_i hkey
      simp only [modify, if_neg hkey, ih]

theorem get?_cons (entry : Entry α) (rest : List (Entry α)) :
    get? key (entry :: rest) = if entry.key = key then some entry.value else get? key rest := by
  rw [get?, find?, List.find?_cons]
  by_cases hkey : entry.key = key
  · rw [if_pos hkey, decide_eq_true hkey]
    rfl
  · rw [if_neg hkey, decide_eq_false hkey]
    rfl

theorem get?_modify (f : α → α) : get? key (modify key f entries) = (get? key entries).map f := by
  induction entries with
  | nil => rfl
  | cons entry rest ih =>
    rw [modify, get?_cons]
    by_cases hkey : entry.key = key
    · rw [if_pos hkey, if_pos hkey, get?_cons, if_pos hkey, Option.map_some]
    · rw [if_neg hkey, if_neg hkey, get?_cons, if_neg hkey, ih]

/-- A change matters only through the value that is there. -/
theorem modify_congr {f g : α → α} {value : α} (h : get? key entries = some value)
    (hfg : f value = g value) : modify key f entries = modify key g entries := by
  induction entries with
  | nil => rfl
  | cons entry rest ih =>
    rw [get?_cons] at h
    by_cases hkey : entry.key = key
    · rw [if_pos hkey, Option.some.injEq] at h
      rw [modify, modify, if_pos hkey, if_pos hkey, h, hfg]
    · rw [if_neg hkey] at h
      rw [modify, modify, if_neg hkey, if_neg hkey, ih h]

theorem modify_id : modify key (fun value => value) entries = entries := by
  induction entries with
  | nil => rfl
  | cons entry rest ih =>
    rw [modify]
    split
    · rfl
    · rw [ih]

/-! ### Keys that come last -/

theorem set_of_not_mem (h : key ∉ keys entries) (value : α) (line : Option Int) :
    set key value line entries = entries ++ [⟨key, line, value⟩] := by
  induction entries with
  | nil => rfl
  | cons entry rest ih =>
    rw [keys, List.map_cons, List.mem_cons, not_or] at h
    rw [set, if_neg (fun e => h.1 e.symm), ih h.2, List.cons_append]

/-- Setting a key that is there without a line changes its value. -/
theorem set_none {value : α} {old : α} (h : get? key entries = some old) :
    set key value none entries = modify key (fun _ => value) entries := by
  induction entries with
  | nil => cases h
  | cons entry rest ih =>
    rw [get?_cons] at h
    by_cases hkey : entry.key = key
    · rw [set, modify, if_pos hkey, if_pos hkey, hkey, Option.none_or]
    · rw [if_neg hkey] at h
      rw [set, modify, if_neg hkey, if_neg hkey, ih h]

theorem get?_append (h : key ∉ keys entries) (line : Option Int) (value : α) :
    get? key (entries ++ [⟨key, line, value⟩]) = some value := by
  induction entries with
  | nil => rw [List.nil_append, get?_cons, if_pos rfl]
  | cons entry rest ih =>
    rw [keys, List.map_cons, List.mem_cons, not_or] at h
    rw [List.cons_append, get?_cons, if_neg (fun e => h.1 e.symm), ih h.2]

theorem modify_append (h : key ∉ keys entries) (line : Option Int) (value : α) (f : α → α) :
    modify key f (entries ++ [⟨key, line, value⟩]) = entries ++ [⟨key, line, f value⟩] := by
  induction entries with
  | nil => rw [List.nil_append, modify, if_pos rfl, List.nil_append]
  | cons entry rest ih =>
    rw [keys, List.map_cons, List.mem_cons, not_or] at h
    rw [List.cons_append, modify, if_neg (fun e => h.1 e.symm), ih h.2, List.cons_append]

end Entries

namespace Node

/-! ### One step down -/

theorem child?_modifyChild (f : Node → Node) (step : Step) (node : Node) :
    (modifyChild f step node).child? step = (node.child? step).map f := by
  cases step with
  | key key =>
    cases node with
    | mapping entries line => exact Entries.get?_modify f
    | scalar value line => rfl
    | sequence items line => rfl
  | item index =>
    cases node with
    | sequence items line => exact List.getElem?_modify_eq f index items
    | scalar value line => rfl
    | mapping entries line => rfl

theorem modifyChild_modifyChild (f g : Node → Node) (step : Step) (node : Node) :
    modifyChild g step (modifyChild f step node) =
      modifyChild (fun child => g (f child)) step node := by
  cases step with
  | key key =>
    cases node with
    | mapping entries line => exact congrArg (Node.mapping · line) (Entries.modify_modify f g)
    | scalar value line => rfl
    | sequence items line => rfl
  | item index =>
    cases node with
    | sequence items line =>
      exact congrArg (Node.sequence · line) (List.modify_modify_eq f g index items)
    | scalar value line => rfl
    | mapping entries line => rfl

theorem modifyChild_congr {f g : Node → Node} {step : Step} {node child : Node}
    (h : node.child? step = some child) (hfg : f child = g child) :
    modifyChild f step node = modifyChild g step node := by
  cases step with
  | key key =>
    cases node with
    | mapping entries line => exact congrArg (Node.mapping · line) (Entries.modify_congr h hfg)
    | scalar value line => rfl
    | sequence items line => rfl
  | item index =>
    cases node with
    | sequence items line =>
      obtain ⟨hindex, rfl⟩ := List.getElem?_eq_some_iff.mp h
      rw [modifyChild, modifyChild, List.modify_eq_take_cons_drop hindex,
        List.modify_eq_take_cons_drop hindex, hfg]
    | scalar value line => rfl
    | mapping entries line => rfl

theorem modifyChild_id (step : Step) (node : Node) :
    modifyChild (fun child => child) step node = node := by
  cases step with
  | key key =>
    cases node with
    | mapping entries line => exact congrArg (Node.mapping · line) Entries.modify_id
    | scalar value line => rfl
    | sequence items line => rfl
  | item index =>
    cases node with
    | sequence items line => exact congrArg (Node.sequence · line) (List.modify_id index items)
    | scalar value line => rfl
    | mapping entries line => rfl

/-! ### Changes at addresses -/

theorem modifyAt_modifyAt (f g : Node → Node) (address : Address) (tree : Node) :
    modifyAt g address (modifyAt f address tree) =
      modifyAt (fun node => g (f node)) address tree := by
  induction address generalizing tree with
  | nil => rfl
  | cons step rest ih =>
    rw [modifyAt, modifyAt, modifyAt, modifyChild_modifyChild]
    exact congrArg (modifyChild · step tree) (funext ih)

/-- A change below an address is a change at it. -/
theorem modifyAt_append (f : Node → Node) (front back : Address) (tree : Node) :
    modifyAt f (front ++ back) tree = modifyAt (modifyAt f back) front tree := by
  induction front generalizing tree with
  | nil => rfl
  | cons step rest ih =>
    rw [List.cons_append, modifyAt, modifyAt]
    exact congrArg (modifyChild · step tree) (funext ih)

theorem at?_modifyAt (f : Node → Node) (address : Address) (tree : Node) :
    (modifyAt f address tree).at? address = (tree.at? address).map f := by
  induction address generalizing tree with
  | nil => rw [modifyAt, at?_nil, at?_nil, Option.map_some]
  | cons step rest ih =>
    rw [modifyAt, at?_cons, at?_cons, child?_modifyChild]
    cases tree.child? step with
    | none => rfl
    | some child => exact ih child

/-- A change matters only through the node that is there. -/
theorem modifyAt_congr {f g : Node → Node} {address : Address} {tree node : Node}
    (h : tree.at? address = some node) (hfg : f node = g node) :
    modifyAt f address tree = modifyAt g address tree := by
  induction address generalizing tree with
  | nil =>
    rw [at?_nil, Option.some.injEq] at h
    rw [modifyAt, modifyAt, h, hfg]
  | cons step rest ih =>
    rw [at?_cons, Option.bind_eq_some_iff] at h
    obtain ⟨child, hchild, hnode⟩ := h
    rw [modifyAt, modifyAt, modifyChild_congr hchild (ih hnode)]

theorem modifyAt_id (address : Address) (tree : Node) :
    modifyAt (fun node => node) address tree = tree := by
  induction address generalizing tree with
  | nil => rfl
  | cons step rest ih =>
    rw [modifyAt, show modifyAt (fun node => node) rest = fun child => child from funext ih,
      modifyChild_id]

/-! ### Putting a node in its place -/

/-- The tree with `node` in the place of what is at an address. -/
def put (tree : Node) (address : Address) (node : Node) : Node :=
  tree.modifyAt (fun _ => node) address

variable {tree node : Node} {address : Address}

theorem modifyAt_eq_put (h : tree.at? address = some node) (f : Node → Node) :
    tree.modifyAt f address = tree.put address (f node) :=
  modifyAt_congr h rfl

theorem at?_put {old : Node} (h : tree.at? address = some old) (node : Node) :
    (tree.put address node).at? address = some node := by
  rw [put, at?_modifyAt, h, Option.map_some]

theorem at?_put_append {old : Node} (h : tree.at? address = some old) (node : Node)
    (back : Address) : (tree.put address node).at? (address ++ back) = node.at? back := by
  rw [at?_append, at?_put h, Option.bind_some]

/-- What is put below a node that was put is put into that node. -/
theorem put_append (tree : Node) (address back : Address) (node below : Node) :
    (tree.put address node).put (address ++ back) below =
      tree.put address (node.put back below) := by
  rw [put, put, modifyAt_append, modifyAt_modifyAt]
  rfl

theorem put_put (tree : Node) (address : Address) (node other : Node) :
    (tree.put address node).put address other = tree.put address other := by
  have happend := put_append tree address [] node other
  rwa [List.append_nil] at happend

theorem put_self (h : tree.at? address = some node) : tree.put address node = tree :=
  (modifyAt_congr (g := fun other => other) h rfl).trans (modifyAt_id address tree)

/-- The value of a key is found by way of the mapping that has it. -/
theorem exists_mapping_of_at?_key {owner : Address} {key : Text}
    (h : tree.at? (owner ++ [.key key]) = some node) : ∃ entries line,
      tree.at? owner = some (.mapping entries line) ∧ Entries.get? key entries = some node := by
  rw [at?_append, Option.bind_eq_some_iff] at h
  obtain ⟨parent, hparent, hchild⟩ := h
  rw [at?_cons, Option.bind_eq_some_iff] at hchild
  obtain ⟨child, hchild, hnode⟩ := hchild
  rw [at?_nil, Option.some_inj] at hnode
  subst hnode
  cases parent with
  | scalar value line => cases hchild
  | sequence items line => cases hchild
  | mapping entries line => exact ⟨entries, line, hparent, hchild⟩

/-! ### The last entry and the last item -/

variable {key : Text} {entries : List (Entry Node)} {line keyLine : Option Int}

theorem at?_key (h : key ∉ Entries.keys entries) (value : Node) :
    (mapping (entries ++ [⟨key, keyLine, value⟩]) line).at? [.key key] = some value := by
  rw [at?_cons, child?, Entries.get?_append h, Option.bind_some, at?_nil]

theorem put_key (h : key ∉ Entries.keys entries) (value other : Node) :
    (mapping (entries ++ [⟨key, keyLine, value⟩]) line).put [.key key] other =
      mapping (entries ++ [⟨key, keyLine, other⟩]) line := by
  rw [put, modifyAt, modifyChild, Entries.modify_append h]
  rfl

theorem at?_item (items : List Node) (item : Node) :
    (sequence (items ++ [item]) line).at? [.item items.length] = some item := by
  rw [at?_cons, child?, List.getElem?_concat_length, Option.bind_some, at?_nil]

theorem put_item (items : List Node) (item other : Node) :
    (sequence (items ++ [item]) line).put [.item items.length] other =
      sequence (items ++ [other]) line := by
  have hlength : items.length < (items ++ [item]).length := by
    rw [List.length_append, List.length_singleton]
    exact Nat.lt_succ_self _
  rw [put, modifyAt, modifyChild, List.modify_eq_take_cons_drop hlength, List.take_left,
    List.drop_eq_nil_of_le (by simp)]
  rfl

end Node

end WorkflowLint
