/-
  WorkflowLint/Tree/Node.lean
  ===========================
  **The tree of a workflow.**

  A workflow is a mapping of keys to nodes; a node is a scalar, a sequence of
  nodes or a mapping again.  Every node remembers the line it was written on,
  and every entry of a mapping the line of its key.  A mapping keeps its keys
  distinct and in the order of their first appearance: setting a key that is
  there replaces its value in place (`Entries.keys_set`).

  Nodes are reached by addresses, lists of steps from the root.  `Node.modifyAt`
  changes the node at an address and nothing else.
-/
import WorkflowLint.Text.Basic

namespace WorkflowLint

/-- A leaf value. -/
inductive Scalar where
  | str (value : Text)
  | int (value : Int)
  | bool (value : Bool)
deriving DecidableEq, Repr

/-- A key of a mapping with its value and, if known, the line of the key. -/
structure Entry (α : Type) where
  key : Text
  line : Option Int
  value : α
deriving Repr

/-- A node of the tree. -/
inductive Node where
  | scalar (value : Scalar) (line : Option Int)
  | sequence (items : List Node) (line : Option Int)
  | mapping (entries : List (Entry Node)) (line : Option Int)
deriving Repr

instance : Inhabited Node := ⟨.mapping [] none⟩

/-! ### Entries of a mapping -/

namespace Entries

variable {α : Type}

/-- The entry of a key. -/
def find? (key : Text) (entries : List (Entry α)) : Option (Entry α) :=
  entries.find? fun entry => entry.key = key

/-- The value of a key. -/
def get? (key : Text) (entries : List (Entry α)) : Option α :=
  (find? key entries).map Entry.value

/-- The recorded line of a key. -/
def lineOf? (key : Text) (entries : List (Entry α)) : Option Int :=
  (find? key entries).bind Entry.line

/-- Whether there is an entry for a key. -/
def has (key : Text) (entries : List (Entry α)) : Bool := (find? key entries).isSome

/-- The keys in order. -/
def keys (entries : List (Entry α)) : List Text := entries.map Entry.key

/-- Gives `key` the value `value`.  A key that is there keeps its place, and its
    recorded line if `line` is missing. -/
def set (key : Text) (value : α) (line : Option Int) : List (Entry α) → List (Entry α)
  | [] => [⟨key, line, value⟩]
  | entry :: others =>
    if entry.key = key then ⟨key, line.or entry.line, value⟩ :: others
    else entry :: set key value line others

/-- Changes the value of `key`, if it is there, by `f`. -/
def modify (key : Text) (f : α → α) : List (Entry α) → List (Entry α)
  | [] => []
  | entry :: others =>
    if entry.key = key then { entry with value := f entry.value } :: others
    else entry :: modify key f others

/-- Setting a key appends it to the keys unless it is there. -/
theorem keys_set (key : Text) (value : α) (line : Option Int) (entries : List (Entry α)) :
    keys (set key value line entries) =
      if key ∈ keys entries then keys entries else keys entries ++ [key] := by
  induction entries with
  | nil => simp [set, keys]
  | cons entry others ih =>
    simp only [set]
    split
    · rename_i h
      simp [keys, h]
    · rename_i h
      simp only [keys, List.map_cons, List.mem_cons] at ih ⊢
      rw [ih]
      have h' : key ≠ entry.key := fun e => h e.symm
      by_cases hk : key ∈ others.map Entry.key <;> simp [h', hk]

end Entries

/-! ### Addresses -/

/-- One step down the tree: to the value of a key or to an item of a sequence. -/
inductive Step where
  | key (key : Text)
  | item (index : Nat)
deriving DecidableEq, Repr

/-- The way from the root to a node. -/
abbrev Address := List Step

namespace Node

/-- The recorded line of a node. -/
def line? : Node → Option Int
  | .scalar _ line => line
  | .sequence _ line => line
  | .mapping _ line => line

/-- The entries of a mapping; other nodes have none. -/
def entries : Node → List (Entry Node)
  | .mapping entries _ => entries
  | _ => []

/-- The items of a sequence; other nodes have none. -/
def items : Node → List Node
  | .sequence items _ => items
  | _ => []

/-- The node one step below. -/
def child? : Node → Step → Option Node
  | .mapping entries _, .key key => Entries.get? key entries
  | .sequence items _, .item index => items[index]?
  | _, _ => none

/-- The node at an address. -/
def at? : Node → Address → Option Node
  | node, [] => some node
  | node, step :: rest => (node.child? step).bind fun child => child.at? rest

/-- Changes the node one step below, if there is one. -/
def modifyChild (f : Node → Node) : Step → Node → Node
  | .key key, .mapping entries line => .mapping (Entries.modify key f entries) line
  | .item index, .sequence items line => .sequence (items.modify index f) line
  | _, node => node

/-- Changes the node at an address, if there is one. -/
def modifyAt (f : Node → Node) : Address → Node → Node
  | [], node => f node
  | step :: rest, node => modifyChild (modifyAt f rest) step node

/-- Gives a key of a mapping a value; other nodes stay as they are. -/
def set (node : Node) (key : Text) (value : Node) (keyLine : Option Int) : Node :=
  match node with
  | .mapping entries line => .mapping (Entries.set key value keyLine entries) line
  | node => node

/-- Appends an item to a sequence; other nodes stay as they are. -/
def append (node item : Node) : Node :=
  match node with
  | .sequence items line => .sequence (items ++ [item]) line
  | node => node

@[simp] theorem at?_nil (node : Node) : node.at? [] = some node := by
  cases node <;> rfl

theorem at?_cons (node : Node) (step : Step) (rest : Address) :
    node.at? (step :: rest) = (node.child? step).bind fun child => child.at? rest := by
  cases node <;> rfl

/-- Looking up a longer address is looking up its parts one after the other. -/
theorem at?_append (node : Node) (front back : Address) :
    node.at? (front ++ back) = (node.at? front).bind fun child => child.at? back := by
  induction front generalizing node with
  | nil => simp
  | cons step rest ih =>
    simp only [List.cons_append, at?_cons, Option.bind_assoc, ih]

end Node

end WorkflowLint
