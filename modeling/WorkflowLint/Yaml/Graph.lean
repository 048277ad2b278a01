/-
  WorkflowLint/Yaml/Graph.lean
  ============================
  **Nodes, values and the loader.**

  An alias stands for the node that its anchor names, which may be the node around
  it, so the nodes of a text are a graph.  They are numbered in the order in which
  they start, and lists and mappings name their parts by numbers.  The value of a
  node that is a list or a mapping is a container, which is named by the same number
  and filled later, so values may be cyclic too.

  A loader reads texts one after the other.  What a refused text leaves behind stays
  in it: the nodes, the anchors and the containers that wait to be filled.
-/
import WorkflowLint.Yaml.Atom
import WorkflowLint.Yaml.Lexeme

namespace WorkflowLint.Yaml

/-! ### Nodes as written -/

/-- The number of a node. -/
abbrev NodeId := Nat

/-- A node as written: a scalar, a list, or a mapping whose entries are in the order of
    the text, with those that it took over from others by a merge key, if it did. -/
inductive Node where
  | plain (text : Text)
  | quoted (codes : CodePoints)
  | list (items : Array NodeId)
  | mapping (entries : Array (NodeId × NodeId)) (merged : Option (Array (NodeId × NodeId)))
deriving DecidableEq, Repr

namespace Node

/-- The node of a value that is left out. -/
def empty : Node := .plain []

/-- A list without items. -/
def emptyList : Node := .list #[]

/-- A mapping without entries. -/
def emptyMapping : Node := .mapping #[] none

/-- A list with one more item. -/
def addItem (item : NodeId) : Node → Node
  | .list items => .list (items.push item)
  | node => node

/-- A mapping with one more entry. -/
def addEntry (key value : NodeId) : Node → Node
  | .mapping entries merged => .mapping (entries.push (key, value)) merged
  | node => node

/-- The number of parts of a node. -/
def width : Node → Nat
  | .list items => items.size
  | .mapping entries _ => entries.size
  | _ => 0

end Node

/-! ### Values -/

/-- A value: an atom or a container. -/
inductive Value where
  | atom (atom : Atom)
  | container (node : NodeId)
deriving DecidableEq, Repr

/-- A key: an atom or a tuple of atoms. -/
inductive Key where
  | atom (atom : Atom)
  | tuple (items : List Atom)
deriving DecidableEq, Repr

/-- What a container holds. -/
inductive Container where
  | list (items : List Value)
  | mapping (entries : List (Key × Value))
deriving DecidableEq, Repr

namespace Value

/-- The value of what is left out. -/
def null : Value := .atom .null

end Value

namespace Key

/-- Whether two lists of atoms are the same. -/
def sameAtoms : List Atom → List Atom → Bool
  | [], [] => true
  | a :: rest, b :: others => a.isSame b && sameAtoms rest others
  | _, _ => false

/-- Whether two keys are the same. -/
def isSame : Key → Key → Bool
  | .atom a, .atom b => a.isSame b
  | .tuple a, .tuple b => sameAtoms a b
  | _, _ => false

/-- A text as a key. -/
def ofText (text : Text) : Key := .atom (.str (CodePoints.ofText text))

end Key

/-! ### Entries -/

namespace Entries

/-- The value at a key. -/
def get? (key : Key) : List (Key × Value) → Option Value
  | [] => none
  | (other, value) :: rest => if other.isSame key then some value else get? key rest

/-- The entries with a value at a key, which keeps its place and its form if it is
    there. -/
def set (key : Key) (value : Value) : List (Key × Value) → List (Key × Value)
  | [] => [(key, value)]
  | (other, old) :: rest =>
    if other.isSame key then (other, value) :: rest else (other, old) :: set key value rest

/-- Sets all entries in order. -/
def setAll (entries new : List (Key × Value)) : List (Key × Value) :=
  new.foldl (fun entries (key, value) => set key value entries) entries

end Entries

/-! ### The graph -/

/-- A node with what is known of its value: the value, if there is one yet, what it holds
    if it is a container, and whether it is being made. -/
structure Cell where
  node : Node
  value : Option Value
  content : Option Container
  isOpen : Bool
deriving DecidableEq, Repr

/-- The nodes by their numbers. -/
abbrev Graph := Array Cell

namespace Graph

/-- The node with a number; one that is not there is left out. -/
def node (graph : Graph) (id : NodeId) : Node := (graph[id]?.map Cell.node).getD .empty

/-- The value of a node, if there is one yet. -/
def value? (graph : Graph) (id : NodeId) : Option Value := graph[id]?.bind Cell.value

/-- What a container holds. -/
def content (graph : Graph) (id : NodeId) : Container :=
  (graph[id]?.bind Cell.content).getD (.list [])

/-- Whether the value of a node is being made. -/
def isOpen (graph : Graph) (id : NodeId) : Bool := graph[id]?.any Cell.isOpen

/-- A bound on the number of nodes and of their parts. -/
def extent (graph : Graph) : Nat :=
  graph.foldl (fun extent cell => extent + cell.node.width + 1) 1

/-- Changes a node. -/
def changeNode (id : NodeId) (f : Node → Node) (graph : Graph) : Graph :=
  graph.modify id fun cell => { cell with node := f cell.node }

/-- Says that the value of a node is being made. -/
def openValue (id : NodeId) (graph : Graph) : Graph :=
  graph.modify id fun cell => { cell with isOpen := true }

/-- Says what the value of a node is. -/
def closeValue (id : NodeId) (value : Value) (graph : Graph) : Graph :=
  graph.modify id fun cell => { cell with value := some value, isOpen := false }

/-- Says what a container holds. -/
def setContent (id : NodeId) (content : Container) (graph : Graph) : Graph :=
  graph.modify id fun cell => { cell with content := some content }

/-- Adds a node. -/
def add (node : Node) (graph : Graph) : Graph := graph.push ⟨node, none, none, false⟩

end Graph

/-! ### The loader -/

/-- The state of a loader: the lexemes that remain to be read, the nodes, those that
    anchors name, the containers that wait to be filled, the last one first, and
    whether containers are filled at once. -/
structure Loader where
  rest : List Lexeme
  graph : Graph
  anchors : List (Text × NodeId)
  waiting : List NodeId
  deep : Bool
deriving DecidableEq, Repr

namespace Loader

/-- The loader before anything is read. -/
def start : Loader := ⟨[], #[], [], [], false⟩

/-- Changes the nodes. -/
def change (f : Graph → Graph) (loader : Loader) : Loader :=
  { loader with graph := f loader.graph }

/-- Adds a node, which an anchor may name, and gives its number. -/
def make (anchor : Option Text) (node : Node) (loader : Loader) : NodeId × Loader :=
  let id := loader.graph.size
  let anchors := anchor.elim loader.anchors fun name => (name, id) :: loader.anchors
  (id, { loader with graph := loader.graph.add node, anchors := anchors })

end Loader

/-- A step of a loader, which may end with a fault. -/
abbrev Load := ExceptT Fault (StateM Loader)

/-- Changes the nodes of a loader. -/
def changeGraph (f : Graph → Graph) : Load Unit := modify (Loader.change f)

/-- The nodes of a loader. -/
def theGraph : Load Graph := do pure (← get).graph

end WorkflowLint.Yaml
