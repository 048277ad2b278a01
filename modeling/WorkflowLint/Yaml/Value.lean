/-
  WorkflowLint/Yaml/Value.lean
  ============================
  **The values of nodes.**

  Every node has one value, also if it is a part of several others.  A list or a
  mapping is a container, which is empty at first: containers that were met are
  filled in rounds, after the ones around them.  Only keys are made at once with
  all that is in them, because they must be compared; a list becomes a tuple there,
  and a node inside itself is null.

  The keys of a mapping differ.  A mapping may take over the entries of others by a
  merge key; entries of its own win over those, and then keys may occur twice.
-/
import WorkflowLint.Yaml.Display

namespace WorkflowLint.Yaml.Value

/-! ### Merge keys -/

/-- Makes the node of a key a text if it is a lone equals sign. -/
def asKey : Node → Node
  | .plain ['='] => .quoted [('=').toNat]
  | node => node

/-- Whether a node is a merge key. -/
def isMergeKey : Node → Bool
  | .plain text => text == "<<".toList
  | _ => false

/-- The entries of a node that is a mapping. -/
def entriesOf? : Node → Option (Array (NodeId × NodeId))
  | .mapping entries _ => some entries
  | _ => none

/-- Whether a node has taken over entries already. -/
def isMerged : Node → Bool
  | .mapping _ (some _) => true
  | _ => false

/-- A mapping without the entry at an index. -/
def eraseEntry (index : Nat) : Node → Node
  | .mapping entries merged => .mapping (entries.eraseIdxIfInBounds index) merged
  | node => node

/-- A mapping with entries that it takes over, if there are any. -/
def takeOver (taken : Array (NodeId × NodeId)) : Node → Node
  | .mapping entries merged =>
    if taken.isEmpty then .mapping entries merged else .mapping (taken ++ entries) (some taken)
  | node => node

/-- The entries of a mapping that is to be merged, after its own merge keys are gone. -/
def entriesToMerge (merge : NodeId → Load Unit) (id : NodeId) :
    Load (Array (NodeId × NodeId)) := do
  if (entriesOf? ((← theGraph).node id)).isNone then throw .misplacedMerge
  merge id
  pure ((entriesOf? ((← theGraph).node id)).getD #[])

/-- The entries that a merge key with some value takes over: those of a mapping, or those
    of a list of mappings, the ones of the first mapping at the end. -/
def takenEntries (merge : NodeId → Load Unit) (id : NodeId) : Load (Array (NodeId × NodeId)) := do
  match (← theGraph).node id with
  | .list items => do
    let groups ← items.mapM (entriesToMerge merge)
    pure (groups.reverse.foldl (fun all group => all ++ group) #[])
  | _ => entriesToMerge merge id

/-- Takes the merge keys out of a mapping from an index on, and takes over their entries
    together with those that were `taken` before. -/
def mergeFrom (fuel : Nat) (id : NodeId) (index : Nat) (taken : Array (NodeId × NodeId)) :
    Load Unit :=
  match fuel with
  | 0 => throw .nestedTooDeep
  | fuel + 1 => do
    let graph ← theGraph
    let mapping := graph.node id
    match (entriesOf? mapping).bind fun entries => entries[index]? with
    | none => changeGraph (Graph.changeNode id (takeOver taken))
    | some (key, value) =>
      if isMergeKey (graph.node key) then
        if !taken.isEmpty then throw .duplicateKey
        changeGraph (Graph.changeNode id (eraseEntry index))
        let merge (other : NodeId) : Load Unit := do
          if !isMerged ((← theGraph).node other) then mergeFrom fuel other 0 #[]
        mergeFrom fuel id index (taken ++ (← takenEntries merge value))
      else
        changeGraph (Graph.changeNode key asKey)
        mergeFrom fuel id (index + 1) taken

/-- Takes the merge keys out of a mapping. -/
def mergeAll (id : NodeId) : Load Unit := do
  let graph ← theGraph
  if !isMerged (graph.node id) then mergeFrom (2 * graph.extent + 2) id 0 #[]

/-! ### Keys -/

/-- The error of comparing a container. -/
def uncomparable (graph : Graph) (id : NodeId) : ValueError :=
  match graph.content id with
  | .list _ => .uncomparable .list
  | .mapping _ => .uncomparable .mapping

/-- The atoms in a list of values, if there are no containers among them. -/
def atomsOf (graph : Graph) : List Value → Except ValueError (List Atom)
  | [] => .ok []
  | .atom a :: rest => (atomsOf graph rest).map (a :: ·)
  | .container id :: _ => .error (uncomparable graph id)

/-- The key that a value is.  A mapping is no key, and a list with containers in it is
    one that cannot be compared. -/
def keyOf (graph : Graph) : Value → Except Fault (Except ValueError Key)
  | .atom a => .ok (.ok (.atom a))
  | .container id =>
    match graph.content id with
    | .list items => .ok ((atomsOf graph items).map .tuple)
    | .mapping _ => .error .compoundKey

/-- The fault of a key that occurs twice.  Both values are named together with the key,
    so it must be possible to write them. -/
def duplicateFault (graph : Graph) (key : Key) (value old : Value) : Fault :=
  match key.display, graph.display value, graph.display old with
  | .error error, _, _ => .value error
  | .ok _, .error error, _ => .value error
  | .ok _, .ok _, .error error => .value error
  | .ok _, .ok _, .ok _ => .duplicateKey

/-! ### Filling containers -/

/-- The values of a list of entries, whose keys must differ if `strict`. -/
def readEntries (make : Bool → NodeId → Load Value) (strict : Bool)
    (entries : Array (NodeId × NodeId)) : Load (List (Key × Value)) :=
  entries.foldlM (fun read (keyNode, valueNode) => do
    let keyValue ← make true keyNode
    let key ←
      match keyOf (← theGraph) keyValue with
      | .ok key => pure key
      | .error fault => throw fault
    let value ← make false valueNode
    match key with
    | .error error => throw (.value error)
    | .ok key =>
      match if strict then Entries.get? key read else none with
      | some old => throw (duplicateFault (← theGraph) key value old)
      | none => pure (Entries.set key value read)) []

/-- The entries of a mapping without merge keys. -/
def readMapping (make : Bool → NodeId → Load Value) : Node → Load (List (Key × Value))
  | .mapping entries none => readEntries make true entries
  | .mapping entries (some merged) => do
    let taken ← readEntries make false merged
    let own ← readEntries make false entries
    pure (Entries.setAll taken own)
  | _ => pure []

/-- Fills the container of a node, whose parts `make` gives their values; it is told
    whether to fill them at once. -/
def fill (make : Bool → NodeId → Load Value) (id : NodeId) : Load Unit := do
  match (← theGraph).node id with
  | .list items => do
    let values ← items.mapM (make false)
    changeGraph (Graph.setContent id (.list values.toList))
  | _ => do
    mergeAll id
    let read ← readMapping make ((← theGraph).node id)
    changeGraph (Graph.setContent id (.mapping read))

/-- The container of a node, empty at first.  It is filled at once or waits. -/
def contain (make : Bool → NodeId → Load Value) (id : NodeId) (empty : Container) :
    Load Value := do
  changeGraph (Graph.setContent id empty)
  if (← get).deep then fill make id
  else modify fun loader => { loader with waiting := id :: loader.waiting }
  pure (.container id)

/-- Says whether containers are filled at once. -/
def setDeep (deep : Bool) : Load Unit := modify fun loader => { loader with deep := deep }

/-- The value of a node, filled at once with all that is in it if `deep`.  A node inside
    itself is null there.  As no node is entered twice, no more than all of them are
    nested. -/
def make (fuel : Nat) (deep : Bool) (id : NodeId) : Load Value :=
  match fuel with
  | 0 => throw .nestedTooDeep
  | fuel + 1 => do
    let graph ← theGraph
    match graph.value? id with
    | some value => pure value
    | none => do
      let node := graph.node id
      let isOpen := graph.isOpen id
      let wasDeep := (← get).deep
      if deep then setDeep true
      if isOpen then pure .null
      else
        changeGraph (Graph.openValue id)
        let value ←
          match node with
          | .plain text =>
            match readAtom text with
            | .ok a => pure (.atom a)
            | .error fault => throw fault
          | .quoted codes => pure (.atom (.str codes))
          | .list _ => contain (make fuel) id (.list [])
          | .mapping _ _ => contain (make fuel) id (.mapping [])
        changeGraph (Graph.closeValue id value)
        if deep then setDeep wasDeep
        pure value

/-- The value of a node, filled later. -/
def ofNode (id : NodeId) : Load Value := do make ((← theGraph).size + 2) false id

/-- Takes the containers that wait, the first one first. -/
def takeWaiting : Load (List NodeId) :=
  modifyGet fun loader => (loader.waiting.reverse, { loader with waiting := [] })

/-- Fills the containers that wait, round by round.  As every container waits once, there
    are no more rounds than nodes. -/
def fillRounds (fuel : Nat) : Load Unit :=
  match fuel with
  | 0 => pure ()
  | fuel + 1 => do
    let batch ← takeWaiting
    if !batch.isEmpty then
      let bound := (← theGraph).size + 2
      batch.forM (fill (make bound))
      fillRounds fuel

/-- The value of the root of a document, filled with all that is in it. -/
def ofRoot (id : NodeId) : Load Value := do
  let value ← ofNode id
  fillRounds ((← theGraph).size + 2)
  pure value

end WorkflowLint.Yaml.Value
