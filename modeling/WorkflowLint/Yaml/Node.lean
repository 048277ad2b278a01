/-
  WorkflowLint/Yaml/Node.lean
  ===========================
  **The nodes of a YAML text.**

  The lexemes of a text are read into nodes.  A value that is left out is the empty
  plain scalar.  An anchor names its node before the parts of the node are read, and
  a part is added to its list or mapping as soon as it is complete, so that what a
  fault leaves behind is what was read before it.
-/
import WorkflowLint.Yaml.Graph

namespace WorkflowLint.Yaml.Node

/-! ### Steps -/

/-- The lexemes that remain.  A fault at their start ends the reading. -/
def peek : Load (List Lexeme) := do
  match (← get).rest with
  | .fault fault :: _ => throw fault
  | rest => pure rest

/-- Goes on with other lexemes. -/
def goTo (rest : List Lexeme) : Load Unit := modify fun loader => { loader with rest := rest }

/-- Makes a node, which an anchor may name. -/
def make (anchor : Option Text) (node : Node) : Load NodeId := modifyGet (Loader.make anchor node)

/-- Adds an item to a list. -/
def push (list item : NodeId) : Load Unit := changeGraph (Graph.changeNode list (addItem item))

/-- Adds an entry to a mapping. -/
def put (mapping key value : NodeId) : Load Unit :=
  changeGraph (Graph.changeNode mapping (addEntry key value))

/-- The node that an anchor names. -/
def find (name : Text) : Load NodeId := do
  match (← get).anchors.lookup name with
  | some id => pure id
  | none => throw .unknownAlias

/-- Ends the reading at a lexeme that may not stand there. -/
def refuse {α : Type} : Load α := throw .unexpectedLexeme

/-! ### What may be left out -/

/-- Whether the item of a block list is left out before these lexemes. -/
def omitsItem : List Lexeme → Bool
  | .entry :: _ => true
  | .blockEnd :: _ => true
  | _ => false

/-- Whether the item of a list that is not indented is left out before these
    lexemes. -/
def omitsFlatItem : List Lexeme → Bool
  | .entry :: _ => true
  | .key :: _ => true
  | .value :: _ => true
  | .blockEnd :: _ => true
  | _ => false

/-- Whether a key or a value of a block mapping is left out before these lexemes. -/
def omitsBlockPart : List Lexeme → Bool
  | .key :: _ => true
  | .value :: _ => true
  | .blockEnd :: _ => true
  | _ => false

/-- Whether a key in brackets is left out before these lexemes. -/
def omitsFlowKey (closing : Lexeme) : List Lexeme → Bool
  | .value :: _ => true
  | .comma :: _ => true
  | lexeme :: _ => lexeme == closing
  | [] => false

/-- Whether a value in brackets is left out before these lexemes. -/
def omitsFlowValue (closing : Lexeme) : List Lexeme → Bool
  | .comma :: _ => true
  | lexeme :: _ => lexeme == closing
  | [] => false

/-- Whether a node starts with these lexemes, where `flat` says whether a list may
    start without being indented. -/
def startsContent (flat : Bool) : List Lexeme → Bool
  | .plain _ :: _ => true
  | .quoted _ :: _ => true
  | .flowSequenceStart :: _ => true
  | .flowMappingStart :: _ => true
  | .sequenceStart :: _ => true
  | .mappingStart :: _ => true
  | .entry :: _ => flat
  | _ => false

/-- Takes the comma that must stand between two parts in brackets. -/
def takeComma (first : Bool) : Load Unit := do
  if !first then
    match ← peek with
    | .comma :: rest => goTo rest
    | _ => refuse

/-! ### Reading nodes -/

mutual

/-- Reads a node with its anchor. -/
def read (fuel : Nat) (flat : Bool) : Load NodeId :=
  match fuel with
  | 0 => throw .nestedTooDeep
  | fuel + 1 => do
    match ← peek with
    | .alias name :: rest => do
      goTo rest
      find name
    | .anchor name :: rest => do
      goTo rest
      if startsContent flat (← peek) then readContent fuel flat (some name)
      else make (some name) .empty
    | _ => readContent fuel flat none

/-- Reads a node after its anchor. -/
def readContent (fuel : Nat) (flat : Bool) (anchor : Option Text) : Load NodeId :=
  match fuel with
  | 0 => throw .nestedTooDeep
  | fuel + 1 => do
    match ← peek with
    | .plain text :: rest => do
      goTo rest
      make anchor (.plain text)
    | .quoted codes :: rest => do
      goTo rest
      make anchor (.quoted codes)
    | .flowSequenceStart :: rest => do
      let list ← make anchor .emptyList
      goTo rest
      readFlowItems fuel list true
      pure list
    | .flowMappingStart :: rest => do
      let mapping ← make anchor .emptyMapping
      goTo rest
      readFlowEntries fuel mapping true
      pure mapping
    | .sequenceStart :: rest => do
      let list ← make anchor .emptyList
      goTo rest
      readItems fuel list
      pure list
    | .mappingStart :: rest => do
      let mapping ← make anchor .emptyMapping
      goTo rest
      readEntries fuel mapping
      pure mapping
    | .entry :: _ => do
      if flat then
        let list ← make anchor .emptyList
        readFlatItems fuel list
        pure list
      else refuse
    | _ => refuse

/-- Reads the items of a block list and its end. -/
def readItems (fuel : Nat) (list : NodeId) : Load Unit :=
  match fuel with
  | 0 => throw .nestedTooDeep
  | fuel + 1 => do
    match ← peek with
    | .blockEnd :: rest => goTo rest
    | .entry :: rest => do
      goTo rest
      let item ← if omitsItem (← peek) then make none .empty else read fuel false
      push list item
      readItems fuel list
    | _ => refuse

/-- Reads the items of a list that is not indented. -/
def readFlatItems (fuel : Nat) (list : NodeId) : Load Unit :=
  match fuel with
  | 0 => throw .nestedTooDeep
  | fuel + 1 => do
    match ← peek with
    | .entry :: rest => do
      goTo rest
      let item ← if omitsFlatItem (← peek) then make none .empty else read fuel false
      push list item
      readFlatItems fuel list
    | _ => pure ()

/-- Reads the entries of a block mapping and its end. -/
def readEntries (fuel : Nat) (mapping : NodeId) : Load Unit :=
  match fuel with
  | 0 => throw .nestedTooDeep
  | fuel + 1 => do
    match ← peek with
    | .blockEnd :: rest => goTo rest
    | .key :: rest => do
      goTo rest
      let key ← readBlockPart fuel
      let value ← readBlockValue fuel
      put mapping key value
      readEntries fuel mapping
    | .value :: _ => do
      let key ← make none .empty
      let value ← readBlockValue fuel
      put mapping key value
      readEntries fuel mapping
    | _ => refuse

/-- Reads a key or a value of a block mapping. -/
def readBlockPart (fuel : Nat) : Load NodeId :=
  match fuel with
  | 0 => throw .nestedTooDeep
  | fuel + 1 => do
    if omitsBlockPart (← peek) then make none .empty else read fuel true

/-- Reads a colon and the value after it, unless both are left out. -/
def readBlockValue (fuel : Nat) : Load NodeId :=
  match fuel with
  | 0 => throw .nestedTooDeep
  | fuel + 1 => do
    match ← peek with
    | .value :: rest => do
      goTo rest
      readBlockPart fuel
    | _ => make none .empty

/-- Reads the items of a list in brackets and its closing bracket.  An item with a
    colon is a mapping of one entry. -/
def readFlowItems (fuel : Nat) (list : NodeId) (first : Bool) : Load Unit :=
  match fuel with
  | 0 => throw .nestedTooDeep
  | fuel + 1 => do
    match ← peek with
    | .flowSequenceEnd :: rest => goTo rest
    | _ => do
      takeComma first
      match ← peek with
      | .flowSequenceEnd :: rest => goTo rest
      | .key :: rest => do
        let item ← make none .emptyMapping
        goTo rest
        let key ← readFlowKey fuel .flowSequenceEnd
        let value ← readFlowValue fuel .flowSequenceEnd
        put item key value
        push list item
        readFlowItems fuel list false
      | _ => do
        let item ← read fuel false
        push list item
        readFlowItems fuel list false

/-- Reads the entries of a mapping in brackets and its closing bracket. -/
def readFlowEntries (fuel : Nat) (mapping : NodeId) (first : Bool) : Load Unit :=
  match fuel with
  | 0 => throw .nestedTooDeep
  | fuel + 1 => do
    match ← peek with
    | .flowMappingEnd :: rest => goTo rest
    | _ => do
      takeComma first
      match ← peek with
      | .flowMappingEnd :: rest => goTo rest
      | .key :: rest => do
        goTo rest
        let key ← readFlowKey fuel .flowMappingEnd
        let value ← readFlowValue fuel .flowMappingEnd
        put mapping key value
        readFlowEntries fuel mapping false
      | .value :: _ => do
        let key ← make none .empty
        let value ← readFlowValue fuel .flowMappingEnd
        put mapping key value
        readFlowEntries fuel mapping false
      | _ => do
        let key ← read fuel false
        discard peek
        let value ← make none .empty
        put mapping key value
        readFlowEntries fuel mapping false

/-- Reads a key in brackets. -/
def readFlowKey (fuel : Nat) (closing : Lexeme) : Load NodeId :=
  match fuel with
  | 0 => throw .nestedTooDeep
  | fuel + 1 => do
    if omitsFlowKey closing (← peek) then make none .empty else read fuel false

/-- Reads a colon and the value after it in brackets, unless both are left out. -/
def readFlowValue (fuel : Nat) (closing : Lexeme) : Load NodeId :=
  match fuel with
  | 0 => throw .nestedTooDeep
  | fuel + 1 => do
    match ← peek with
    | .value :: rest => do
      goTo rest
      if omitsFlowValue closing (← peek) then make none .empty else read fuel false
    | _ => make none .empty

end

/-! ### Reading a document -/

/-- Whether a document that was opened by a mark has no content. -/
def isBare : List Lexeme → Bool
  | [] => true
  | .documentStart :: _ => true
  | .documentEnd :: _ => true
  | _ => false

/-- Reads the root of a document, if there is a document. -/
def readRoot (fuel : Nat) : Load (Option NodeId) := do
  match ← peek with
  | [] => pure none
  | .documentStart :: rest => do
    goTo rest
    if isBare (← peek) then some <$> make none .empty else some <$> read fuel false
  | _ => some <$> read fuel false

/-- Forgets the anchors of a document. -/
def forgetAnchors : Load Unit := modify fun loader => { loader with anchors := [] }

/-- Reads the end of the only document. -/
def readEnd : Load Unit := do
  match ← peek with
  | .documentEnd :: rest => goTo rest
  | _ => pure ()
  let after ← peek
  forgetAnchors
  if !after.isEmpty then throw .severalDocuments

/-- Reads the root of the only document that lexemes stand for.  No lexemes at all
    stand for no document. -/
def ofLexemes (lexemes : List Lexeme) : Load (Option NodeId) := do
  goTo lexemes
  let root ← readRoot (4 * lexemes.length + 8)
  readEnd
  pure root

end WorkflowLint.Yaml.Node
