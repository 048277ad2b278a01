/-
  WorkflowLint/Outline/Parse.lean
  ===============================
  **Reading an outline.**

  An outline is the tree of a workflow as far as indentation, keys and list
  dashes show it.  Reading is one pass from top to bottom: `State.step` handles
  one line, and lines it cannot place are recorded as skipped and leave the tree
  as it was.  Only a number with too many digits stops the pass.
-/
import WorkflowLint.Line.Comment
import WorkflowLint.Line.Pair
import WorkflowLint.Outline.Frame

namespace WorkflowLint.Outline

/-- What a line holds: its column, which is the number of blanks before its
    text, and its text without comment. -/
structure Content where
  column : Nat
  text : Text
deriving DecidableEq, Repr

/-- The content of a line, unless it is blank or a comment. -/
def content? (line : Text) : Option Content :=
  if Line.isIgnorable line then none
  else some ⟨Text.blankWidth line, Line.stripComment (Text.trim line)⟩

/-- Whether the content is a list item: a dash that is alone or followed by a
    space. -/
def Content.isItem (content : Content) : Bool :=
  content.text == ['-'] || ['-', ' '].isPrefixOf content.text

/-- A line that could not be placed. -/
structure Skip where
  line : Int
  text : Text
deriving DecidableEq, Repr

/-- The state of the pass: the tree so far, the open frames with the innermost
    first, and the lines skipped so far. -/
structure State where
  tree : Node
  frames : List Frame
  skipped : List Skip
deriving Repr

/-- The state before the first line. -/
def State.initial : State := ⟨.mapping [] none, [], []⟩

namespace State

/-- Opens a frame inside all others. -/
def push (column : Nat) (scope : Scope) (state : State) : State :=
  { state with frames := ⟨column, scope⟩ :: state.frames }

/-- Records a line as skipped. -/
def skip (number : Int) (content : Content) (state : State) : State :=
  { state with skipped := state.skipped ++ [⟨number, content.text⟩] }

/-- Sets a key of the mapping at `target` to a value read from line `number`,
    and opens a scope in `column` for the lines below a nested value or a block
    scalar. -/
def assign (target : Address) (key : Text) (value : LineValue) (column : Nat) (number : Int)
    (state : State) : State :=
  let put (node : Node) : State :=
    { state with
      tree := state.tree.modifyAt (fun owner => owner.set key node (some number)) target }
  match value with
  | .nested => (put (.mapping [] (some number))).push column ⟨target, some key, false⟩
  | .block => (put (.scalar (.str []) (some number))).push column ⟨target, some key, true⟩
  | .scalar scalar => put (.scalar scalar (some number))

/-- Handles a line that is no list item in the scope it belongs to. -/
def addPair (scope : Scope) (content : Content) (number : Int) (state : State) :
    Except ParseError State :=
  match Line.splitPair content.text, state.tree.at? scope.target with
  | some (key, text), some (.mapping _ _) =>
    (Line.readValue text).map fun value =>
      state.assign scope.target key value content.column number
  | _, _ => .ok (state.skip number content)

/-- The number of items of the sequence at `target`, after an empty mapping
    there has been replaced by an empty sequence; a populated mapping takes no
    items. -/
def openSequence? (owner : Address) (key : Text) (number : Int) (state : State) :
    Option (State × Nat) :=
  match state.tree.at? (owner ++ [.key key]) with
  | some (.sequence items _) => some (state, items.length)
  | some (.mapping (_ :: _) _) => none
  | _ =>
    some ({ state with
      tree := state.tree.modifyAt
        (fun node => node.set key (.sequence [] (some number)) none) owner }, 0)

/-- Appends an item to the sequence that is the value of `key`. -/
def appendItem (owner : Address) (key : Text) (item : Node) (state : State) : State :=
  { state with tree := state.tree.modifyAt (fun node => node.append item) (owner ++ [.key key]) }

/-- Handles a list item in the scope it belongs to. -/
def addItem (scope : Scope) (content : Content) (number : Int) (state : State) :
    Except ParseError State :=
  match scope.key with
  | none => .ok (state.skip number content)
  | some listKey =>
    match state.openSequence? scope.owner listKey number with
    | none => .ok (state.skip number content)
    | some (state, index) =>
      let rest := content.text.drop 1
      let item := Text.trim rest
      let address := scope.owner ++ [.key listKey, .item index]
      let addMapping (state : State) : State :=
        (state.appendItem scope.owner listKey (.mapping [] (some number))).push content.column
          ⟨address, none, false⟩
      if item.isEmpty then .ok (addMapping state)
      else
        match Line.splitPair item with
        | none =>
          .ok (state.appendItem scope.owner listKey
            (.scalar (.str (Line.stripQuotes item)) (some number)))
        | some (key, text) =>
          (Line.readValue text).map fun value =>
            (addMapping state).assign address key value
              (content.column + 1 + Text.blankWidth rest) number

/-- Handles the content of a line: frames are closed until one holds it, and
    then it is placed unless it belongs to the body of a block scalar. -/
def place (content : Content) (number : Int) (state : State) : Except ParseError State :=
  let state :=
    { state with frames := unwind state.tree content.column content.isItem state.frames }
  let scope := currentScope state.frames
  if scope.isBlock then .ok state
  else if content.isItem then state.addItem scope content number
  else state.addPair scope content number

/-- Handles one line. -/
def step (line : Text) (number : Int) (state : State) : Except ParseError State :=
  match content? line with
  | none => .ok state
  | some content => state.place content number

/-- Handles the lines from line `number` on. -/
def run : List Text → Int → State → Except ParseError State
  | [], _, state => .ok state
  | line :: rest, number, state => (state.step line number).bind (run rest (number + 1))

end State

end Outline

/-- The tree of a workflow and the lines that could not be placed in it. -/
structure Outline where
  tree : Node
  skipped : List Outline.Skip
deriving Repr

namespace Outline

/-- Reads the outline of a text. -/
def parse (text : Text) : Except ParseError Outline :=
  (State.initial.run (Text.lines text) 1).map fun state => ⟨state.tree, state.skipped⟩

/-- What the log says about a skipped line. -/
def Skip.message (skip : Skip) : Text :=
  "Line " ++ Text.ofInt skip.line ++ ": skipped unrecognized content '" ++ skip.text ++ "'"

/-- The log of a reading: one entry per skipped line and, if there are any, their
    number. -/
def log (outline : Outline) : List Text :=
  outline.skipped.map Skip.message ++
    if outline.skipped.isEmpty then []
    else ["Structurer skipped " ++ Text.ofNat outline.skipped.length ++ " line(s)"]

end Outline

end WorkflowLint
