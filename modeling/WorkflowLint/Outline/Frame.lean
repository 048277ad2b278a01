/-
  WorkflowLint/Outline/Frame.lean
  ===============================
  **Open scopes of an outline.**

  While an outline is read from top to bottom, every key without a value and
  every list dash opens a scope for the deeper lines that follow.  A scope says
  where these lines belong: into a node of the tree, into the value of a key of
  that node, or into the body of a block scalar.  A frame is a scope with the
  column that opened it.
-/
import WorkflowLint.Tree.Node

namespace WorkflowLint.Outline

/-- Where lines belong.  Without a key they belong into the mapping at `owner`,
    with a key into the value of that key; `isBlock` marks the body of a block
    scalar. -/
structure Scope where
  owner : Address
  key : Option Text
  isBlock : Bool
deriving DecidableEq, Repr

/-- The scope of the lines that no frame claims: the root mapping. -/
def Scope.root : Scope := ⟨[], none, false⟩

/-- The address that pairs of the scope are written to. -/
def Scope.target (scope : Scope) : Address :=
  match scope.key with
  | none => scope.owner
  | some key => scope.owner ++ [.key key]

/-- An open scope with the column that opened it. -/
structure Frame where
  column : Nat
  scope : Scope
deriving DecidableEq, Repr

/-- Whether a node can take list items: a sequence, or a mapping that is still
    empty and only holds the place of one. -/
def takesItems : Node → Bool
  | .sequence _ _ => true
  | .mapping entries _ => entries.isEmpty
  | .scalar _ _ => false

/-- Whether items of a list may stand in the same column as the key of the frame. -/
def Frame.takesItems (tree : Node) (frame : Frame) : Bool :=
  match frame.scope.key, frame.scope.isBlock with
  | some _, false =>
    match tree.at? frame.scope.target with
    | some node => Outline.takesItems node
    | none => false
  | _, _ => false

/-- Whether a frame stays open for a line that starts in column `column`: the
    line is deeper, or it is a list item in the column of a key that takes items. -/
def Frame.holds (tree : Node) (column : Nat) (isItem : Bool) (frame : Frame) : Bool :=
  frame.column < column || frame.column == column && isItem && frame.takesItems tree

/-- The frames that stay open for a line, innermost first: frames are closed
    from the inside until one holds the line. -/
def unwind (tree : Node) (column : Nat) (isItem : Bool) (frames : List Frame) : List Frame :=
  frames.dropWhile fun frame => !frame.holds tree column isItem

/-- The scope of the innermost frame. -/
def currentScope : List Frame → Scope
  | [] => .root
  | frame :: _ => frame.scope

end WorkflowLint.Outline
