/-
  WorkflowLint/Host/Console.lean
  ==============================
  **The console.**

  What is said to people goes through a console, which may be any.  It is given
  markup, in which tags in brackets stand for styles, alone or in tables and panels,
  and it prints text or fails, which may depend on what it was given before.  Text
  from elsewhere is escaped before it is put into markup.  Printing several things
  ends with the first one that fails.
-/
import WorkflowLint.Host.Fault

namespace WorkflowLint

namespace Console

/-- The blank space around something, in lines and in columns. -/
structure Padding where
  top : Nat
  right : Nat
  bottom : Nat
  left : Nat
deriving DecidableEq, Repr

/-- A column of a table. -/
structure Column where
  header : Text := []
  style : Text := []
  rightAligned : Bool := false
  noWrap : Bool := false
  width : Option Nat := none
deriving DecidableEq, Repr

/-- A table without lines.  Its title and its cells are markup. -/
structure Table where
  title : Option Text := none
  showHeader : Bool := true
  headerStyle : Text := []
  padding : Padding := ⟨0, 1, 0, 1⟩
  columns : List Column
  rows : List (List Text)
deriving DecidableEq, Repr

/-- What stands in a panel. -/
inductive Content where
  | markup (text : Text)
  | table (table : Table)
deriving DecidableEq, Repr

/-- A panel with round corners, as wide as what stands in it. -/
structure Panel where
  title : Option Text := none
  borderStyle : Text
  padding : Padding
  content : Content
deriving DecidableEq, Repr

/-- Something that a console prints. -/
inductive Printable where
  | blank
  | markup (text : Text)
  | table (table : Table)
  | panel (panel : Panel)
deriving DecidableEq, Repr

end Console

/-- A console. -/
structure Console where
  /-- What a console keeps between two things that it prints. -/
  State : Type
  /-- A console that has printed nothing. -/
  start : State
  /-- A text written so that none of it is markup. -/
  escape : Text → Text
  /-- The text that is printed for something, and the console after it. -/
  print : State → Console.Printable → Except LibraryFault Text × State

/-- What has been printed, the fault that ended it, if there was one, and the console
    after it. -/
structure Telling (State : Type) where
  text : Text
  fault : Option LibraryFault
  console : State
deriving DecidableEq, Repr

/-- Prints things in order, up to the first one that fails. -/
def Console.tell (console : Console) (state : console.State) :
    List Console.Printable → Telling console.State
  | [] => ⟨[], none, state⟩
  | printable :: rest =>
    match console.print state printable with
    | (.error fault, state) => ⟨[], some fault, state⟩
    | (.ok text, state) =>
      let later := console.tell state rest
      { later with text := text ++ later.text }

end WorkflowLint
