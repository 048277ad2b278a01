/-
  WorkflowLint/FileSystem/Path.lean
  =================================
  **Paths.**

  A path is read from a text once and for all: it starts at the current
  directory or at the root, and goes on by names.  Empty names and single points
  say nothing and are dropped; a double point is kept, because what it means
  depends on the links before it.
-/
import WorkflowLint.Text.Quoted

namespace WorkflowLint

/-- Where a path starts.  A path that starts with exactly two slashes starts at
    the root too, but keeps both when it is written. -/
inductive PathStart where
  | here
  | root
  | doubleRoot
deriving DecidableEq, Repr

/-- A path: where it starts and its names. -/
structure Path where
  start : PathStart
  parts : List Text
deriving DecidableEq, Repr

/-- How the start of a path is written. -/
def PathStart.toText : PathStart → Text
  | .here => []
  | .root => "/"
  | .doubleRoot => "//"

/-- Where the path that a text stands for starts. -/
def PathStart.ofText : Text → PathStart
  | '/' :: '/' :: '/' :: _ => .root
  | '/' :: '/' :: _ => .doubleRoot
  | '/' :: _ => .root
  | _ => .here

namespace Path

/-- The path that a text stands for. -/
def ofText (text : Text) : Path :=
  { start := PathStart.ofText text
    parts := (Text.pieces '/' text).filter fun part => !part.isEmpty && part != "." }

/-- The text of a path; the path to the current directory is a point. -/
def toText (path : Path) : Text :=
  if path.start = .here ∧ path.parts = [] then "."
  else path.start.toText ++ Text.join "/" path.parts

/-- The last name of a path, which is empty if there is none. -/
def name (path : Path) : Text := path.parts.getLast?.getD []

/-- The path to something below a path. -/
def below (path : Path) (names : List Text) : Path := { path with parts := path.parts ++ names }

/-- The path with another last name. -/
def withName (path : Path) (name : Text) : Path :=
  { path with parts := path.parts.dropLast ++ [name] }

/-- Whether a name of the path holds the null character, which no file system
    admits. -/
def hasNull (path : Path) : Bool := path.parts.any fun part => part.contains '\x00'

end Path

end WorkflowLint
