/-
  WorkflowLint/FileSystem/Basic.lean
  ==================================
  **Files, directories and links.**

  A file system is a table from places to items.  A place is the list of names
  that leads from the root to an item, without links and double points, so that
  two places are the same exactly if they are the same list.  The root is a
  directory that the table need not list.
-/
import WorkflowLint.Text.Order
import WorkflowLint.Text.Utf8
import WorkflowLint.FileSystem.Path

namespace WorkflowLint

/-- A place in the tree of directories: the names on the way from the root. -/
abbrev Place := List Text

/-- What stands at a place. -/
inductive Item where
  | file (content : Octets)
  | directory
  | link (target : Text)
deriving DecidableEq, Repr

/-- The items at their places and the place of the current directory. -/
structure FileSystem where
  items : List (Place × Item)
  current : Place
deriving DecidableEq, Repr

namespace FileSystem

/-! ### Looking up and changing items -/

/-- What a table holds at a place. -/
def find? (place : Place) : List (Place × Item) → Option Item
  | [] => none
  | (other, item) :: rest => if other = place then some item else find? place rest

/-- The table without what it holds at a place. -/
def erase (place : Place) : List (Place × Item) → List (Place × Item)
  | [] => []
  | (other, item) :: rest =>
    if other = place then erase place rest else (other, item) :: erase place rest

/-- The item at a place. -/
def item? (fs : FileSystem) (place : Place) : Option Item :=
  if place = [] then some .directory else find? place fs.items

/-- The file system without the item at a place. -/
def remove (fs : FileSystem) (place : Place) : FileSystem :=
  { fs with items := erase place fs.items }

/-- The file system with an item at a place. -/
def put (fs : FileSystem) (place : Place) (item : Item) : FileSystem :=
  { fs with items := (place, item) :: erase place fs.items }

theorem find?_erase (place other : Place) (items : List (Place × Item)) :
    find? other (erase place items) = if other = place then none else find? other items := by
  induction items with
  | nil => simp [erase, find?]
  | cons entry rest ih =>
    obtain ⟨here, item⟩ := entry
    by_cases h : here = place
    · subst h
      by_cases ho : here = other
      · subst ho
        simp [erase, ih]
      · have ho' : ¬other = here := fun e => ho e.symm
        simp [erase, find?, ih, ho, ho']
    · by_cases ho : here = other
      · subst ho
        simp [erase, find?, h]
      · simp [erase, find?, h, ho, ih]

/-- An item that was put is found at its place, and all else is as before. -/
theorem item?_put (fs : FileSystem) (place other : Place) (item : Item) :
    (fs.put place item).item? other
      = if other = [] then some .directory
        else if other = place then some item else fs.item? other := by
  unfold item? put
  by_cases h : other = []
  · simp [h]
  · by_cases hp : other = place
    · subst hp
      simp [find?, h]
    · have hp' : ¬place = other := fun e => hp e.symm
      simp [find?, h, hp, hp', find?_erase]

/-- An item that was removed is not found, and all else is as before. -/
theorem item?_remove (fs : FileSystem) (place other : Place) :
    (fs.remove place).item? other
      = if other = [] then some .directory
        else if other = place then none else fs.item? other := by
  unfold item? remove
  by_cases h : other = []
  · simp [h]
  · simp [h, find?_erase]

/-! ### Building file systems -/

/-- All places above a place, the root left out and the highest first. -/
def above : Place → List Place
  | [] => []
  | [_] => []
  | name :: next :: rest => [name] :: (above (next :: rest)).map (name :: ·)

/-- Makes a directory unless something stands at the place. -/
def ensureDirectory (fs : FileSystem) (place : Place) : FileSystem :=
  if (fs.item? place).isSome then fs else fs.put place .directory

/-- Makes the directories above a place. -/
def ensureAbove (fs : FileSystem) (place : Place) : FileSystem :=
  (above place).foldl ensureDirectory fs

/-- Puts an item at a place and makes the directories above it; a directory that
    is there is left as it is. -/
def create (fs : FileSystem) (place : Place) (item : Item) : FileSystem :=
  match item with
  | .directory => (fs.ensureAbove place).ensureDirectory place
  | item => (fs.ensureAbove place).put place item

/-- The file system that has nothing but the current directory. -/
def empty (current : Place) : FileSystem := create ⟨[], current⟩ current .directory

/-! ### Listing -/

/-- The names of the items in the directory at a place, in order. -/
def names (fs : FileSystem) (place : Place) : List Text :=
  Text.sort <| fs.items.filterMap fun (other, _) =>
    match other.getLast? with
    | some name => if other.dropLast = place then some name else none
    | none => none

/-- The rest of a place below another one, or nothing if it is not below. -/
def relative? (workspace place : Place) : Option (List Text) :=
  if workspace.isPrefixOf place then some (place.drop workspace.length) else none

/-- The regular files below a place, by their names from there. -/
def filesBelow (fs : FileSystem) (place : Place) : List (List Text × Octets) :=
  fs.items.filterMap fun (other, item) =>
    match item with
    | .file content => (relative? place other).map fun names => (names, content)
    | _ => none

end FileSystem

/-- The absolute path to a place. -/
def Place.toPath (place : Place) : Path := ⟨.root, place⟩

end WorkflowLint
