/-
  WorkflowLint/FileSystem/Walk.lean
  =================================
  **Where a path leads.**

  A walk follows a path name by name.  Every name but the last must lead to a
  directory, a double point leads to the directory above (which is the root
  itself above the root), and a link sends the walk along its target.  A walk
  follows forty links and no more, which also ends the walk around a loop.

  Resolving a path is a lenient walk: a missing name is kept, a double point
  takes the last name away even if nothing stands there, and a link that is met
  while its own target is being resolved is kept as it is.  What it then leads to
  is looked up by a walk, and a loop that the walk meets is an error.
-/
import WorkflowLint.FileSystem.Basic

namespace WorkflowLint

/-- Why a path leads nowhere.  If only the last name is missing, the fault says at
    which place it is missing. -/
inductive WalkFault where
  | absent (place : Place)
  | notFound
  | notDirectory
  | isDirectory
  | tooManyLinks
  | nullCharacter
deriving DecidableEq, Repr

namespace FileSystem

/-! ### Targets of links -/

/-- The names of a link's target.  The names between two slashes and after the last one
    are empty. -/
def targetParts (target : Text) : List Text := Text.pieces '/' target

/-- Whether a name stands for the directory that the names before it lead to. -/
def isSelf (part : Text) : Bool := part.isEmpty || part == ['.']

/-- Whether the names after a name ask for a directory there: they are only slashes. -/
def asksForDirectory (rest : List Text) : Bool := !rest.isEmpty && rest.all List.isEmpty

/-- Where the target of a link starts, if the link stands in the directory at a
    place. -/
def targetStart (place : Place) (target : Text) : Place :=
  if PathStart.ofText target = .here then place else []

/-- Where a path starts. -/
def startOf (fs : FileSystem) : PathStart → Place
  | .here => fs.current
  | _ => []

/-! ### Walking -/

/-- What a walk does at its last name: it stops at a link, follows it, or follows it to
    something that is to be written. -/
inductive LastName where
  | kept
  | followed
  | written
deriving DecidableEq, Repr

/-- Walks along names from a place; `follow` goes on where a link points to.  What is to
    be written cannot be asked to be a directory. -/
def walkWith (fs : FileSystem) (follow : Place → List Text → Except WalkFault Place)
    (last : LastName) (place : Place) : List Text → Except WalkFault Place
  | [] => .ok place
  | part :: rest =>
    if fs.item? place ≠ some .directory then .error .notDirectory
    else if isSelf part then walkWith fs follow last place rest
    else if part = ".." then walkWith fs follow last place.dropLast rest
    else if last = .written ∧ asksForDirectory rest then .error .isDirectory
    else
      match fs.item? (place ++ [part]) with
      | none => .error (if rest.isEmpty then .absent (place ++ [part]) else .notFound)
      | some (.link target) =>
        if rest.isEmpty ∧ last = .kept then .ok (place ++ [part])
        else follow (targetStart place target) (targetParts target ++ rest)
      | some _ => walkWith fs follow last (place ++ [part]) rest

/-- Walks along names from a place, following at most `links` links. -/
def walkLinks (fs : FileSystem) (last : LastName) :
    Nat → Place → List Text → Except WalkFault Place
  | 0 => walkWith fs (fun _ _ => .error .tooManyLinks) last
  | links + 1 => walkWith fs (walkLinks fs last links) last

/-- How many links a walk follows. -/
def linkLimit : Nat := 40

/-- The place that a path leads to. -/
def walk (fs : FileSystem) (last : LastName) (path : Path) : Except WalkFault Place :=
  if path.hasNull then .error .nullCharacter
  else walkLinks fs last linkLimit (fs.startOf path.start) path.parts

/-- What a path leads to, links being followed. -/
def target? (fs : FileSystem) (path : Path) : Option Item :=
  match fs.walk .followed path with
  | .ok place => fs.item? place
  | .error _ => none

/-- Whether a path leads to a file. -/
def isFile (fs : FileSystem) (path : Path) : Bool :=
  match fs.target? path with
  | some (.file _) => true
  | _ => false

/-- Whether a path leads to a directory. -/
def isDirectory (fs : FileSystem) (path : Path) : Bool := fs.target? path == some .directory

/-- Whether a path leads to anything. -/
def leads (fs : FileSystem) (path : Path) : Bool := (fs.target? path).isSome

/-! ### Resolving -/

/-- Goes along names without looking at what stands there. -/
def append (place : Place) : List Text → Place
  | [] => place
  | part :: rest =>
    if isSelf part then append place rest
    else if part = ".." then append place.dropLast rest
    else append (place ++ [part]) rest

/-- Where names lead that are left over after a place.  If they start with a slash, they
    start at the root. -/
def appendRest (place : Place) : List Text → Place
  | [] :: next :: rest => append [] (next :: rest)
  | rest => append place rest

/-- Resolves names from a place; `follow` resolves the target of the link at its
    first place from its second place.  The answer says whether all links were
    resolved. -/
def resolveWith (fs : FileSystem) (follow : Place → Place → List Text → Place × Bool)
    (place : Place) : List Text → Place × Bool
  | [] => (place, true)
  | part :: rest =>
    if isSelf part then resolveWith fs follow place rest
    else if part = ".." then resolveWith fs follow place.dropLast rest
    else
      match fs.item? (place ++ [part]) with
      | some (.link target) =>
        match follow (place ++ [part]) (targetStart place target) (targetParts target) with
        | (resolved, true) => resolveWith fs follow resolved rest
        | (resolved, false) => (appendRest resolved rest, false)
      | _ => resolveWith fs follow (place ++ [part]) rest

/-- Resolves the target of a link while the links at some places are being resolved
    already, with at most `depth` further links inside each other. -/
def resolveLink (fs : FileSystem) : Nat → List Place → Place → Place → List Text → Place × Bool
  | 0, _, link, _, _ => (link, false)
  | depth + 1, active, link, place, parts =>
    if link ∈ active then (link, false)
    else resolveWith fs (resolveLink fs depth (link :: active)) place parts

/-- Why a path cannot be resolved. -/
inductive ResolveFault where
  | linkLoop (place : Place)
  | nullCharacter
deriving DecidableEq, Repr

/-- The wording of the fault. -/
def ResolveFault.message : ResolveFault → Text
  | .linkLoop place => "Symlink loop from " ++ Text.quoted place.toPath.toText
  | .nullCharacter => "embedded null byte"

/-- The place that a path stands for, whether or not anything stands there. -/
def resolve (fs : FileSystem) (path : Path) : Except ResolveFault Place :=
  if path.hasNull then .error .nullCharacter
  else
    let place :=
      (resolveWith fs (resolveLink fs (fs.items.length + 1) []) (fs.startOf path.start)
        path.parts).1
    match fs.walk .followed place.toPath with
    | .error .tooManyLinks => .error (.linkLoop place)
    | _ => .ok place

end FileSystem

end WorkflowLint
