/-
  WorkflowLint/FileSystem/Access.lean
  ===================================
  **Reading and replacing files.**

  Reading a file gives its text, without a byte order mark and with line feeds as
  the only line ends.  A file is replaced in two steps: the new text is written to
  a draft beside it, and the draft takes its place.  A step that fails removes the
  draft, so that either the whole text is in place or the file is as it was.
-/
import WorkflowLint.FileSystem.Walk

namespace WorkflowLint

/-! ### Errors -/

/-- Why the file system refuses an operation. -/
inductive Refusal where
  | notFound
  | busy
  | notDirectory
  | isDirectory
  | tooManyLinks
deriving DecidableEq, Repr

/-- The number of a refusal. -/
def Refusal.number : Refusal → Nat
  | .notFound => 2
  | .busy => 16
  | .notDirectory => 20
  | .isDirectory => 21
  | .tooManyLinks => 40

/-- The wording of a refusal. -/
def Refusal.wording : Refusal → Text
  | .notFound => "No such file or directory"
  | .busy => "Device or resource busy"
  | .notDirectory => "Not a directory"
  | .isDirectory => "Is a directory"
  | .tooManyLinks => "Too many levels of symbolic links"

/-- A refusal with its number. -/
def Refusal.message (refusal : Refusal) : Text :=
  "[Errno " ++ Text.ofNat refusal.number ++ "] " ++ refusal.wording

/-- Why a file cannot be read or written. -/
inductive FileError where
  | refused (refusal : Refusal) (path : Path)
  | moveRefused (refusal : Refusal) (source target : Path)
  | notUtf8 (path : Path) (error : Utf8Error)
  | emptyName (path : Path)
  | nullCharacter
  | notEncodable (error : EncodeError)
deriving DecidableEq, Repr

namespace FileError

/-- The wording of an error. -/
def message : FileError → Text
  | .refused refusal path => refusal.message ++ ": " ++ Text.quoted path.toText
  | .moveRefused refusal source target =>
    refusal.message ++ ": " ++ Text.quoted source.toText ++ " -> " ++ Text.quoted target.toText
  | .notUtf8 path error =>
    path.toText ++ " is not valid UTF-8: " ++ error.fault.message ++ " at byte "
      ++ Text.ofNat error.position
  | .emptyName path => "PosixPath(" ++ Text.quoted path.toText ++ ") has an empty name"
  | .nullCharacter => "embedded null byte"
  | .notEncodable error => error.message

/-- Whether an error is the fault of the file system or of a file's content; the
    other errors are faults of the path itself or of what is to be written. -/
def isFailure : FileError → Bool
  | .refused _ _ => true
  | .moveRefused _ _ _ => true
  | .notUtf8 _ _ => true
  | .emptyName _ => false
  | .nullCharacter => false
  | .notEncodable _ => false

/-- The error of an operation whose path leads nowhere. -/
def ofWalk (path : Path) : WalkFault → FileError
  | .absent _ => .refused .notFound path
  | .notFound => .refused .notFound path
  | .notDirectory => .refused .notDirectory path
  | .isDirectory => .refused .isDirectory path
  | .tooManyLinks => .refused .tooManyLinks path
  | .nullCharacter => .nullCharacter

end FileError

namespace FileSystem

/-! ### Reading -/

/-- The octets of a file. -/
def readOctets (fs : FileSystem) (path : Path) : Except FileError Octets :=
  match fs.walk .followed path with
  | .error fault => .error (.ofWalk path fault)
  | .ok place =>
    match fs.item? place with
    | some (.file content) => .ok content
    | some .directory => .error (.refused .isDirectory path)
    | _ => .error (.refused .notFound path)

/-- The text of a file. -/
def readText (fs : FileSystem) (path : Path) : Except FileError Text :=
  match fs.readOctets path with
  | .error error => .error error
  | .ok octets =>
    match Utf8.decodeMarked octets with
    | .error error => .error (.notUtf8 path error)
    | .ok text => .ok (Utf8.normalizeLineEnds text)

/-! ### Writing, removing and moving -/

/-- Writes octets to the file that a path leads to, which is made if only its name
    is missing. -/
def write (fs : FileSystem) (path : Path) (octets : Octets) : Except FileError FileSystem :=
  match fs.walk .written path with
  | .error (.absent place) => .ok (fs.put place (.file octets))
  | .error fault => .error (.ofWalk path fault)
  | .ok place =>
    if fs.item? place = some .directory then .error (.refused .isDirectory path)
    else .ok (fs.put place (.file octets))

/-- Removes what stands at a path, a link itself and not what it points to. -/
def unlink (fs : FileSystem) (path : Path) : Except FileError FileSystem :=
  match fs.walk .kept path with
  | .error fault => .error (.ofWalk path fault)
  | .ok place =>
    if fs.item? place = some .directory then .error (.refused .isDirectory path)
    else .ok (fs.remove place)

/-- The place that something may be moved to, which must not be a directory. -/
def destination (fs : FileSystem) (source target : Path) : Except FileError Place :=
  if target.name = ".." then .error (.moveRefused .busy source target)
  else
    match fs.walk .kept target with
    | .error (.absent place) => .ok place
    | .error fault => .error (.ofWalk target fault)
    | .ok place =>
      if fs.item? place = some .directory then .error (.moveRefused .isDirectory source target)
      else .ok place

/-- Moves what stands at a path to another one, where it takes the place of a file
    or a link. -/
def move (fs : FileSystem) (source target : Path) : Except FileError FileSystem :=
  match fs.walk .kept source with
  | .error fault => .error (.ofWalk source fault)
  | .ok start =>
    match fs.destination source target with
    | .error error => .error error
    | .ok place =>
      match fs.item? start with
      | none => .error (.refused .notFound source)
      | some item => .ok ((fs.remove start).put place item)

/-! ### Replacing -/

/-- The path to the draft of a file. -/
def draftOf (path : Path) : Path := path.withName (path.name ++ ".pipelint.tmp")

/-- Ends a failed replacement: removes the draft if there is one. -/
def giveUp (fs : FileSystem) (draft : Path) (error : FileError) :
    Except FileError Unit × FileSystem :=
  if fs.leads draft then
    match fs.unlink draft with
    | .ok cleared => (.error error, cleared)
    | .error second => (.error second, fs)
  else (.error error, fs)

/-- Replaces the text of a file. -/
def replaceText (fs : FileSystem) (path : Path) (text : Text) :
    Except FileError Unit × FileSystem :=
  if path.name.isEmpty then (.error (.emptyName path), fs)
  else
    match fs.write (draftOf path) (Utf8.encode text) with
    | .error error => fs.giveUp (draftOf path) error
    | .ok drafted =>
      match drafted.move (draftOf path) path with
      | .error error => drafted.giveUp (draftOf path) error
      | .ok moved => (.ok (), moved)

/-- Replaces a file by code points.  If they are no text, the draft is made and nothing is
    written to it. -/
def replaceCodes (fs : FileSystem) (path : Path) (codes : CodePoints) :
    Except FileError Unit × FileSystem :=
  match codes.toText with
  | .ok text => fs.replaceText path text
  | .error fault =>
    if path.name.isEmpty then (.error (.emptyName path), fs)
    else
      match fs.write (draftOf path) [] with
      | .error error => fs.giveUp (draftOf path) error
      -- the file system refused nothing, so the replacement is not given up and the draft stays
      | .ok drafted => (.error (.notEncodable fault), drafted)

end FileSystem

end WorkflowLint
