/-
  WorkflowLint/Yaml/Library.lean
  ==============================
  **The reader as a library.**

  The reader by which the command reads configurations.  A value goes with the nodes
  of its document; the parts of a mapping are its keys, and those of a text are its
  characters.
-/
import WorkflowLint.Host.Yaml
import WorkflowLint.Yaml.Document

namespace WorkflowLint.Yaml

/-! ### Faults -/

/-- The kind of an error. -/
def ValueError.kind : ValueError → Text
  | .hugeCodePoint => "OverflowError"
  | .endOfCalendar => "OverflowError"
  | .uncomparable _ => "TypeError"
  | _ => "ValueError"

/-- An error as others see it. -/
def ValueError.toLibrary (error : ValueError) : LibraryFault := ⟨error.kind, error.message⟩

/-- A fault as others see it: a text is refused unless a value in it does not exist. -/
def Fault.toLibrary : Fault → YamlFault
  | .value error => .raised error.toLibrary
  | _ => .refused

/-! ### Parts -/

/-- A value in a document, or a key. -/
inductive Part where
  | value (document : Document)
  | key (key : Key)
deriving DecidableEq, Repr

/-- The fault of asking for the parts of a value of some kind. -/
def noParts (kind : Text) : LibraryFault :=
  ⟨"TypeError", "'" ++ kind ++ "' object is not iterable"⟩

namespace Part

/-- An atom as a part. -/
def ofAtom (atom : Atom) : Part := .key (.atom atom)

/-- What stands at the keys of a mapping. -/
def entries? : Part → Option (Text → Option Part)
  | .key _ => none
  | .value document => (document.entries? document.root).map fun entries key =>
    (Entries.get? (.ofText key) entries).map fun value => .value ⟨value, document.graph⟩

/-- Whether a part counts as true. -/
def isTrue : Part → Bool
  | .key (.atom atom) => atom.isTrue
  | .key (.tuple items) => !items.isEmpty
  | .value document => document.graph.isTrue document.root

/-- The parts of an atom. -/
def partsOfAtom : Atom → Except LibraryFault (List Part)
  | .str codes => .ok (codes.map fun code => ofAtom (.str [code]))
  | .null => .error (noParts "NoneType")
  | .bool _ => .error (noParts "bool")
  | .int _ => .error (noParts "int")
  | .float _ => .error (noParts "float")
  | .date _ => .error (noParts "datetime.date")
  | .moment _ => .error (noParts "datetime.datetime")

/-- The parts of a part. -/
def parts : Part → Except LibraryFault (List Part)
  | .key (.atom atom) => partsOfAtom atom
  | .key (.tuple items) => .ok (items.map ofAtom)
  | .value document =>
    match document.root with
    | .atom atom => partsOfAtom atom
    | .container id =>
      match document.graph.content id with
      | .list items => .ok (items.map fun item => .value ⟨item, document.graph⟩)
      | .mapping entries => .ok (entries.map fun entry => .key entry.1)

/-- A part as it is written. -/
def write : Part → Except ValueError CodePoints
  | .key label => label.display
  | .value document => document.graph.display document.root

end Part

/-! ### The library -/

/-- The reader. -/
def library : YamlLibrary where
  Loader := Loader
  Value := Part
  start := .start
  load loader octets :=
    match Document.load loader octets with
    | (.error fault, loader) => (.error fault.toLibrary, loader)
    | (.ok document, loader) => (.ok (.value document), loader)
  entries? := Part.entries?
  isTrue := Part.isTrue
  parts := Part.parts
  write part := part.write.mapError ValueError.toLibrary

end WorkflowLint.Yaml
