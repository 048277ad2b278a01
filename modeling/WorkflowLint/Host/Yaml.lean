/-
  WorkflowLint/Host/Yaml.lean
  ===========================
  **Reading YAML.**

  Configurations are read by a library, which may be any.  Its values are known by
  what a configuration asks of them: what stands at a key, whether a value counts as
  true, what it is made of, and how it is written.  A loader may keep something from
  one text to the next.
-/
import WorkflowLint.Host.Fault
import WorkflowLint.Text.CodePoint
import WorkflowLint.Text.Utf8

namespace WorkflowLint

/-- Why a text has no value: it is refused, or the library fails. -/
inductive YamlFault where
  | refused
  | raised (fault : LibraryFault)
deriving DecidableEq, Repr

/-- A library that reads YAML. -/
structure YamlLibrary where
  /-- What a loader keeps. -/
  Loader : Type
  /-- What a text stands for. -/
  Value : Type
  /-- A loader that has read nothing. -/
  start : Loader
  /-- The value of a text, and the loader after it. -/
  load : Loader → Octets → Except YamlFault Value × Loader
  /-- What stands at the keys of a value, if it is a mapping. -/
  entries? : Value → Option (Text → Option Value)
  /-- Whether a value counts as true. -/
  isTrue : Value → Bool
  /-- What a value is made of, if it has parts. -/
  parts : Value → Except LibraryFault (List Value)
  /-- A value as it is written. -/
  write : Value → Except LibraryFault CodePoints

end WorkflowLint
