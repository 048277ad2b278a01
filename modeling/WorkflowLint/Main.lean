/-
  WorkflowLint/Main.lean
  ======================
  **The command line.**

  Standard input lists the files of the current directory, one path on a line.
  They are read, the command is run on them, what it prints is printed, and the
  files that it changed are written.  A path that cannot be read as a file stands
  for a directory.  Everything that is decided is decided by `CommandLine.run`.
-/
import Std.Time.DateTime.Timestamp
import WorkflowLint.CommandLine.Builtin

namespace WorkflowLint.CommandLine

/-! ### Reading the files -/

/-- What stands at a path. -/
def itemAt (path : String) : IO Item := do
  try
    let octets ← IO.FS.readBinFile path
    pure (.file octets.toList)
  catch _ => pure .directory

/-- The file system with what stands at the paths of a listing. -/
def readListing (fs : FileSystem) (listing : List String) : IO FileSystem :=
  listing.foldlM
    (fun fs line => do
      let path := Path.ofText line.toList
      pure (fs.create (fs.startOf path.start ++ path.parts) (← itemAt line))) fs

/-! ### Writing the files -/

/-- The files that are not as they were before. -/
def changedFiles (before after : FileSystem) : List (Place × Octets) :=
  after.items.filterMap fun (place, item) =>
    match item with
    | .file content => if before.item? place = some item then none else some (place, content)
    | _ => none

/-- The places of the files that were there before and are there no more. -/
def removedFiles (before after : FileSystem) : List Place :=
  before.items.filterMap fun (place, item) =>
    match item with
    | .file _ => if (after.item? place).isSome then none else some place
    | _ => none

/-- How a place is written. -/
def placeText (place : Place) : String := String.ofList place.toPath.toText

/-- Writes what has changed between two file systems. -/
def writeChanges (before after : FileSystem) : IO Unit := do
  for (place, content) in changedFiles before after do
    IO.FS.writeBinFile (placeText place) ⟨content.toArray⟩
  for place in removedFiles before after do
    IO.FS.removeFile (placeText place)

/-! ### The process -/

/-- A number of milliseconds in seconds. -/
def seconds (milliseconds : Nat) : Double := .ofDecimal false milliseconds (-3)

/-- The time in milliseconds since the epoch. -/
def wallClock : IO Nat := do
  let now ← Std.Time.Timestamp.now
  pure now.toMillisecondsSinceUnixEpoch.val.toNat

/-- Runs the command in the current directory and tells its exit code. -/
def process (arguments : List String) : IO UInt32 := do
  let start ← IO.monoMsNow
  let listing ← (← IO.getStdin).lines
  let current := Path.ofText (toString (← IO.currentDir)).toList
  let before ← readListing (.empty current.parts) listing.toList
  let duration := (← IO.monoMsNow) - start
  let clock : Clock Double := ⟨seconds (← wallClock), seconds duration⟩
  let outcome := run builtin clock before (arguments.map String.toList)
  IO.print (String.ofList outcome.output)
  writeChanges before outcome.files
  match outcome.fault with
  | some fault => IO.eprintln (String.ofList fault.message)
  | none => pure ()
  pure (UInt32.ofNat outcome.exitCode)

end WorkflowLint.CommandLine

/-- Runs the command. -/
def main (arguments : List String) : IO UInt32 := WorkflowLint.CommandLine.process arguments
