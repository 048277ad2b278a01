/-
  WorkflowLint/Proofs/FileSystem/LastName.lean
  ============================================
  **Last names.**

  What a path does to a file system depends on the directory that its names but the last lead
  to (`Holds`), and on what stands there under the last name.  Every walk along the path ends
  with a walk along that name, whether links are followed or kept.
-/
import WorkflowLint.Proofs.FileSystem.Walk

namespace WorkflowLint.FileSystem

variable {fs fs' : FileSystem} {path : Path} {directory : Place} {name : Text} {last : LastName}

/-! ### Paths by their last names -/

theorem IsName.ne_nil (h : IsName name) : name ≠ [] := by
  rintro rfl
  cases h.1

theorem withName_name (h : path.name ≠ []) : path.withName path.name = path := by
  obtain ⟨start, parts⟩ := path
  rw [Path.name] at h
  cases hlast : parts.getLast? with
  | none => simp [hlast] at h
  | some part =>
    obtain ⟨front, rfl⟩ := List.getLast?_eq_some_iff.mp hlast
    simp [Path.withName, Path.name]

theorem withName_withName (path : Path) (first second : Text) :
    (path.withName first).withName second = path.withName second := by
  simp [Path.withName]

/-! ### The directory of a path -/

/-- A directory holds what the last name of a path stands for. -/
structure Holds (fs : FileSystem) (directory : Place) (path : Path) : Prop where
  leads : ∃ links, links ≤ linkLimit ∧
    Leads fs (fs.startOf path.start) path.parts.dropLast links directory
  isDirectory : fs.item? directory = some .directory

theorem Holds.withName (h : Holds fs directory path) (name : Text) :
    Holds fs directory (path.withName name) := by
  obtain ⟨hleads, hdir⟩ := h
  refine ⟨?_, hdir⟩
  rw [Path.withName, List.dropLast_concat]
  exact hleads

theorem Holds.of_blocks (h : Holds fs directory path)
    (hagree : ∀ place, fs'.item? place = fs.item? place ∨ fs.Blocks place)
    (hcurrent : fs'.current = fs.current) : Holds fs' directory path := by
  obtain ⟨⟨links, hle, hleads⟩, hdir⟩ := h
  constructor
  · have hstart : fs'.startOf path.start = fs.startOf path.start := by
      cases path.start with
      | here => exact hcurrent
      | root | doubleRoot => rfl
    rw [hstart]
    exact ⟨links, hle, hleads.of_blocks hdir hagree⟩
  · rcases hagree directory with hsame | hblocks
    · rw [hsame, hdir]
    · exact absurd hdir hblocks.1

theorem Holds.unique {directory' : Place} (h : Holds fs directory path)
    (h' : Holds fs directory' path) : directory = directory' := by
  obtain ⟨⟨_, -, hleads⟩, -⟩ := h
  obtain ⟨⟨_, -, hleads'⟩, -⟩ := h'
  exact (hleads.unique hleads').2

theorem parts_eq (hpath : path.name = name) (hne : name ≠ []) :
    path.parts = path.parts.dropLast ++ [name] := by
  subst hpath
  exact congrArg Path.parts (withName_name hne).symm

/-- A walk to a last name ends with a walk from the directory. -/
theorem Holds.exists_walk (h : Holds fs directory path) (hnull : path.hasNull = false)
    (hpath : path.name = name) (hne : name ≠ []) (last : LastName) :
    ∃ links, fs.walk last path = walkLinks fs last links directory [name] := by
  obtain ⟨⟨inner, hle, hleads⟩, -⟩ := h
  obtain ⟨links, hlimit⟩ := Nat.exists_eq_add_of_le hle
  have hlast : last = .followed ∨ ∃ part ∈ [name], part ≠ [] :=
    Or.inr ⟨name, List.mem_singleton_self _, hne⟩
  refine ⟨links, ?_⟩
  rw [walk, hnull, if_neg Bool.false_ne_true, hlimit, ← hleads.walkLinks_append hlast,
    ← parts_eq hpath hne]

/-- A walk that arrives at a last name has a directory before it. -/
theorem exists_holds_of_walk (hpath : path.name = name) (hne : name ≠ [])
    (h : Arrives [name] (fs.walk last path)) : ∃ directory, Holds fs directory path := by
  have hlast : last = .followed ∨ ∃ part ∈ [name], part ≠ [] :=
    Or.inr ⟨name, List.mem_singleton_self _, hne⟩
  rw [walk] at h
  split at h
  · simp [Arrives] at h
  · rw [parts_eq hpath hne] at h
    obtain ⟨inner, directory, hle, hleads⟩ := exists_leads_of_walkLinks hlast h
    refine ⟨directory, ⟨inner, hle, hleads⟩, ?_⟩
    obtain ⟨links, hlimit⟩ := Nat.exists_eq_add_of_le hle
    rw [hlimit, hleads.walkLinks_append hlast, walkLinks_eq, walkWith] at h
    split at h
    · simp [Arrives] at h
    · rename_i hdir
      rwa [ne_eq, Decidable.not_not] at hdir

section Last

variable (h : Holds fs directory path) (hnull : path.hasNull = false) (hpath : path.name = name)
  (hname : IsName name)

include h hnull hpath hname

theorem Holds.walk_absent (hitem : fs.item? (directory ++ [name]) = none) (last : LastName) :
    fs.walk last path = .error (.absent (directory ++ [name])) := by
  obtain ⟨links, hwalk⟩ := h.exists_walk hnull hpath hname.ne_nil last
  rw [hwalk, walkLinks_name _ _ h.isDirectory hname (by simp [asksForDirectory]), hitem]
  rfl

theorem Holds.walk_item {item : Item} (hitem : fs.item? (directory ++ [name]) = some item)
    (hlink : last = .kept ∨ ∀ target, item ≠ .link target) :
    fs.walk last path = .ok (directory ++ [name]) := by
  obtain ⟨links, hwalk⟩ := h.exists_walk hnull hpath hname.ne_nil last
  rw [hwalk, walkLinks_name _ _ h.isDirectory hname (by simp [asksForDirectory]), hitem]
  cases item with
  | file | directory => exact walkLinks_nil _ _
  | link target => exact if_pos ⟨rfl, hlink.resolve_right (fun hnot => hnot target rfl)⟩

end Last

end WorkflowLint.FileSystem
