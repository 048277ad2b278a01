/-
  WorkflowLint/Proofs/FileSystem/Grounded.lean
  ============================================
  **The current directory.**

  A table of items may put the current directory below a file, or leave it out.  The file
  systems that are built from an empty one do not (`grounded_empty`, `Grounded.create`), and
  replacing files keeps them so (`Grounded.of_blocks`).
-/
import WorkflowLint.Proofs.FileSystem.Walk

namespace WorkflowLint.FileSystem

variable {fs fs' : FileSystem} {place other : Place}

/-- The current directory and all above it are directories. -/
structure Grounded (fs : FileSystem) : Prop where
  isName : ∀ part ∈ fs.current, IsName part
  isDirectory : ∀ place, place <+: fs.current → fs.item? place = some .directory

theorem Grounded.mono (h : Grounded fs) (hcurrent : fs'.current = fs.current)
    (hkeep : ∀ place, place <+: fs.current → fs.item? place = some .directory →
      fs'.item? place = some .directory) : Grounded fs' := by
  constructor
  · rw [hcurrent]
    exact h.isName
  · intro place hplace
    rw [hcurrent] at hplace
    exact hkeep place hplace (h.isDirectory place hplace)

theorem Grounded.of_blocks (h : Grounded fs)
    (hagree : ∀ place, fs'.item? place = fs.item? place ∨ fs.Blocks place)
    (hcurrent : fs'.current = fs.current) : Grounded fs' := by
  apply h.mono hcurrent
  intro place _ hdir
  rcases hagree place with hsame | hblocks
  · rw [hsame, hdir]
  · exact absurd hdir hblocks.1

/-! ### Making directories -/

theorem item?_ensureDirectory (fs : FileSystem) (place other : Place) :
    (fs.ensureDirectory place).item? other =
      if other = place ∧ fs.item? other = none then some .directory else fs.item? other := by
  have hroot : fs.item? [] = some .directory := rfl
  rw [ensureDirectory]
  cases hitem : fs.item? place with
  | some item =>
    by_cases hother : other = place
    · simp [hother, hitem]
    · simp [hother]
  | none =>
    rw [Option.isSome_none, if_neg Bool.false_ne_true, item?_put]
    by_cases hother : other = place
    · simp [hother, hitem]
    · by_cases hnil : other = []
      · simp [hnil, hroot]
      · simp [hother, hnil]

theorem current_foldl_ensureDirectory (fs : FileSystem) (places : List Place) :
    (places.foldl ensureDirectory fs).current = fs.current := by
  induction places generalizing fs with
  | nil => rfl
  | cons place places ih =>
    rw [List.foldl_cons, ih, ensureDirectory]
    split <;> rfl

/-- What stands somewhere stays when directories are made. -/
theorem item?_foldl_ensureDirectory {item : Item} (h : fs.item? other = some item)
    (places : List Place) : (places.foldl ensureDirectory fs).item? other = some item := by
  induction places generalizing fs with
  | nil => exact h
  | cons place places ih =>
    apply ih
    rw [item?_ensureDirectory, h]
    simp

/-- Where nothing but directories stands, every directory is made. -/
theorem isDirectory_foldl_ensureDirectory
    (h : ∀ place item, fs.item? place = some item → item = .directory) {places : List Place}
    (hplace : place ∈ places) :
    (places.foldl ensureDirectory fs).item? place = some .directory := by
  induction places generalizing fs with
  | nil => cases hplace
  | cons other places ih =>
    have hother (place : Place) (item : Item)
        (hitem : (fs.ensureDirectory other).item? place = some item) : item = .directory := by
      rw [item?_ensureDirectory] at hitem
      split at hitem
      · exact (Option.some.inj hitem).symm
      · exact h place item hitem
    rw [List.foldl_cons]
    rcases List.mem_cons.mp hplace with rfl | hplace
    · apply item?_foldl_ensureDirectory
      rw [item?_ensureDirectory]
      cases hitem : fs.item? place with
      | none => simp
      | some item => simp [h place item hitem]
    · exact ih hother hplace

theorem mem_above (h : other <+: place) : other = [] ∨ other = place ∨ other ∈ above place := by
  induction place generalizing other with
  | nil => exact Or.inl (List.prefix_nil.mp h)
  | cons name rest ih =>
    rcases List.prefix_cons_iff.mp h with rfl | ⟨deeper, rfl, hdeeper⟩
    · exact Or.inl rfl
    · cases rest with
      | nil => exact Or.inr (Or.inl (by rw [List.prefix_nil.mp hdeeper]))
      | cons next rest =>
        rw [above]
        rcases ih hdeeper with rfl | rfl | hmem
        · exact Or.inr (Or.inr (List.mem_cons_self ..))
        · exact Or.inr (Or.inl rfl)
        · exact Or.inr (Or.inr (List.mem_cons_of_mem _ (List.mem_map_of_mem hmem)))

/-! ### Building file systems -/

/-- A file system that has nothing but the current directory. -/
theorem grounded_empty {current : Place} (h : ∀ part ∈ current, IsName part) :
    Grounded (empty current) := by
  have hbase : ∀ place item, (FileSystem.mk [] current).item? place = some item →
      item = .directory := by
    intro place item hitem
    rw [item?] at hitem
    split at hitem
    · exact (Option.some.inj hitem).symm
    · cases hitem
  have hempty : empty current =
      (above current ++ [current]).foldl ensureDirectory (FileSystem.mk [] current) := by
    rw [List.foldl_append]
    rfl
  constructor
  · rw [hempty, current_foldl_ensureDirectory]
    exact h
  · intro place hplace
    rw [hempty, current_foldl_ensureDirectory] at hplace
    rw [hempty]
    rcases mem_above hplace with rfl | rfl | hmem
    · rfl
    · exact isDirectory_foldl_ensureDirectory hbase
        (List.mem_append_right _ (List.mem_singleton_self _))
    · exact isDirectory_foldl_ensureDirectory hbase (List.mem_append_left _ hmem)

/-- An item that is made away from the current directory leaves it where it is. -/
theorem Grounded.create (h : Grounded fs) (hplace : ¬place <+: fs.current) (item : Item) :
    Grounded (fs.create place item) := by
  have habove : Grounded (fs.ensureAbove place) :=
    h.mono (current_foldl_ensureDirectory ..) fun _ _ hdir => item?_foldl_ensureDirectory hdir _
  have hcurrent : (fs.ensureAbove place).current = fs.current := current_foldl_ensureDirectory ..
  have hput : Grounded ((fs.ensureAbove place).put place item) := by
    refine habove.mono (Eq.refl ((fs.ensureAbove place).put place item).current) ?_
    intro other hother hdir
    have hne : other ≠ place := by
      rintro rfl
      rw [hcurrent] at hother
      exact hplace hother
    rw [item?_put, if_neg hne, hdir, ite_self]
  cases item with
  | file | link => exact hput
  | directory =>
    exact habove.mono (current_foldl_ensureDirectory _ [place])
      fun _ _ hdir => item?_foldl_ensureDirectory hdir [place]

end WorkflowLint.FileSystem
