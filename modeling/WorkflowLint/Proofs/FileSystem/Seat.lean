/-
  WorkflowLint/Proofs/FileSystem/Seat.lean
  ========================================
  **Files that do not disturb each other.**

  A path to a file has a seat, the place of its last name, where the file stands or a link to
  it.  A replacement changes the seat and nothing else.  Paths to different files have different
  seats, and no walk to a file touches the seat of a path to another one, so that replacing one
  leaves the other where it is (`Found.of_changed`).
-/
import WorkflowLint.Proofs.Workspace.Failure

namespace WorkflowLint.FileSystem

variable {fs fs' : FileSystem} {path : Path} {directory place goal last : Place}
  {parts : List Text} {links : Nat} {content octets : Octets}

/-! ### Walks that keep away from a place -/

/-- A place is another one, or a link that leads to it. -/
def Reaches (fs : FileSystem) (place goal : Place) : Prop :=
  place = goal ∨ ∃ target links, fs.item? place = some (.link target) ∧
    Leads fs (targetStart place.dropLast target) (targetParts target) links goal

/-- A place reaches one file only. -/
theorem Reaches.unique {goal' : Place} {content' : Octets} (h : fs.Reaches place goal)
    (h' : fs.Reaches place goal') (hgoal : fs.item? goal = some (.file content))
    (hgoal' : fs.item? goal' = some (.file content')) : goal = goal' := by
  rcases h with rfl | ⟨target, links, hitem, hleads⟩
  · rcases h' with rfl | ⟨target, links, hitem, -⟩
    · rfl
    · rw [hgoal] at hitem
      cases hitem
  · rcases h' with rfl | ⟨target', links', hitem', hleads'⟩
    · rw [hgoal'] at hitem
      cases hitem
    · rw [hitem] at hitem'
      cases hitem'
      exact (hleads.unique hleads').2

theorem Leads.start_cases (h : Leads fs place parts links goal) :
    place = goal ∨ fs.item? place = some .directory := by
  cases h with
  | here => exact Or.inl rfl
  | self hdir | up hdir | enter hdir | follow hdir => exact Or.inr hdir

/-- Names lead to where they led if nothing has changed but places that no walk goes through
    and that do not reach the goal. -/
theorem Leads.of_avoids (h : Leads fs place parts links last)
    (hlast : last = goal ∨ fs.item? last = some .directory)
    (hagree : ∀ place, fs'.item? place = fs.item? place ∨
      fs.Blocks place ∧ ¬fs.Reaches place goal) :
    Leads fs' place parts links last := by
  have hkeep {place : Place} (hdir : fs.item? place = some .directory) :
      fs'.item? place = some .directory := by
    rcases hagree place with hsame | ⟨hblocks, -⟩
    · rw [hsame, hdir]
    · exact absurd hdir hblocks.1
  -- what a name leads to is the last place or a directory on the way there
  have hmid {mid : Place} {rest : List Text} {count : Nat} {last : Place}
      (hrest : Leads fs mid rest count last)
      (hlast : last = goal ∨ fs.item? last = some .directory) :
      mid = goal ∨ fs.item? mid = some .directory := by
    rcases hrest.start_cases with rfl | hdir
    · exact hlast
    · exact Or.inr hdir
  induction h with
  | here => exact .here
  | self hdir hself _ ih => exact .self (hkeep hdir) hself (ih hlast)
  | up hdir hself hup _ ih => exact .up (hkeep hdir) hself hup (ih hlast)
  | @enter place _ part _ _ item hdir hname hitem hlink hrest ih =>
    have hsame : fs'.item? (place ++ [part]) = some item := by
      rcases hagree (place ++ [part]) with hsame | ⟨hblocks, hreaches⟩
      · rw [hsame, hitem]
      · rcases hmid hrest hlast with rfl | hnext
        · exact absurd (Or.inl rfl) hreaches
        · exact absurd hnext hblocks.1
    exact .enter (hkeep hdir) hname hsame hlink (ih hlast)
  | @follow place mid _ part target rest inner outer hdir hname hitem htarget hrest ihtarget
      ihrest =>
    have hnext := hmid hrest hlast
    have hbelow : Leads fs (targetStart (place ++ [part]).dropLast target) (targetParts target)
        inner mid := by
      rw [List.dropLast_concat]
      exact htarget
    have hsame : fs'.item? (place ++ [part]) = some (.link target) := by
      rcases hagree (place ++ [part]) with hsame | ⟨hblocks, hreaches⟩
      · rw [hsame, hitem]
      · rcases hnext with rfl | hdir
        · exact absurd (Or.inr ⟨target, inner, hitem, hbelow⟩) hreaches
        · exact absurd hdir (hblocks.2 target hitem inner mid hbelow)
    exact .follow (hkeep hdir) hname hsame (ihtarget hnext) (ihrest hlast)

/-! ### Paths to files -/

/-- A path leads to a file, and a directory holds its last name. -/
structure Found (fs : FileSystem) (path : Path) (directory goal : Place) (content : Octets) :
    Prop where
  holds : Holds fs directory path
  hasNull : path.hasNull = false
  isName : IsName path.name
  walk : fs.walk .followed path = .ok goal
  file : fs.item? goal = some (.file content)

/-- The place of the last name of a path. -/
def seat (directory : Place) (path : Path) : Place := directory ++ [path.name]

theorem Found.readOctets_eq (h : Found fs path directory goal content) :
    fs.readOctets path = .ok content := by
  rw [readOctets, h.walk]
  simp only [h.file]

theorem Found.blocks (h : Found fs path directory goal content) :
    fs.Blocks (seat directory path) :=
  h.holds.blocks_of_readOctets h.isName h.readOctets_eq

theorem Found.reaches (h : Found fs path directory goal content) :
    fs.Reaches (seat directory path) goal := by
  obtain ⟨⟨links, -, hdirectory⟩, -⟩ := h.holds
  obtain ⟨-, count, -, hleads⟩ := walk_followed_iff.mp h.walk
  rw [parts_eq rfl h.isName.ne_nil] at hleads
  obtain ⟨inner, outer, mid, -, hfront, hback⟩ := hleads.exists_of_append
  obtain ⟨-, rfl⟩ := hdirectory.unique hfront
  cases hback with
  | self _ hself => simp [h.isName.1] at hself
  | up _ _ hup => exact absurd hup h.isName.2
  | enter _ _ hitem hlink hrest =>
    cases hrest
    exact Or.inl rfl
  | @follow _ mid _ _ target _ inner _ _ _ hitem htarget hrest =>
    cases hrest
    refine Or.inr ⟨target, inner, hitem, ?_⟩
    rw [seat, List.dropLast_concat]
    exact htarget

theorem Found.item?_seat (h : Found fs path directory goal content) :
    ∃ item, fs.item? (seat directory path) = some item := by
  rcases h.reaches with heq | ⟨target, -, hitem, -⟩
  · exact ⟨_, heq ▸ h.file⟩
  · exact ⟨_, hitem⟩

theorem Stands.isDirectory_dropLast (h : Stands fs place) :
    fs.item? place.dropLast = some .directory := by
  cases h with
  | root => rfl
  | child _ hdir =>
    rw [List.dropLast_concat]
    exact hdir

theorem Grounded.isDirectory_start (h : fs.Grounded) (start : PathStart) :
    fs.item? (fs.startOf start) = some .directory := by
  cases start with
  | here => exact h.isDirectory _ (List.prefix_refl _)
  | root | doubleRoot => rfl

/-- The last name of a path to a file is a name. -/
theorem isName_of_walk (hgrounded : fs.Grounded) (hwalk : fs.walk .followed path = .ok goal)
    (hfile : fs.item? goal = some (.file content)) : IsName path.name := by
  have hne : fs.item? goal ≠ some .directory := by simp [hfile]
  obtain ⟨-, count, -, hleads⟩ := walk_followed_iff.mp hwalk
  obtain ⟨start, parts⟩ := path
  rcases List.eq_nil_or_concat' parts with rfl | ⟨front, last, rfl⟩
  · cases hleads
    exact absurd (hgrounded.isDirectory_start start) hne
  · have hlast : (Path.mk start (front ++ [last])).name = last := by simp [Path.name]
    rw [hlast]
    obtain ⟨_, _, mid, -, hfront, hback⟩ := hleads.exists_of_append
    cases hback with
    | self hdir _ hrest =>
      cases hrest
      exact absurd hdir hne
    | up _ _ _ hrest =>
      cases hrest
      exact absurd (hfront.stands (hgrounded.stands_start start)).isDirectory_dropLast hne
    | enter _ hname => exact hname
    | follow _ hname => exact hname

theorem exists_found (hgrounded : fs.Grounded) (h : fs.isFile path = true) :
    ∃ directory goal content, Found fs path directory goal content := by
  rw [isFile, target?] at h
  split at h
  · rename_i content htarget
    split at htarget
    · rename_i goal hwalk
      have hname := isName_of_walk hgrounded hwalk htarget
      obtain ⟨directory, hholds⟩ := exists_holds_of_walk rfl hname.ne_nil (Or.inl ⟨goal, hwalk⟩)
      exact ⟨directory, goal, content, hholds, (walk_followed_iff.mp hwalk).1, hname, hwalk,
        htarget⟩
    · cases htarget
  · cases h

/-! ### Other files -/

/-- What has changed is what stands at the seats of paths of some kind to files. -/
structure Changed (fs fs' : FileSystem) (kind : Path → Prop) : Prop where
  current : fs'.current = fs.current
  agrees : ∀ place, fs'.item? place = fs.item? place ∨
    ∃ path directory goal content, kind path ∧ Found fs path directory goal content ∧
      place = seat directory path

theorem Changed.agrees_or_blocks {kind : Path → Prop} (h : Changed fs fs' kind) (place : Place) :
    fs'.item? place = fs.item? place ∨ fs.Blocks place := by
  rcases h.agrees place with hsame | ⟨_, _, _, _, -, hfound, rfl⟩
  · exact Or.inl hsame
  · exact Or.inr hfound.blocks

theorem Changed.grounded {kind : Path → Prop} (h : Changed fs fs' kind) (hgrounded : fs.Grounded) :
    fs'.Grounded :=
  hgrounded.of_blocks h.agrees_or_blocks h.current

theorem Changed.noDrafts {kind : Path → Prop} (h : Changed fs fs' kind) (hdrafts : fs.NoDrafts) :
    fs'.NoDrafts := by
  intro directory name
  rcases h.agrees (directory ++ [name ++ ".pipelint.tmp"]) with
    hsame | ⟨_, _, _, _, -, hfound, hplace⟩
  · rw [hsame, hdrafts directory name]
  · obtain ⟨item, hitem⟩ := hfound.item?_seat
    rw [← hplace, hdrafts directory name] at hitem
    cases hitem

/-- A path leads to its file as before if what has changed belongs to other files. -/
theorem Found.of_changed {kind : Path → Prop} (h : Found fs path directory goal content)
    (hchanged : Changed fs fs' kind)
    (hother : ∀ other, kind other → fs.walk .followed other ≠ fs.walk .followed path) :
    Found fs' path directory goal content := by
  have hagree (place : Place) : fs'.item? place = fs.item? place ∨
      fs.Blocks place ∧ ¬fs.Reaches place goal := by
    rcases hchanged.agrees place with hsame | ⟨other, _, _, _, hkind, hfound, rfl⟩
    · exact Or.inl hsame
    · refine Or.inr ⟨hfound.blocks, fun hreaches => hother other hkind ?_⟩
      rw [hfound.walk, h.walk, hfound.reaches.unique hreaches hfound.file h.file]
  obtain ⟨hnull, count, hle, hleads⟩ := walk_followed_iff.mp h.walk
  have hstart : fs'.startOf path.start = fs.startOf path.start := by
    cases path.start with
    | here => exact hchanged.current
    | root | doubleRoot => rfl
  constructor
  · exact h.holds.of_blocks hchanged.agrees_or_blocks hchanged.current
  · exact hnull
  · exact h.isName
  · rw [← hstart] at hleads
    exact walk_followed_iff.mpr ⟨hnull, count, hle, hleads.of_avoids (Or.inl rfl) hagree⟩
  · rcases hagree goal with hsame | ⟨-, hreaches⟩
    · rw [hsame, h.file]
    · exact absurd (Or.inl rfl) hreaches

/-- Paths to different files have different seats. -/
theorem Found.walk_eq_of_seat_eq {other : Path} {directory' goal' : Place} {content' : Octets}
    (h : Found fs path directory goal content) (h' : Found fs other directory' goal' content')
    (hseat : seat directory path = seat directory' other) :
    fs.walk .followed path = fs.walk .followed other := by
  have hreaches := h.reaches
  rw [hseat] at hreaches
  rw [h.walk, h'.walk, hreaches.unique h'.reaches h.file h'.file]

/-! ### Storing a text -/

/-- The file system after a text was stored under the last name of a path. -/
def stored (fs : FileSystem) (directory : Place) (path : Path) (octets : Octets) : FileSystem :=
  fs.replaced (directory ++ [draftName path]) (seat directory path) octets

/-- The seat is all that changes. -/
theorem NoDrafts.item?_stored (hdrafts : fs.NoDrafts) (directory : Place) (path : Path)
    (octets : Octets) (place : Place) :
    (fs.stored directory path octets).item? place =
      if place = seat directory path then some (.file octets) else fs.item? place := by
  rw [stored, seat, item?_replaced]
  split
  · rfl
  · split
    · rename_i hplace
      rw [hplace]
      exact (hdrafts directory path.name).symm
    · rfl

theorem Found.replaceText_eq (hdrafts : fs.NoDrafts) (h : Found fs path directory goal content)
    (text : Text) :
    fs.replaceText path text = (.ok (), fs.stored directory path (Utf8.encode text)) := by
  have habsent : fs.item? (directory ++ [draftName path]) = none := hdrafts directory path.name
  have hfree : Writable fs (directory ++ [draftName path]) := by
    constructor <;> simp [habsent]
  exact h.holds.replaceText_eq h.isName.ne_nil h.hasNull hfree h.isName h.blocks.1 text

theorem Found.changed_stored (hdrafts : fs.NoDrafts) (h : Found fs path directory goal content)
    (octets : Octets) : Changed fs (fs.stored directory path octets) (· = path) := by
  refine ⟨rfl, fun place => ?_⟩
  rw [hdrafts.item?_stored]
  split
  · rename_i hplace
    exact Or.inr ⟨path, directory, goal, content, rfl, h, hplace⟩
  · exact Or.inl rfl

/-- What stands at the seat of a path is read. -/
theorem Found.readOctets_of_changed {kind : Path → Prop}
    (h : Found fs path directory goal content) (hchanged : Changed fs fs' kind)
    (hitem : fs'.item? (seat directory path) = some (.file octets)) :
    fs'.readOctets path = .ok octets := by
  have hholds := h.holds.of_blocks hchanged.agrees_or_blocks hchanged.current
  have hwalk : fs'.walk .followed path = .ok (seat directory path) :=
    hholds.walk_item h.hasNull rfl h.isName hitem (Or.inr (by simp))
  rw [readOctets, hwalk]
  simp only [hitem]

end WorkflowLint.FileSystem
