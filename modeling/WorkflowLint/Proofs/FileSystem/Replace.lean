/-
  WorkflowLint/Proofs/FileSystem/Replace.lean
  ===========================================
  **Replacing a file.**

  A replacement whose draft is no link comes to one of three ends (`Replacement`): it is refused
  and nothing has changed, the draft is written and withdrawn, or the draft is written and takes
  the place of the file.  What was stored can then be read where it was stored
  (`readOctets_replaced`), because no walk to the directory goes through a file or through a
  link to one.
-/
import WorkflowLint.FileSystem.Access
import WorkflowLint.Proofs.FileSystem.LastName
import WorkflowLint.Proofs.FileSystem.Resolve
import WorkflowLint.Proofs.Text.Utf8

namespace WorkflowLint.FileSystem

variable {fs fs' : FileSystem} {path : Path} {directory place : Place} {name : Text}
  {octets : Octets}

/-! ### Names of drafts -/

/-- The name of a draft. -/
def draftName (path : Path) : Text := path.name ++ ".pipelint.tmp"

theorem isName_draftName (path : Path) : IsName (draftName path) := by
  have hlength : (draftName path).length = path.name.length + 13 := List.length_append
  have hne {other : Text} (hother : other.length < 13) : draftName path ≠ other := by
    rintro rfl
    omega
  have hnil : draftName path ≠ [] := hne (by decide)
  have hpoint : draftName path ≠ ['.'] := hne (by decide)
  exact ⟨by simp [isSelf, hnil, hpoint], hne (by decide)⟩

theorem draftName_ne (path : Path) : draftName path ≠ path.name := by
  intro h
  have hlength := congrArg List.length h
  rw [draftName, List.length_append] at hlength
  have hsuffix : (".pipelint.tmp" : Text).length = 13 := rfl
  omega

theorem hasNull_draftOf (h : path.name ≠ []) : (draftOf path).hasNull = path.hasNull := by
  have hnull (name : Text) : (path.withName name).hasNull =
      (path.parts.dropLast.any (fun part => part.contains '\x00') || name.contains '\x00') := by
    simp [Path.hasNull, Path.withName]
  have hdraft : (draftName path).contains '\x00' = path.name.contains '\x00' := by
    simp [draftName]
  have hpath := hnull path.name
  rw [withName_name h] at hpath
  rw [hpath, ← hdraft]
  exact hnull (draftName path)

theorem name_draftOf (path : Path) : (draftOf path).name = draftName path := by
  simp [draftOf, draftName, Path.withName, Path.name]

/-! ### Places to write to -/

/-- Nothing stands at a place, or a file. -/
structure Writable (fs : FileSystem) (place : Place) : Prop where
  not_directory : fs.item? place ≠ some .directory
  not_link : ∀ target, fs.item? place ≠ some (.link target)

theorem Writable.blocks (h : Writable fs place) : fs.Blocks place :=
  ⟨h.not_directory, fun target hitem => absurd hitem (h.not_link target)⟩

theorem put_agrees (hblocks : fs.Blocks place) (item : Item) (other : Place) :
    (fs.put place item).item? other = fs.item? other ∨ fs.Blocks other := by
  rw [item?_put]
  split
  · rename_i hroot
    left
    rw [hroot, item?, if_pos rfl]
  · split
    · rename_i hplace
      right
      rw [hplace]
      exact hblocks
    · exact Or.inl rfl

theorem item?_put_of_ne (fs : FileSystem) (directory : Place) {name other : Text}
    (hne : other ≠ name) (item : Item) :
    (fs.put (directory ++ [name]) item).item? (directory ++ [other]) =
      fs.item? (directory ++ [other]) := by
  rw [item?_put, if_neg (List.append_ne_nil_of_right_ne_nil _ (List.cons_ne_nil _ _)), if_neg]
  simpa using hne

theorem item?_put_self (fs : FileSystem) (directory : Place) (name : Text) (item : Item) :
    (fs.put (directory ++ [name]) item).item? (directory ++ [name]) = some item := by
  rw [item?_put, if_neg (List.append_ne_nil_of_right_ne_nil _ (List.cons_ne_nil _ _)), if_pos rfl]

/-! ### Steps of a replacement -/

section Steps

variable (h : Holds fs directory path) (hnull : path.hasNull = false) (hpath : path.name = name)

include h hnull hpath

theorem Holds.write_eq (hname : IsName name) (hfree : Writable fs (directory ++ [name]))
    (octets : Octets) :
    fs.write path octets = .ok (fs.put (directory ++ [name]) (.file octets)) := by
  rw [write]
  cases hitem : fs.item? (directory ++ [name]) with
  | none => rw [h.walk_absent hnull hpath hname hitem]
  | some item =>
    rw [h.walk_item hnull hpath hname hitem (Or.inr fun target hlink =>
      hfree.not_link target (hlink ▸ hitem))]
    simp only
    rw [if_neg hfree.not_directory]

/-- A file that was written is removed. -/
theorem Holds.giveUp_eq (hname : IsName name)
    (hitem : fs.item? (directory ++ [name]) = some (.file octets)) (error : FileError) :
    fs.giveUp path error = (.error error, fs.remove (directory ++ [name])) := by
  have hleads : fs.leads path = true := by
    rw [FileSystem.leads, target?, h.walk_item hnull hpath hname hitem (Or.inr (by simp))]
    simp [hitem]
  rw [giveUp, hleads, if_pos rfl, unlink, h.walk_item hnull hpath hname hitem (Or.inl rfl)]
  simp [hitem]

/-- Where a directory stands nothing is written and nothing removed. -/
theorem Holds.exists_giveUp_directory (hname : IsName name)
    (hitem : fs.item? (directory ++ [name]) = some .directory) (error : FileError) :
    ∃ second, fs.giveUp path error = (.error second, fs) := by
  rw [giveUp]
  split
  · rw [unlink, h.walk_item hnull hpath hname hitem (Or.inl rfl)]
    simp [hitem]
  · exact ⟨error, rfl⟩

theorem Holds.destination_eq (hname : IsName name)
    (hitem : fs.item? (directory ++ [name]) ≠ some .directory) (source : Path) :
    fs.destination source path = .ok (directory ++ [name]) := by
  rw [destination, hpath, if_neg hname.2]
  cases hfound : fs.item? (directory ++ [name]) with
  | none => rw [h.walk_absent hnull hpath hname hfound]
  | some item =>
    rw [h.walk_item hnull hpath hname hfound (Or.inl rfl)]
    simp only
    rw [if_neg hitem]

/-- Nothing is moved to where a directory stands. -/
theorem Holds.exists_destination_error (hne : name ≠ [])
    (hnot : ¬(IsName name ∧ fs.item? (directory ++ [name]) ≠ some .directory)) (source : Path) :
    ∃ error, fs.destination source path = .error error := by
  rw [destination, hpath]
  by_cases hup : name = ".."
  · exact ⟨_, if_pos hup⟩
  · rw [if_neg hup]
    cases hself : isSelf name with
    | true =>
      obtain ⟨links, hwalk⟩ := h.exists_walk hnull hpath hne .kept
      rw [hwalk, walkLinks_self _ _ h.isDirectory hself, walkLinks_nil]
      simp only
      rw [if_pos h.isDirectory]
      exact ⟨_, rfl⟩
    | false =>
      have hitem : fs.item? (directory ++ [name]) = some .directory :=
        Decidable.not_not.mp fun hitem => hnot ⟨⟨hself, hup⟩, hitem⟩
      rw [h.walk_item hnull hpath ⟨hself, hup⟩ hitem (Or.inl rfl)]
      simp only
      rw [if_pos hitem]
      exact ⟨_, rfl⟩

end Steps

/-! ### The ends of a replacement -/

/-- The file system after a draft has taken the place of an item. -/
def replaced (fs : FileSystem) (draft target : Place) (octets : Octets) : FileSystem :=
  ((fs.put draft (.file octets)).remove draft).put target (.file octets)

/-- How the replacement of a file may end.  It is refused if there is no place for a draft, or if a
    directory stands there. -/
inductive Replacement (fs : FileSystem) (path : Path) (octets : Octets) :
    Except FileError Unit × FileSystem → Prop where
  | refused (error : FileError)
      (hdraft : ∀ directory, Holds fs directory path → path.name ≠ [] → path.hasNull = false →
        fs.item? (directory ++ [draftName path]) = some .directory) :
      Replacement fs path octets (.error error, fs)
  | withdrawn {directory : Place} (error : FileError) (hholds : Holds fs directory path)
      (hdraft : Writable fs (directory ++ [draftName path])) (hne : path.name ≠ [])
      (hnull : path.hasNull = false) :
      Replacement fs path octets (.error error,
        (fs.put (directory ++ [draftName path]) (.file octets)).remove
          (directory ++ [draftName path]))
  | done {directory : Place} (hholds : Holds fs directory path) (hnull : path.hasNull = false)
      (hname : IsName path.name) (hdraft : Writable fs (directory ++ [draftName path]))
      (htarget : fs.item? (directory ++ [path.name]) ≠ some .directory) :
      Replacement fs path octets (.ok (),
        fs.replaced (directory ++ [draftName path]) (directory ++ [path.name]) octets)

section Drafted

variable (h : Holds fs directory path) (hne : path.name ≠ []) (hnull : path.hasNull = false)
  (hfree : Writable fs (directory ++ [draftName path]))

include h hne hnull hfree

/-- Once the draft has been written, it is moved to the last name of the path. -/
theorem Holds.replaceText_eq_move (text : Text) :
    fs.replaceText path text =
      match (fs.put (directory ++ [draftName path]) (.file (Utf8.encode text))).destination
        (draftOf path) path with
      | .error error => (.error error,
          (fs.put (directory ++ [draftName path]) (.file (Utf8.encode text))).remove
            (directory ++ [draftName path]))
      | .ok place => (.ok (), fs.replaced (directory ++ [draftName path]) place
          (Utf8.encode text)) := by
  have hdraft : Holds fs directory (draftOf path) := h.withName (draftName path)
  have hdraftNull : (draftOf path).hasNull = false := by rw [hasNull_draftOf hne, hnull]
  have hwrite := hdraft.write_eq hdraftNull (name_draftOf path) (isName_draftName path) hfree
  have hitem := item?_put_self fs directory (draftName path) (.file (Utf8.encode text))
  have hafter := hdraft.of_blocks (put_agrees hfree.blocks (.file (Utf8.encode text))) rfl
  rw [replaceText, List.isEmpty_eq_false_iff.mpr hne, if_neg Bool.false_ne_true, hwrite]
  simp only
  rw [move, hafter.walk_item hdraftNull (name_draftOf path) (isName_draftName path) hitem
    (Or.inl rfl)]
  simp only
  cases hdestination : (fs.put (directory ++ [draftName path])
      (.file (Utf8.encode text))).destination (draftOf path) path with
  | error error =>
    simp only
    rw [hafter.giveUp_eq hdraftNull (name_draftOf path) (isName_draftName path) hitem]
  | ok place =>
    simp only [hitem]
    rfl

/-- Where no directory stands under the last name, the text is stored. -/
theorem Holds.replaceText_eq (hname : IsName path.name)
    (htarget : fs.item? (directory ++ [path.name]) ≠ some .directory) (text : Text) :
    fs.replaceText path text = (.ok (),
      fs.replaced (directory ++ [draftName path]) (directory ++ [path.name])
        (Utf8.encode text)) := by
  have hafter := h.of_blocks (put_agrees hfree.blocks (.file (Utf8.encode text))) rfl
  have hsame := item?_put_of_ne fs directory (draftName_ne path).symm (.file (Utf8.encode text))
  rw [h.replaceText_eq_move hne hnull hfree,
    hafter.destination_eq hnull rfl hname (hsame ▸ htarget)]

/-- Where nothing can be put under the last name, the draft is withdrawn. -/
theorem Holds.exists_replaceText_withdrawn
    (hnot : ¬(IsName path.name ∧ fs.item? (directory ++ [path.name]) ≠ some .directory))
    (text : Text) : ∃ error, fs.replaceText path text = (.error error,
      (fs.put (directory ++ [draftName path]) (.file (Utf8.encode text))).remove
        (directory ++ [draftName path])) := by
  have hafter := h.of_blocks (put_agrees hfree.blocks (.file (Utf8.encode text))) rfl
  have hsame := item?_put_of_ne fs directory (draftName_ne path).symm (.file (Utf8.encode text))
  obtain ⟨error, herror⟩ :=
    hafter.exists_destination_error hnull rfl hne (hsame ▸ hnot) (draftOf path)
  exact ⟨error, by rw [h.replaceText_eq_move hne hnull hfree, herror]⟩

/-- Where a draft can be written it is moved or withdrawn. -/
theorem Holds.replacement (text : Text) :
    Replacement fs path (Utf8.encode text) (fs.replaceText path text) := by
  by_cases hgood : IsName path.name ∧ fs.item? (directory ++ [path.name]) ≠ some .directory
  · rw [h.replaceText_eq hne hnull hfree hgood.1 hgood.2]
    exact .done h hnull hgood.1 hfree hgood.2
  · obtain ⟨error, herror⟩ := h.exists_replaceText_withdrawn hne hnull hfree hgood text
    rw [herror]
    exact .withdrawn error h hfree hne hnull

end Drafted

/-- A draft cannot be written where a directory stands. -/
theorem Holds.write_directory (h : Holds fs directory path) (hne : path.name ≠ [])
    (hnull : path.hasNull = false)
    (hdirectory : fs.item? (directory ++ [draftName path]) = some .directory) (octets : Octets) :
    fs.write (draftOf path) octets = .error (.refused .isDirectory (draftOf path)) := by
  have hdraft : Holds fs directory (draftOf path) := h.withName (draftName path)
  have hdraftNull : (draftOf path).hasNull = false := by rw [hasNull_draftOf hne, hnull]
  rw [write, hdraft.walk_item hdraftNull (name_draftOf path) (isName_draftName path)
    hdirectory (Or.inr (by simp))]
  simp [hdirectory]

/-- Where a directory stands in the place of the draft, nothing is written. -/
theorem Holds.exists_replaceText_directory (h : Holds fs directory path) (hne : path.name ≠ [])
    (hnull : path.hasNull = false)
    (hdirectory : fs.item? (directory ++ [draftName path]) = some .directory) (text : Text) :
    ∃ error, fs.replaceText path text = (.error error, fs) := by
  have hdraft : Holds fs directory (draftOf path) := h.withName (draftName path)
  have hdraftNull : (draftOf path).hasNull = false := by rw [hasNull_draftOf hne, hnull]
  have hwrite := h.write_directory hne hnull hdirectory (Utf8.encode text)
  obtain ⟨second, hgiveUp⟩ := hdraft.exists_giveUp_directory hdraftNull (name_draftOf path)
    (isName_draftName path) hdirectory (.refused .isDirectory (draftOf path))
  refine ⟨second, ?_⟩
  rw [replaceText, List.isEmpty_eq_false_iff.mpr hne, if_neg Bool.false_ne_true, hwrite]
  exact hgiveUp

/-- Where no walk to the draft arrives, nothing is written. -/
theorem exists_replaceText_of_not_arrives (hne : path.name ≠ [])
    (hnot : ∀ last, ¬Arrives [draftName path] (fs.walk last (draftOf path))) (text : Text) :
    ∃ error, fs.replaceText path text = (.error error, fs) := by
  have hwrite : ∃ error, fs.write (draftOf path) (Utf8.encode text) = .error error := by
    have hwritten := hnot .written
    rw [write]
    split
    · rename_i place hwalk
      exact absurd (Or.inr ⟨List.cons_ne_nil _ _, place, hwalk⟩) hwritten
    · exact ⟨_, rfl⟩
    · rename_i place hwalk
      exact absurd (Or.inl ⟨place, hwalk⟩) hwritten
  have hleads : fs.leads (draftOf path) = false := by
    rw [leads, target?]
    split
    · rename_i place hwalk
      exact absurd (Or.inl ⟨place, hwalk⟩) (hnot .followed)
    · rfl
  obtain ⟨error, herror⟩ := hwrite
  refine ⟨error, ?_⟩
  rw [replaceText, List.isEmpty_eq_false_iff.mpr hne, if_neg Bool.false_ne_true, herror]
  simp only
  rw [giveUp, hleads, if_neg Bool.false_ne_true]

/-- The draft of a file is no link. -/
def DraftIsNoLink (fs : FileSystem) (path : Path) : Prop :=
  ∀ place, fs.walk .kept (draftOf path) = .ok place → ∀ target, fs.item? place ≠ some (.link target)

/-- A path without a last name has no draft and is refused. -/
theorem replaceText_unnamed (h : path.name = []) (text : Text) :
    fs.replaceText path text = (.error (.emptyName path), fs) := by
  rw [replaceText, h, List.isEmpty_nil, if_pos rfl]

/-- A walk that arrives at the draft has a directory before it, which holds the file as well. -/
theorem exists_holds_of_arrives (hne : path.name ≠ []) {last : LastName}
    (harrives : Arrives [draftName path] (fs.walk last (draftOf path))) :
    path.hasNull = false ∧ ∃ directory, Holds fs directory path := by
  constructor
  · rw [← hasNull_draftOf hne, ← Bool.not_eq_true]
    intro hnull
    rw [walk, if_pos hnull] at harrives
    simp [Arrives] at harrives
  · obtain ⟨directory, hdraft⟩ :=
      exists_holds_of_walk (name_draftOf path) (isName_draftName path).ne_nil harrives
    have hback := hdraft.withName path.name
    rw [draftOf, withName_withName, withName_name hne] at hback
    exact ⟨directory, hback⟩

/-- What stands in the place of the draft is found by a walk. -/
theorem Holds.not_link_draft (h : Holds fs directory path) (hne : path.name ≠ [])
    (hnull : path.hasNull = false) (hlink : DraftIsNoLink fs path) (target : Text) :
    fs.item? (directory ++ [draftName path]) ≠ some (.link target) := by
  intro hitem
  have hdraft : Holds fs directory (draftOf path) := h.withName (draftName path)
  have hdraftNull : (draftOf path).hasNull = false := by rw [hasNull_draftOf hne, hnull]
  exact hlink _ (hdraft.walk_item hdraftNull (name_draftOf path) (isName_draftName path) hitem
    (Or.inl rfl)) target hitem

/-- The directory of a path holds the draft of its file as well. -/
theorem Holds.arrives_draft (h : Holds fs directory path) (hne : path.name ≠ [])
    (hnull : path.hasNull = false) :
    Arrives [draftName path] (fs.walk .kept (draftOf path)) := by
  have hdraft : Holds fs directory (draftOf path) := h.withName (draftName path)
  have hdraftNull : (draftOf path).hasNull = false := by rw [hasNull_draftOf hne, hnull]
  cases hitem : fs.item? (directory ++ [draftName path]) with
  | none =>
    exact .inr ⟨List.cons_ne_nil _ _, _, hdraft.walk_absent hdraftNull (name_draftOf path)
      (isName_draftName path) hitem .kept⟩
  | some item =>
    exact .inl ⟨_, hdraft.walk_item hdraftNull (name_draftOf path) (isName_draftName path) hitem
      (Or.inl rfl)⟩

/-- A replacement is refused, withdrawn or done. -/
theorem replacement_replaceText (hlink : DraftIsNoLink fs path) (text : Text) :
    Replacement fs path (Utf8.encode text) (fs.replaceText path text) := by
  by_cases hne : path.name = []
  · rw [replaceText_unnamed hne]
    exact .refused _ fun _ _ hnamed => absurd hne hnamed
  · by_cases harrives : ∃ last, Arrives [draftName path] (fs.walk last (draftOf path))
    · obtain ⟨last, harrives⟩ := harrives
      obtain ⟨hnull, directory, h⟩ := exists_holds_of_arrives hne harrives
      by_cases hdirectory : fs.item? (directory ++ [draftName path]) = some .directory
      · obtain ⟨error, herror⟩ := h.exists_replaceText_directory hne hnull hdirectory text
        rw [herror]
        exact .refused error fun other hother _ _ => h.unique hother ▸ hdirectory
      · exact h.replacement hne hnull ⟨hdirectory, h.not_link_draft hne hnull hlink⟩ text
    · obtain ⟨error, herror⟩ :=
        exists_replaceText_of_not_arrives hne (fun last h => harrives ⟨last, h⟩) text
      rw [herror]
      exact .refused error fun other hother _ hnull =>
        absurd ⟨_, hother.arrives_draft hne hnull⟩ harrives

/-! ### After a replacement -/

/-- What stands where after a replacement. -/
theorem item?_replaced (fs : FileSystem) (directory : Place) (draft name : Text)
    (octets : Octets) (other : Place) :
    (fs.replaced (directory ++ [draft]) (directory ++ [name]) octets).item? other =
      if other = directory ++ [name] then some (.file octets)
      else if other = directory ++ [draft] then none else fs.item? other := by
  have hne (name : Text) : directory ++ [name] ≠ [] :=
    List.append_ne_nil_of_right_ne_nil _ (List.cons_ne_nil _ _)
  have hroot : fs.item? [] = some .directory := rfl
  rw [replaced, item?_put, item?_remove, item?_put]
  by_cases hother : other = []
  · simp [hother, hroot, (hne _).symm]
  · by_cases htarget : other = directory ++ [name]
    · simp [htarget, hne]
    · by_cases hdraft : other = directory ++ [draft]
      · simp [hdraft, hne]
      · simp [hother, htarget, hdraft]

/-- Nothing but the draft and the item differs. -/
theorem replaced_agrees {draft : Text} (hdraft : fs.Blocks (directory ++ [draft]))
    (htarget : fs.Blocks (directory ++ [name])) (octets : Octets) (other : Place) :
    (fs.replaced (directory ++ [draft]) (directory ++ [name]) octets).item? other =
      fs.item? other ∨ fs.Blocks other := by
  rw [item?_replaced]
  split
  · rename_i hother
    rw [hother]
    exact Or.inr htarget
  · split
    · rename_i hother
      rw [hother]
      exact Or.inr hdraft
    · exact Or.inl rfl

/-- What can be read is a file or leads to one. -/
theorem Holds.blocks_of_readOctets (h : Holds fs directory path) (hname : IsName path.name)
    (hread : fs.readOctets path = .ok octets) : fs.Blocks (directory ++ [path.name]) := by
  rw [readOctets] at hread
  cases hwalk : fs.walk .followed path with
  | error fault => simp [hwalk] at hread
  | ok goal =>
    have hfile : ∃ content, fs.item? goal = some (.file content) := by
      simp only [hwalk] at hread
      split at hread
      · exact ⟨_, ‹_›⟩
      · cases hread
      · cases hread
    obtain ⟨content, hfile⟩ := hfile
    -- The last name leads from the directory to the file, by itself or as a link.
    obtain ⟨hnull, count, -, hleads⟩ := walk_followed_iff.mp hwalk
    rw [parts_eq rfl hname.ne_nil] at hleads
    obtain ⟨⟨links, -, hdirectory⟩, hdir⟩ := h
    obtain ⟨inner, outer, mid, -, hfront, hback⟩ := hleads.exists_of_append
    obtain ⟨-, rfl⟩ := hdirectory.unique hfront
    cases hback with
    | self _ hself => simp [hname.1] at hself
    | up _ _ hup => exact absurd hup hname.2
    | enter _ _ hitem hlink hrest =>
      cases hrest
      constructor
      · simp [hfile]
      · intro target htarget
        rw [htarget] at hitem
        exact absurd (Option.some.inj hitem).symm (hlink target)
    | follow _ _ hitem htarget hrest =>
      cases hrest
      constructor
      · simp [hitem]
      · intro target hother links goal hgoal
        rw [hitem] at hother
        cases hother
        rw [List.dropLast_concat] at hgoal
        rw [(hgoal.unique htarget).2, hfile]
        simp

/-- What was stored is read. -/
theorem Holds.readOctets_replaced (h : Holds fs directory path) (hnull : path.hasNull = false)
    (hname : IsName path.name) {draft : Text} (hdraft : fs.Blocks (directory ++ [draft]))
    (htarget : fs.Blocks (directory ++ [path.name])) (octets : Octets) :
    (fs.replaced (directory ++ [draft]) (directory ++ [path.name]) octets).readOctets path =
      .ok octets := by
  have hafter := h.of_blocks (replaced_agrees hdraft htarget octets) rfl
  have hitem := item?_replaced fs directory draft path.name octets (directory ++ [path.name])
  rw [if_pos rfl] at hitem
  rw [readOctets, hafter.walk_item hnull rfl hname hitem (Or.inr (by simp))]
  simp only [hitem]

/-! ### Texts that are stored -/

theorem exists_of_readText {text : Text} (h : fs.readText path = .ok text) :
    ∃ octets, fs.readOctets path = .ok octets ∧ '\r' ∉ text := by
  rw [readText] at h
  split at h
  · cases h
  · rename_i octets hoctets
    split at h
    · cases h
    · rename_i decoded hdecoded
      cases h
      exact ⟨octets, hoctets, Utf8.not_mem_normalizeLineEnds decoded⟩

/-- A stored text is read as it is, if it has no carriage returns and does not start like a byte
    order mark. -/
theorem readText_of_readOctets {text : Text}
    (h : fs.readOctets path = .ok (Utf8.encode text))
    (hmark : text.head? ≠ some '\uFEFF') (hreturn : '\r' ∉ text) :
    fs.readText path = .ok text := by
  rw [readText, h]
  simp only [Utf8.decodeMarked_encode hmark, Utf8.normalizeLineEnds_of_not_mem hreturn]

end WorkflowLint.FileSystem
