/-
  WorkflowLint/Proofs/FileSystem/Whole.lean
  =========================================
  **A file is replaced as a whole or not at all.**

  Writing the draft, moving it and removing it again may each be refused, and whether
  they are depends on what stands at two places only: under the last name of the path
  and beside it, where the draft goes.  If the replacement is done, these two places
  have changed.  If it is refused, then the place of the draft may have, and no file is
  left there (`replaceText_whole`).

  Code points that are no text cannot be written: the target stays as it was, but the draft
  is not removed (`replaceCodes_whole`).
-/
import WorkflowLint.Proofs.FileSystem.Replace

namespace WorkflowLint.FileSystem

variable {fs fs' : FileSystem} {path : Path} {directory place : Place}

/-! ### The two places of a replacement -/

/-- The place that the last name of a path stands for, whether or not anything stands there. -/
def NamesPlace (fs : FileSystem) (path : Path) (place : Place) : Prop :=
  fs.walk .kept path = .ok place ∨ fs.walk .kept path = .error (.absent place)

/-- The place of the draft of a file.  A path without a last name has no draft. -/
def IsDraftPlace (fs : FileSystem) (path : Path) (place : Place) : Prop :=
  path.name ≠ [] ∧ fs.NamesPlace (draftOf path) place

theorem NamesPlace.arrives (h : fs.NamesPlace path place) {name : Text} :
    Arrives [name] (fs.walk .kept path) := by
  rcases h with hfound | habsent
  · exact .inl ⟨place, hfound⟩
  · exact .inr ⟨List.cons_ne_nil _ _, place, habsent⟩

theorem Holds.namesPlace_iff (h : Holds fs directory path) (hnull : path.hasNull = false)
    (hname : IsName path.name) :
    fs.NamesPlace path place ↔ place = directory ++ [path.name] := by
  rw [NamesPlace]
  cases hitem : fs.item? (directory ++ [path.name]) with
  | none => simp [h.walk_absent hnull rfl hname hitem, eq_comm]
  | some item => simp [h.walk_item hnull rfl hname hitem (Or.inl rfl), eq_comm]

theorem Holds.isDraftPlace_iff (h : Holds fs directory path) (hne : path.name ≠ [])
    (hnull : path.hasNull = false) :
    fs.IsDraftPlace path place ↔ place = directory ++ [draftName path] := by
  have hdraft : Holds fs directory (draftOf path) := h.withName (draftName path)
  have hdraftNull : (draftOf path).hasNull = false := by rw [hasNull_draftOf hne, hnull]
  have hname : IsName (draftOf path).name := name_draftOf path ▸ isName_draftName path
  rw [IsDraftPlace, hdraft.namesPlace_iff hdraftNull hname, name_draftOf]
  exact and_iff_right hne

/-- The place of a draft is in the directory of its file. -/
theorem IsDraftPlace.exists_holds (h : fs.IsDraftPlace path place) :
    path.hasNull = false ∧ ∃ directory, Holds fs directory path ∧
      place = directory ++ [draftName path] := by
  obtain ⟨hnull, directory, hholds⟩ := exists_holds_of_arrives h.1 h.2.arrives
  exact ⟨hnull, directory, hholds, (hholds.isDraftPlace_iff h.1 hnull).mp h⟩

/-! ### What a replacement leaves behind -/

/-- A file can be put under the last name of a path: the name is one, the directory of the path
    is there, and in it no directory has the name of the file or of its draft. -/
structure Replaceable (fs : FileSystem) (path : Path) (directory : Place) : Prop where
  holds : Holds fs directory path
  null : path.hasNull = false
  name : IsName path.name
  target : fs.item? (directory ++ [path.name]) ≠ some .directory
  draft : fs.item? (directory ++ [draftName path]) ≠ some .directory

theorem Replaceable.replaceText_eq (h : fs.Replaceable path directory)
    (hlink : fs.DraftIsNoLink path) (text : Text) : (fs.replaceText path text).1 = .ok () := by
  have hfree : Writable fs (directory ++ [draftName path]) :=
    ⟨h.draft, h.holds.not_link_draft h.name.ne_nil h.null hlink⟩
  rw [h.holds.replaceText_eq h.name.ne_nil h.null hfree h.name h.target]

/-- A replacement is done exactly if the directory of the path is there and neither the file nor
    its draft would take the name of a directory.  If it is done, the text stands under the last
    name of the path, nothing stands in the place of the draft, and all else is as before.  If it
    is not, all is as before, but in the place of the draft there is nothing, unless a directory
    was there and still is. -/
theorem replaceText_whole (hlink : fs.DraftIsNoLink path) (text : Text)
    {result : Except FileError Unit} (hreplaced : fs.replaceText path text = (result, fs')) :
    fs'.current = fs.current ∧
    (result = .ok () ↔ ∃ directory, fs.Replaceable path directory) ∧
    (result = .ok () → ∃ target draft, fs.NamesPlace path target ∧ fs.IsDraftPlace path draft ∧
      fs'.item? target = some (.file (Utf8.encode text)) ∧ fs'.item? draft = none ∧
      ∀ place, place ≠ target → place ≠ draft → fs'.item? place = fs.item? place) ∧
    ∀ error, result = .error error →
      (∀ place, ¬fs.IsDraftPlace path place → fs'.item? place = fs.item? place) ∧
      ∀ place, fs.IsDraftPlace path place → fs'.item? place = none ∨
        fs.item? place = some .directory ∧ fs'.item? place = some .directory := by
  have hdone : (∃ directory, fs.Replaceable path directory) → result = .ok () := by
    rintro ⟨directory, h⟩
    rw [← h.replaceText_eq hlink text, hreplaced]
  have hend := replacement_replaceText hlink text
  rw [hreplaced] at hend
  cases hend with
  | @done directory h hnull hname hdraft htarget =>
    refine ⟨rfl, iff_of_true rfl ⟨directory, h, hnull, hname, htarget, hdraft.not_directory⟩,
      fun _ => ?_, fun error herror => nomatch herror⟩
    have hitem := item?_replaced fs directory (draftName path) path.name (Utf8.encode text)
    have hne : directory ++ [draftName path] ≠ directory ++ [path.name] := by
      simpa using draftName_ne path
    refine ⟨directory ++ [path.name], directory ++ [draftName path],
      (h.namesPlace_iff hnull hname).mpr rfl, (h.isDraftPlace_iff hname.ne_nil hnull).mpr rfl,
      ?_, ?_, fun place htarget hdraft => ?_⟩
    · rw [hitem, if_pos rfl]
    · rw [hitem, if_neg hne, if_pos rfl]
    · rw [hitem, if_neg htarget, if_neg hdraft]
  | @withdrawn directory error h hdraft hne hnull =>
    refine ⟨rfl, ⟨fun hok => (nomatch hok), hdone⟩, fun hok => (nomatch hok), fun _ _ => ?_⟩
    have hroot : directory ++ [draftName path] ≠ [] :=
      List.append_ne_nil_of_right_ne_nil _ (List.cons_ne_nil _ _)
    refine ⟨fun place hplace => ?_, fun place hplace => .inl ?_⟩
    · rw [h.isDraftPlace_iff hne hnull] at hplace
      rw [item?_remove, item?_put, if_neg hplace, if_neg hplace]
      by_cases hempty : place = []
      · simp [hempty, item?]
      · simp [hempty]
    · rw [(h.isDraftPlace_iff hne hnull).mp hplace, item?_remove, if_neg hroot, if_pos rfl]
  | refused error hdraft =>
    refine ⟨rfl, ⟨fun hok => (nomatch hok), hdone⟩, fun hok => (nomatch hok), fun _ _ => ?_⟩
    refine ⟨fun _ _ => rfl, fun place hplace => .inr ?_⟩
    obtain ⟨hnull, directory, h, rfl⟩ := hplace.exists_holds
    exact ⟨hdraft directory h hplace.1 hnull, hdraft directory h hplace.1 hnull⟩

/-! ### Code points -/

theorem exists_giveUp (fs : FileSystem) (draft : Path) (error : FileError) :
    ∃ second, (fs.giveUp draft error).1 = .error second := by
  rw [giveUp]
  split
  · split
    · exact ⟨_, rfl⟩
    · exact ⟨_, rfl⟩
  · exact ⟨_, rfl⟩

/-- What is written to a draft stands in its place, and nothing else changes. -/
theorem exists_write_draft (hlink : fs.DraftIsNoLink path) (hne : path.name ≠ [])
    {octets : Octets} {drafted : FileSystem}
    (hwrite : fs.write (draftOf path) octets = .ok drafted) :
    ∃ place, fs.IsDraftPlace path place ∧ drafted = fs.put place (.file octets) := by
  have harrives : Arrives [draftName path] (fs.walk .written (draftOf path)) := by
    rw [write] at hwrite
    split at hwrite
    · rename_i place hwalk
      exact Or.inr ⟨List.cons_ne_nil _ _, place, hwalk⟩
    · cases hwrite
    · rename_i place hwalk
      exact Or.inl ⟨place, hwalk⟩
  obtain ⟨hnull, directory, h⟩ := exists_holds_of_arrives hne harrives
  have hfree : Writable fs (directory ++ [draftName path]) := by
    refine ⟨fun hdirectory => ?_, h.not_link_draft hne hnull hlink⟩
    rw [h.write_directory hne hnull hdirectory] at hwrite
    cases hwrite
  have hdraft : Holds fs directory (draftOf path) := h.withName (draftName path)
  have hdraftNull : (draftOf path).hasNull = false := by rw [hasNull_draftOf hne, hnull]
  rw [hdraft.write_eq hdraftNull (name_draftOf path) (isName_draftName path) hfree] at hwrite
  cases hwrite
  exact ⟨_, (h.isDraftPlace_iff hne hnull).mpr rfl, rfl⟩

/-- Code points that are no text are refused, and at most the draft changes. -/
theorem replaceCodes_of_not_text (hlink : fs.DraftIsNoLink path) {codes : CodePoints}
    {fault : EncodeError} (hfault : codes.toText = .error fault) :
    ∃ error fs', fs.replaceCodes path codes = (.error error, fs') ∧ fs'.current = fs.current ∧
      ∀ place, ¬fs.IsDraftPlace path place → fs'.item? place = fs.item? place := by
  rw [replaceCodes, hfault]
  simp only
  cases hname : path.name with
  | nil => exact ⟨_, _, rfl, rfl, fun _ _ => rfl⟩
  | cons c name =>
    have hne : path.name ≠ [] := hname ▸ List.cons_ne_nil c name
    rw [List.isEmpty_cons, if_neg Bool.false_ne_true]
    cases hwrite : fs.write (draftOf path) [] with
    | error error =>
      -- a draft that cannot be written is given up as that of an empty text
      have hempty : fs.replaceText path [] = fs.giveUp (draftOf path) error := by
        have hnone : Utf8.encode [] = [] := rfl
        rw [replaceText, hname, List.isEmpty_cons, if_neg Bool.false_ne_true, hnone, hwrite]
      obtain ⟨second, hsecond⟩ := exists_giveUp fs (draftOf path) error
      have hgiveUp : fs.giveUp (draftOf path) error =
          (.error second, (fs.giveUp (draftOf path) error).2) := by
        rw [← hsecond]
      obtain ⟨hcurrent, -, -, hkept⟩ :=
        replaceText_whole hlink [] (hempty.trans hgiveUp)
      exact ⟨second, _, hgiveUp, hcurrent, (hkept second rfl).1⟩
    | ok drafted =>
      obtain ⟨place, hplace, rfl⟩ := exists_write_draft hlink hne hwrite
      refine ⟨_, _, rfl, rfl, fun other hother => ?_⟩
      have hne : other ≠ place := by
        rintro rfl
        exact hother hplace
      rw [item?_put, if_neg hne]
      by_cases hroot : other = []
      · rw [if_pos hroot, hroot]
        rfl
      · rw [if_neg hroot]

/-- A replacement by code points is done exactly if they are a text that replaces the file.  If
    it is done, the text stands under the last name of the path, nothing stands in the place of
    the draft, and all else is as before.  If it is not, all is as before, but in the place of
    the draft there is nothing, unless a directory was there and still is, or the code points
    are no text. -/
theorem replaceCodes_whole (hlink : fs.DraftIsNoLink path) (codes : CodePoints)
    {result : Except FileError Unit} (hreplaced : fs.replaceCodes path codes = (result, fs')) :
    fs'.current = fs.current ∧
    (result = .ok () ↔
      (∃ text, codes = .ofText text) ∧ ∃ directory, fs.Replaceable path directory) ∧
    (result = .ok () → ∃ text target draft, codes = .ofText text ∧ fs.NamesPlace path target ∧
      fs.IsDraftPlace path draft ∧ fs'.item? target = some (.file (Utf8.encode text)) ∧
      fs'.item? draft = none ∧
      ∀ place, place ≠ target → place ≠ draft → fs'.item? place = fs.item? place) ∧
    ∀ error, result = .error error →
      (∀ place, ¬fs.IsDraftPlace path place → fs'.item? place = fs.item? place) ∧
      ((∃ text, codes = .ofText text) → ∀ place, fs.IsDraftPlace path place →
        fs'.item? place = none ∨
          fs.item? place = some .directory ∧ fs'.item? place = some .directory) := by
  cases htext : codes.toText with
  | ok text =>
    have hcodes := CodePoints.toText_eq_ok_iff.mp htext
    rw [replaceCodes, htext] at hreplaced
    obtain ⟨hcurrent, hiff, hdone, hkept⟩ := replaceText_whole hlink text hreplaced
    refine ⟨hcurrent, by rw [hiff, and_iff_right ⟨text, hcodes⟩], fun hok => ?_,
      fun error herror => ⟨(hkept error herror).1, fun _ => (hkept error herror).2⟩⟩
    obtain ⟨target, draft, hnames, hdraft, hitem, hnone, hother⟩ := hdone hok
    exact ⟨text, target, draft, hcodes, hnames, hdraft, hitem, hnone, hother⟩
  | error fault =>
    have hnot : ¬∃ text, codes = .ofText text := by
      rintro ⟨text, hcodes⟩
      rw [CodePoints.toText_eq_ok_iff.mpr hcodes] at htext
      cases htext
    obtain ⟨error, after, hrefused, hcurrent, hkept⟩ := replaceCodes_of_not_text hlink htext
    rw [hrefused] at hreplaced
    cases hreplaced
    exact ⟨hcurrent, iff_of_false nofun fun hboth => hnot hboth.1, nofun,
      fun _ _ => ⟨hkept, fun hcodes => absurd hcodes hnot⟩⟩

/-- A file left over in the place of the draft is gone after a directory could not be replaced. -/
theorem replaceCodes_whole_directory :
    let fs : FileSystem :=
      ⟨[(["w.yml".toList], .directory), (["w.yml.pipelint.tmp".toList], .file [0x78])], []⟩
    let path : Path := ⟨.here, ["w.yml"]⟩
    let codes := CodePoints.ofText "on: push"
    ∃ error fs', fs.DraftIsNoLink path ∧ fs.replaceCodes path codes = (.error error, fs') ∧
      fs'.item? ["w.yml"] = some .directory ∧ fs'.item? ["w.yml.pipelint.tmp"] = none := by
  intro fs path codes
  have hwalk : fs.walk .kept (draftOf path) = .ok ["w.yml.pipelint.tmp"] := rfl
  have hlink : fs.DraftIsNoLink path := by
    rintro place hplace target hitem
    rw [hwalk] at hplace
    cases hplace
    cases hitem
  have hreplaced : fs.replaceCodes path codes =
      (.error (.moveRefused .isDirectory (draftOf path) path),
        (fs.replaceCodes path codes).2) := rfl
  obtain ⟨-, -, -, hfailed⟩ := replaceCodes_whole hlink codes hreplaced
  obtain ⟨hkept, hdraft⟩ := hfailed _ rfl
  refine ⟨_, _, hlink, hreplaced, ?_, ?_⟩
  · refine hkept ["w.yml"] ?_
    rintro ⟨-, hfound | habsent⟩
    · rw [hwalk] at hfound
      exact absurd hfound (by decide)
    · rw [hwalk] at habsent
      cases habsent
  · have hplace : fs.IsDraftPlace path ["w.yml.pipelint.tmp"] := ⟨by decide, .inl hwalk⟩
    rcases hdraft ⟨"on: push", rfl⟩ _ hplace with hnone | ⟨hdirectory, -⟩
    · exact hnone
    · cases hdirectory

/-- Half of a surrogate pair is no text: nothing is put in place, and an empty draft is left. -/
theorem replaceCodes_surrogate :
    let fs : FileSystem := ⟨[], []⟩
    let path : Path := ⟨.here, ["a.yml"]⟩
    fs.DraftIsNoLink path ∧
      fs.replaceCodes path [0xDC80] = (.error (.notEncodable ⟨0, 1, 0xDC80⟩),
        ⟨[(["a.yml.pipelint.tmp"], .file [])], []⟩) := by
  intro fs path
  refine ⟨fun place hplace => ?_, by decide +kernel⟩
  have hwalk : fs.walk .kept (draftOf path) = .error (.absent ["a.yml.pipelint.tmp"]) := rfl
  rw [hwalk] at hplace
  cases hplace

end WorkflowLint.FileSystem
