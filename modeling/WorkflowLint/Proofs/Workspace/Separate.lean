/-
  WorkflowLint/Proofs/Workspace/Separate.lean
  ===========================================
  **Files are linted one by one.**

  In a run over different files, each file is linted as if it were the only one
  (`lintAll_separate`).  The invariant compares the files with how they were at first: the seats
  of files that have been fixed hold what they hold after their file alone is linted, and all
  else is as it was (`Settled`).  So the next file is still where it was, with the same text.
-/
import WorkflowLint.Proofs.Console.Telling
import WorkflowLint.Proofs.FileSystem.Seat
import Mathlib.Data.List.Pairwise

namespace WorkflowLint

open FileSystem (Found Changed seat stored)

variable {workspace : Workspace} {fs fs' : FileSystem} {fix : Bool} {path : Path}
  {directory goal : Place} {content : Octets}

namespace Workspace

/-! ### One file in two states -/

section Congr

variable (hgrounded : fs.Grounded) (h : Found fs path directory goal content)

include h

theorem readText_found : fs.readText path =
    match Utf8.decodeMarked content with
    | .error error => .error (.notUtf8 path error)
    | .ok text => .ok (Utf8.normalizeLineEnds text) := by
  have hoctets := h.readOctets_eq
  cases hdecoded : Utf8.decodeMarked content with
  | error fault => simp [FileSystem.readText, hoctets, hdecoded]
  | ok text => simp [FileSystem.readText, hoctets, hdecoded]

include hgrounded

theorem displayPath_found (workspace : Workspace) : workspace.displayPath fs path =
    match FileSystem.relative? workspace.root goal with
    | some names => .ok (Path.mk .here names).toText
    | none => .ok path.toText := by
  have hresolve := FileSystem.resolve_of_walk hgrounded h.walk
  cases hnames : FileSystem.relative? workspace.root goal with
  | none => simp [displayPath, hresolve, hnames]
  | some names => simp [displayPath, hresolve, hnames]

variable (hgrounded' : fs'.Grounded) (h' : Found fs' path directory goal content)

include hgrounded' h'

theorem lintStored_congr : workspace.lintStored fs' path = workspace.lintStored fs path := by
  rw [lintStored, lintStored, displayPath_found hgrounded h, displayPath_found hgrounded' h',
    readText_found h, readText_found h']

/-- Linting a file gives the same result whatever stands elsewhere, and either leaves all
    files or stores the same text. -/
theorem lintFile_congr (workspace : Workspace) (hdrafts : fs.NoDrafts) (hdrafts' : fs'.NoDrafts)
    (fix : Bool) :
    ∃ result,
      workspace.lintFile fs path fix = (result, fs) ∧
        workspace.lintFile fs' path fix = (result, fs') ∨
      ∃ octets, fix = true ∧
        workspace.lintFile fs path fix = (result, fs.stored directory path octets) ∧
        workspace.lintFile fs' path fix = (result, fs'.stored directory path octets) := by
  rw [lintFile, lintFile, lintStored_congr hgrounded h hgrounded' h']
  cases workspace.lintStored fs path with
  | error error => exact ⟨_, Or.inl ⟨rfl, rfl⟩⟩
  | ok stored =>
    obtain ⟨text, report⟩ := stored
    simp only
    split
    · rename_i hwrite
      have hfix : fix = true := by
        simp only [Bool.and_eq_true] at hwrite
        exact hwrite.1.1
      refine ⟨workspace.lintText (Fix.apply text report.diagnostics) report.file true,
        Or.inr ⟨Utf8.encode (Fix.apply text report.diagnostics), hfix, ?_, ?_⟩⟩
      · rw [storeFixed, h.replaceText_eq hdrafts]
      · rw [storeFixed, h'.replaceText_eq hdrafts']
    · exact ⟨_, Or.inl ⟨rfl, rfl⟩⟩

end Congr

section Alone

variable (hgrounded : fs.Grounded) (hdrafts : fs.NoDrafts)
  (h : Found fs path directory goal content)

include hgrounded hdrafts h

/-- Linting a file alone leaves all files, or stores a text at its seat. -/
theorem lintFile_cases (workspace : Workspace) (fix : Bool) :
    (workspace.lintFile fs path fix).2 = fs ∨
      ∃ octets, fix = true ∧
        (workspace.lintFile fs path fix).2 = fs.stored directory path octets := by
  obtain ⟨result, ⟨heq, -⟩ | ⟨octets, hfix, heq, -⟩⟩ :=
    lintFile_congr hgrounded h hgrounded h workspace hdrafts hdrafts fix
  · exact Or.inl (by rw [heq])
  · exact Or.inr ⟨octets, hfix, by rw [heq]⟩

theorem eq_seat_of_item?_ne {place : Place}
    (hne : (workspace.lintFile fs path fix).2.item? place ≠ fs.item? place) :
    place = seat directory path := by
  rcases lintFile_cases hgrounded hdrafts h workspace fix with heq | ⟨octets, -, heq⟩
  · exact absurd (by rw [heq]) hne
  · rw [heq, hdrafts.item?_stored] at hne
    by_contra hplace
    exact hne (if_neg hplace)

end Alone

/-! ### What becomes of a file -/

/-- A text that can be read, and can be read after it was fixed. -/
def Parses (workspace : Workspace) (text : Text) : Prop :=
  (∃ document, Document.load text = .ok document) ∧
    ∀ path fixed, workspace.fixText text path = .ok fixed →
      ∃ document, Document.load fixed = .ok document

/-- It is enough that the text can be read and is not indented by tabs. -/
theorem Parses.of_tabless {text : Text} (hload : ∃ document, Document.load text = .ok document)
    (hlines : Fix.Tabless (Text.lines text)) : workspace.Parses text := by
  refine ⟨hload, fun path fixed hfixed => ?_⟩
  unfold fixText at hfixed
  split at hfixed
  · cases hfixed
  · rename_i report hlint
    cases hfixed
    exact exists_load_apply hlint hlines

/-- What becomes of a file that is linted alone: its report, or a failure if it cannot be
    read.  Files change only if the report is about a fixed file. -/
inductive Becomes (workspace : Workspace) (fs : FileSystem) (fix : Bool) (path : Path) :
    FileOutcome → Prop where
  | linted {report : Report} (hreport : (workspace.lintFile fs path fix).1 = .ok report)
      (hkept : report.fixed = false → (workspace.lintFile fs path fix).2 = fs) :
      Becomes workspace fs fix path (.linted report)
  | failed {error : FileError} {display : Text}
      (herror : (workspace.lintFile fs path fix).1 = .error (.file error))
      (hfailure : error.isFailure = true)
      (hdisplay : workspace.displayPath fs path = .ok display)
      (hkept : (workspace.lintFile fs path fix).2 = fs) :
      Becomes workspace fs fix path (.failed ⟨display, error.message⟩)

/-- Something becomes of a file whose text can be read, if it is text at all. -/
theorem exists_becomes {patterns : List CodePoints}
    (hpatterns : workspace.config.ignored = .patterns (patterns.map .glob))
    (hgrounded : fs.Grounded) (hdrafts : fs.NoDrafts) (h : Found fs path directory goal content)
    (hparses : ∀ text, fs.readText path = .ok text → workspace.Parses text) (fix : Bool) :
    ∃ outcome, Becomes workspace fs fix path outcome := by
  have hlints {text : Text} (hload : ∃ document, Document.load text = .ok document)
      (display : Text) (fixed : Bool) :
      ∃ report, workspace.lintText text display fixed = .ok report := by
    obtain ⟨document, hload⟩ := hload
    exact ⟨_, lintText_eq hpatterns hload fixed⟩
  obtain ⟨display, hdisplay⟩ := exists_displayPath workspace hgrounded h.readOctets_eq
  have hrun := fileRun_lintFile workspace fs path fix
  generalize hended : workspace.lintFile fs path fix = ended at hrun
  cases hrun with
  | unread error hstored =>
    rw [lintStored, hdisplay] at hstored
    simp only at hstored
    cases hread : fs.readText path with
    | error unreadable =>
      rw [hread] at hstored
      cases hstored
      have hfailure : unreadable.isFailure = true := by
        rw [readText_found h] at hread
        split at hread
        · cases hread
          rfl
        · cases hread
      exact ⟨_, .failed (by rw [hended]) hfailure hdisplay (by rw [hended])⟩
    | ok text =>
      obtain ⟨report, hreport⟩ := hlints (hparses text hread).1 display false
      rw [hread] at hstored
      simp only [hreport] at hstored
      cases hstored
  | kept => exact ⟨_, .linted (by rw [hended]) fun _ => by rw [hended]⟩
  | unwritten _ hreplaced =>
    rw [h.replaceText_eq hdrafts] at hreplaced
    cases hreplaced
  | @replaced text report _ _ hstored _ _ _ hlint =>
    obtain ⟨display, hread, hfound⟩ := exists_of_lintStored hstored
    have hfixed : workspace.fixText text display = .ok (Fix.apply text report.diagnostics) := by
      rw [fixText, hfound]
    obtain ⟨second, hsecond⟩ :=
      hlints ((hparses text hread).2 display _ hfixed) report.file true
    rw [hsecond] at hlint
    cases hlint
    refine ⟨_, .linted (by rw [hended]) fun hkept => ?_⟩
    rw [(file_and_fixed_of_lintText hsecond).2] at hkept
    cases hkept

/-- A step of a run finds out what becomes of a file, if it finds the same as at first. -/
theorem lintOne_eq {outcome : FileOutcome} (hgrounded : fs.Grounded)
    (h : Found fs path directory goal content) (hbecomes : Becomes workspace fs fix path outcome)
    (hresult : (workspace.lintFile fs' path fix).1 = (workspace.lintFile fs path fix).1)
    (hsame : workspace.displayPath fs' path = workspace.displayPath fs path) :
    LintRun.lintOne workspace fix fs' path =
      (.ok outcome, (workspace.lintFile fs' path fix).2) := by
  obtain ⟨display, hdisplay⟩ := exists_displayPath workspace hgrounded h.readOctets_eq
  rw [LintRun.lintOne, hsame, hdisplay]
  generalize workspace.lintFile fs' path fix = ended at hresult ⊢
  obtain ⟨result, files⟩ := ended
  cases hbecomes with
  | linted hreport =>
    rw [hreport] at hresult
    cases hresult
    rfl
  | failed herror hfailure hdisplay' _ =>
    rw [herror] at hresult
    rw [hdisplay] at hdisplay'
    cases hresult
    cases hdisplay'
    simp only [LintError.isFailure, hfailure]
    rfl

/-! ### Some files in a row -/

/-- The files after some have been linted: what linting one of them alone changes is changed,
    and nothing else. -/
structure Settled (workspace : Workspace) (fix : Bool) (fs : FileSystem) (done : List Path)
    (fs' : FileSystem) : Prop where
  current : fs'.current = fs.current
  fixed : ∀ path ∈ done, ∀ place,
    (workspace.lintFile fs path fix).2.item? place ≠ fs.item? place →
      fs'.item? place = (workspace.lintFile fs path fix).2.item? place
  kept : ∀ place, (∀ path ∈ done,
    (workspace.lintFile fs path fix).2.item? place = fs.item? place) →
      fs'.item? place = fs.item? place

/-- Paths to different files. -/
structure Separate (fs : FileSystem) (paths : List Path) : Prop where
  found : ∀ path ∈ paths, ∃ directory goal content, Found fs path directory goal content
  distinct : paths.Pairwise fun path other =>
    fs.walk .followed path ≠ fs.walk .followed other

section Settled

variable {done : List Path} (hgrounded : fs.Grounded) (hdrafts : fs.NoDrafts)
  (hfound : ∀ path ∈ done, ∃ directory goal content, Found fs path directory goal content)
  (hsettled : Settled workspace fix fs done fs')

include hgrounded hdrafts hfound hsettled

/-- What has changed is at the seats of files that are fixed. -/
theorem Settled.changed : Changed fs fs' fun path =>
    path ∈ done ∧ (workspace.lintFile fs path fix).2 ≠ fs := by
  refine ⟨hsettled.current, fun place => ?_⟩
  by_cases hsame : ∀ path ∈ done, (workspace.lintFile fs path fix).2.item? place = fs.item? place
  · exact Or.inl (hsettled.kept place hsame)
  · simp only [not_forall, exists_prop] at hsame
    obtain ⟨path, hpath, hne⟩ := hsame
    obtain ⟨directory, goal, content, h⟩ := hfound path hpath
    exact Or.inr ⟨path, directory, goal, content, ⟨hpath, fun heq => hne (by rw [heq])⟩, h,
      eq_seat_of_item?_ne hgrounded hdrafts h hne⟩

/-- The next file is linted as it would be alone, and what that changes is changed. -/
theorem Settled.concat (h : Found fs path directory goal content)
    (hother : ∀ other ∈ done, fs.walk .followed other ≠ fs.walk .followed path) :
    (workspace.lintFile fs' path fix).1 = (workspace.lintFile fs path fix).1 ∧
      workspace.displayPath fs' path = workspace.displayPath fs path ∧
      Settled workspace fix fs (done ++ [path]) (workspace.lintFile fs' path fix).2 := by
  have hchanged := hsettled.changed hgrounded hdrafts hfound
  have hgrounded' := hchanged.grounded hgrounded
  have hdrafts' := hchanged.noDrafts hdrafts
  have h' := h.of_changed hchanged fun other hkind => hother other hkind.1
  have hdisplay : workspace.displayPath fs' path = workspace.displayPath fs path := by
    rw [displayPath_found hgrounded h, displayPath_found hgrounded' h']
  obtain ⟨result, ⟨heq, heq'⟩ | ⟨octets, -, heq, heq'⟩⟩ :=
    lintFile_congr hgrounded h hgrounded' h' workspace hdrafts hdrafts' fix
  · refine ⟨by rw [heq, heq'], hdisplay, ?_⟩
    rw [heq']
    constructor
    · exact hsettled.current
    · intro other hmem place hne
      rcases List.mem_append.mp hmem with hdone | hlast
      · exact hsettled.fixed other hdone place hne
      · rw [List.mem_singleton.mp hlast, heq] at hne
        exact absurd rfl hne
    · intro place hsame
      exact hsettled.kept place fun other hdone => hsame other (List.mem_append_left _ hdone)
  · refine ⟨by rw [heq, heq'], hdisplay, ?_⟩
    rw [heq']
    constructor
    · exact hsettled.current
    · intro other hmem place hne
      rw [hdrafts'.item?_stored]
      rcases List.mem_append.mp hmem with hdone | hlast
      · obtain ⟨directory', goal', content', hfound'⟩ := hfound other hdone
        have hseat := eq_seat_of_item?_ne hgrounded hdrafts hfound' hne
        rw [if_neg, hsettled.fixed other hdone place hne]
        intro hplace
        exact hother other hdone (hfound'.walk_eq_of_seat_eq h (hseat.symm.trans hplace))
      · rw [List.mem_singleton.mp hlast] at hne ⊢
        have hseat := eq_seat_of_item?_ne hgrounded hdrafts h hne
        rw [heq, hdrafts.item?_stored, if_pos hseat, if_pos hseat]
    · intro place hsame
      have hlast := hsame path (List.mem_append_right _ (List.mem_singleton_self path))
      rw [heq, hdrafts.item?_stored] at hlast
      rw [hdrafts'.item?_stored]
      split
      · rename_i hseat
        rw [← hlast, if_pos hseat]
      · exact hsettled.kept place fun other hdone => hsame other (List.mem_append_left _ hdone)

end Settled

/-! ### A run -/

section Run

variable {console : Console} {paths : List Path} (state : console.State)
  (hgrounded : fs.Grounded) (hdrafts : fs.NoDrafts)

include hgrounded hdrafts

theorem lintAll_settled {done : List Path} (hseparate : Separate fs (done ++ paths))
    (hbecomes : ∀ path ∈ paths, ∃ outcome, Becomes workspace fs fix path outcome)
    (hsettled : Settled workspace fix fs done fs') :
    ∃ outcomes files, LintRun.lintAll workspace fix console (fun _ => []) state fs' paths =
        ⟨outcomes, [], none, files, state⟩ ∧
      List.Forall₂ (Becomes workspace fs fix) paths outcomes ∧
      Settled workspace fix fs (done ++ paths) files := by
  induction paths generalizing done fs' with
  | nil => exact ⟨[], fs', rfl, .nil, by rwa [List.append_nil]⟩
  | cons path rest ih =>
    have hfound : ∀ path ∈ done, ∃ directory goal content,
        Found fs path directory goal content :=
      fun path hpath => hseparate.found path (List.mem_append_left _ hpath)
    obtain ⟨directory, goal, content, h⟩ :=
      hseparate.found path (List.mem_append_right _ (List.mem_cons_self ..))
    have hother : ∀ other ∈ done, fs.walk .followed other ≠ fs.walk .followed path :=
      fun other hdone => (List.pairwise_append.mp hseparate.distinct).2.2 other hdone path
        (List.mem_cons_self ..)
    obtain ⟨outcome, houtcome⟩ := hbecomes path (List.mem_cons_self ..)
    obtain ⟨hresult, hdisplay, hnext⟩ :=
      hsettled.concat hgrounded hdrafts hfound h hother
    have hstep : LintRun.lintOne workspace fix fs' path =
        (.ok outcome, (workspace.lintFile fs' path fix).2) :=
      lintOne_eq hgrounded h houtcome hresult hdisplay
    rw [List.append_cons] at hseparate ⊢
    obtain ⟨outcomes, files, hrun, houtcomes, hend⟩ := ih hseparate
      (fun other hmem => hbecomes other (List.mem_cons_of_mem _ hmem)) hnext
    refine ⟨outcome :: outcomes, files, ?_, .cons houtcome houtcomes, hend⟩
    rw [LintRun.lintAll, hstep]
    simp only [Console.tell_nil, hrun, List.nil_append]

variable (hseparate : Separate fs paths)

include hseparate

/-- Different files are linted as if each were the only one. -/
theorem lintAll_separate
    (hbecomes : ∀ path ∈ paths, ∃ outcome, Becomes workspace fs fix path outcome) :
    ∃ outcomes files, LintRun.lintAll workspace fix console (fun _ => []) state fs paths =
        ⟨outcomes, [], none, files, state⟩ ∧
      List.Forall₂ (Becomes workspace fs fix) paths outcomes ∧
      Settled workspace fix fs paths files := by
  have hsettled : Settled workspace fix fs [] fs :=
    ⟨rfl, fun _ hpath => absurd hpath List.not_mem_nil, fun _ _ => rfl⟩
  exact lintAll_settled state hgrounded hdrafts (List.nil_append paths ▸ hseparate) hbecomes hsettled

omit state in
/-- In the end every path is read as if its file had been linted alone. -/
theorem Settled.readOctets_eq (hsettled : Settled workspace fix fs paths fs')
    (hpath : path ∈ paths) :
    fs'.readOctets path = (workspace.lintFile fs path fix).2.readOctets path := by
  have hchanged := hsettled.changed hgrounded hdrafts hseparate.found
  obtain ⟨directory, goal, content, h⟩ := hseparate.found path hpath
  have hdistinct : ∀ other ∈ paths, other ≠ path →
      fs.walk .followed other ≠ fs.walk .followed path := by
    have hsymm : Std.Symm fun path other : Path =>
        fs.walk .followed path ≠ fs.walk .followed other := ⟨fun _ _ hne => hne.symm⟩
    exact fun other hmem hne => hseparate.distinct.forall hmem hpath hne
  rcases lintFile_cases hgrounded hdrafts h workspace fix with heq | ⟨octets, -, heq⟩
  -- whatever else has been fixed is a different file
  · have hother : ∀ other, other ∈ paths ∧ (workspace.lintFile fs other fix).2 ≠ fs →
        fs.walk .followed other ≠ fs.walk .followed path := by
      rintro other ⟨hmem, hne⟩
      refine hdistinct other hmem ?_
      rintro rfl
      exact hne heq
    rw [heq, (h.of_changed hchanged hother).readOctets_eq, h.readOctets_eq]
  · have hstored : (fs.stored directory path octets).item? (seat directory path) =
        some (.file octets) := by
      rw [hdrafts.item?_stored, if_pos rfl]
    have hitem : fs'.item? (seat directory path) = some (.file octets) := by
      rw [← hstored]
      by_cases hsame : (fs.stored directory path octets).item? (seat directory path) =
          fs.item? (seat directory path)
      · rw [hsame]
        refine hsettled.kept _ fun other hmem => ?_
        by_contra hne
        obtain ⟨_, _, _, hfound⟩ := hseparate.found other hmem
        have hwalk := h.walk_eq_of_seat_eq hfound (eq_seat_of_item?_ne hgrounded hdrafts hfound hne)
        have hpath' : other = path :=
          Decidable.not_not.mp fun hne => hdistinct other hmem hne hwalk.symm
        rw [hpath', heq] at hne
        exact hne hsame
      · have hfixed := hsettled.fixed path hpath (seat directory path)
        rw [heq] at hfixed
        exact hfixed hsame
    rw [h.readOctets_of_changed hchanged hitem, heq,
      h.readOctets_of_changed (h.changed_stored hdrafts octets) hstored]

/-- What became of files, and the files afterwards, if each was linted as if it were the only
    one. -/
structure Separately (workspace : Workspace) (fs : FileSystem) (fix : Bool) (paths : List Path)
    (outcomes : List FileOutcome) (files : FileSystem) : Prop where
  becomes : List.Forall₂ (Becomes workspace fs fix) paths outcomes
  content : ∀ path ∈ paths,
    files.readOctets path = (workspace.lintFile fs path fix).2.readOctets path
  changed : ∀ place, files.item? place ≠ fs.item? place → fix = true ∧
    ∃ path ∈ paths, ∃ report, (workspace.lintFile fs path fix).1 = .ok report ∧
      report.fixed = true ∧ (workspace.lintFile fs path fix).2.item? place ≠ fs.item? place ∧
      files.item? place = (workspace.lintFile fs path fix).2.item? place

theorem lintAll_separately
    (hbecomes : ∀ path ∈ paths, ∃ outcome, Becomes workspace fs fix path outcome) :
    ∃ outcomes files, LintRun.lintAll workspace fix console (fun _ => []) state fs paths =
        ⟨outcomes, [], none, files, state⟩ ∧
      Separately workspace fs fix paths outcomes files := by
  obtain ⟨outcomes, files, hrun, houtcomes, hsettled⟩ :=
    lintAll_separate state hgrounded hdrafts hseparate hbecomes
  refine ⟨outcomes, files, hrun, houtcomes, fun path hpath =>
    hsettled.readOctets_eq hgrounded hdrafts hseparate hpath, fun place hplace => ?_⟩
  obtain ⟨path, hpath, hne⟩ : ∃ path ∈ paths,
      (workspace.lintFile fs path fix).2.item? place ≠ fs.item? place := by
    by_contra hnone
    simp only [not_exists, not_and, Decidable.not_not] at hnone
    exact hplace (hsettled.kept place hnone)
  have hfiles : (workspace.lintFile fs path fix).2 ≠ fs := fun heq => hne (by rw [heq])
  obtain ⟨directory, goal, content, h⟩ := hseparate.found path hpath
  have hfix : fix = true := by
    rcases lintFile_cases hgrounded hdrafts h workspace fix with heq | ⟨_, hfix, -⟩
    · exact absurd heq hfiles
    · exact hfix
  obtain ⟨outcome, houtcome⟩ := hbecomes path hpath
  cases houtcome with
  | @linted report hreport hkept =>
    have hfixed : report.fixed = true := by
      by_contra hnot
      exact hfiles (hkept (Bool.eq_false_iff.mpr hnot))
    exact ⟨hfix, path, hpath, report, hreport, hfixed, hne, hsettled.fixed path hpath place hne⟩
  | failed _ _ _ hkept => exact absurd hkept hfiles

end Run

end Workspace

end WorkflowLint
