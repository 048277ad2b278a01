/-
  WorkflowLint/Proofs/Workspace/LintFile.lean
  ===========================================
  **What linting a file does.**

  Linting a file has four ends (`FileRun`): it cannot be read, it is left as it is, it cannot be
  replaced, or it is replaced and what was stored is linted again.  A file is left only if
  nothing that is reported can be fixed.
-/
import WorkflowLint.Proofs.FileSystem.Resolve
import WorkflowLint.Proofs.Workspace.Report

namespace WorkflowLint.Workspace

variable {workspace : Workspace} {fs : FileSystem} {path : Path} {fix : Bool} {text : Text}
  {report : Report}

/-- A file that can be read has a path to be reported by. -/
theorem exists_displayPath (workspace : Workspace) (hgrounded : fs.Grounded)
    {octets : Octets} (h : fs.readOctets path = .ok octets) :
    ∃ display, workspace.displayPath fs path = .ok display := by
  rw [FileSystem.readOctets] at h
  cases hwalk : fs.walk .followed path with
  | error fault => simp [hwalk] at h
  | ok place =>
    rw [displayPath, FileSystem.resolve_of_walk hgrounded hwalk]
    simp only
    split <;> exact ⟨_, rfl⟩

theorem exists_of_lintStored (h : workspace.lintStored fs path = .ok (text, report)) :
    ∃ display, fs.readText path = .ok text ∧
      workspace.lintText text display false = .ok report := by
  rw [lintStored] at h
  split at h
  · cases h
  · rename_i display _
    split at h
    · cases h
    · rename_i stored hstored
      split at h
      · cases h
      · rename_i found hfound
        cases h
        exact ⟨display, hstored, hfound⟩

/-- How linting a file may end. -/
inductive FileRun (workspace : Workspace) (fs : FileSystem) (path : Path) (fix : Bool) :
    Except LintError Report × FileSystem → Prop where
  | unread (error : LintError) (hstored : workspace.lintStored fs path = .error error) :
      FileRun workspace fs path fix (.error error, fs)
  | kept {text : Text} {report : Report}
      (hstored : workspace.lintStored fs path = .ok (text, report))
      (hfixable : fix = true → ∀ diagnostic ∈ report.diagnostics, diagnostic.isFixable = false) :
      FileRun workspace fs path fix (.ok report, fs)
  | unwritten {text : Text} {report : Report} {error : FileError} {fs' : FileSystem}
      (hstored : workspace.lintStored fs path = .ok (text, report))
      (hreplaced : fs.replaceText path (Fix.apply text report.diagnostics) = (.error error, fs')) :
      FileRun workspace fs path fix (.error (.file error), fs')
  | replaced {text : Text} {report : Report} {fs' : FileSystem} {result : Except LintError Report}
      (hstored : workspace.lintStored fs path = .ok (text, report)) (hfix : fix = true)
      (hne : Fix.apply text report.diagnostics ≠ text)
      (hreplaced : fs.replaceText path (Fix.apply text report.diagnostics) = (.ok (), fs'))
      (hlint : workspace.lintText (Fix.apply text report.diagnostics) report.file true = result) :
      FileRun workspace fs path fix (result, fs')

theorem fileRun_lintFile (workspace : Workspace) (fs : FileSystem) (path : Path) (fix : Bool) :
    FileRun workspace fs path fix (workspace.lintFile fs path fix) := by
  rw [lintFile]
  cases hstored : workspace.lintStored fs path with
  | error error => exact .unread error hstored
  | ok stored =>
    obtain ⟨text, report⟩ := stored
    obtain ⟨display, -, hlint⟩ := exists_of_lintStored hstored
    simp only
    split
    · rename_i hwrite
      rw [Bool.and_eq_true, Bool.and_eq_true, bne_iff_ne] at hwrite
      rw [storeFixed]
      split
      · rename_i error fs' hreplaced
        exact .unwritten hstored hreplaced
      · rename_i fs' hreplaced
        exact .replaced hstored hwrite.1.1 hwrite.2 hreplaced rfl
    · rename_i hkeep
      refine .kept hstored fun hfix => ?_
      rw [hfix, Bool.true_and, Bool.and_eq_true, bne_iff_ne, not_and, Decidable.not_not] at hkeep
      by_cases hnone : report.fixable = []
      · rw [Report.fixable, List.filter_eq_nil_iff] at hnone
        intro diagnostic hd
        exact Bool.eq_false_iff.mpr (hnone diagnostic hd)
      -- The fixes change nothing, so the text is one that has been fixed.
      · have hagain : workspace.lintText (Fix.apply text report.diagnostics) display false =
            .ok report := by
          rw [hkeep (by simp [hnone])]
          exact hlint
        exact not_isFixable_of_lintText_apply hlint hagain

/-- A file about which nothing is reported that can be fixed is left. -/
theorem lintFile_of_not_isFixable (hstored : workspace.lintStored fs path = .ok (text, report))
    (h : ∀ diagnostic ∈ report.diagnostics, diagnostic.isFixable = false) (fix : Bool) :
    workspace.lintFile fs path fix = (.ok report, fs) := by
  have hfixable : report.fixable = [] := by
    rw [Report.fixable, List.filter_eq_nil_iff]
    intro diagnostic hd
    simp [h diagnostic hd]
  rw [lintFile, hstored]
  simp [hfixable]

/-- A file that is replaced is linted again, from the text that was stored. -/
theorem lintFile_of_replaceText {fs' : FileSystem}
    (hstored : workspace.lintStored fs path = .ok (text, report))
    (hne : Fix.apply text report.diagnostics ≠ text)
    (hreplaced : fs.replaceText path (Fix.apply text report.diagnostics) = (.ok (), fs')) :
    workspace.lintFile fs path true =
      (workspace.lintText (Fix.apply text report.diagnostics) report.file true, fs') := by
  have hrun := fileRun_lintFile workspace fs path true
  generalize workspace.lintFile fs path true = outcome at hrun
  cases hrun with
  | unread _ hunread =>
    rw [hstored] at hunread
    cases hunread
  | kept hkept hfixable =>
    rw [hstored] at hkept
    cases hkept
    exact absurd (Fix.apply_of_not_fixable (hfixable rfl) text) hne
  | unwritten hwritten hfailed =>
    rw [hstored] at hwritten
    cases hwritten
    rw [hreplaced] at hfailed
    cases hfailed
  | replaced hwritten _ _ hdone hresult =>
    rw [hstored] at hwritten
    cases hwritten
    rw [hreplaced] at hdone
    cases hdone
    rw [hresult]

end WorkflowLint.Workspace
