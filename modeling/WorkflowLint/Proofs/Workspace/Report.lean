/-
  WorkflowLint/Proofs/Workspace/Report.lean
  =========================================
  **Reports with something to fix.**

  If a finding is reported that can be fixed, the configuration was asked about its rule and
  had an answer, so what it ignores is given by patterns that can be read, and it has an
  answer for every other rule too (`exists_of_isFixable`).  Applying the fixes of such a
  report is a pass with the corrections of the rules that are not ignored
  (`apply_eq_keptPass`), which leaves nothing to fix.
-/
import WorkflowLint.Proofs.Fix.Kept
import WorkflowLint.Proofs.Rule.Ignored

namespace WorkflowLint

/-! ### Patterns that are asked for -/

theorem Ignored.exists_globs_of_anyAccepts {texts : List Text} {given : List Pattern}
    (h : Ignored.anyAccepts texts given = .ok false) :
    ∃ patterns : List CodePoints, given = patterns.map .glob := by
  induction given with
  | nil => exact ⟨[], rfl⟩
  | cons pattern rest ih =>
    cases pattern with
    | unwritable error => cases h
    | glob codes =>
      rw [Ignored.anyAccepts] at h
      split at h
      · cases h
      · obtain ⟨patterns, rfl⟩ := ih h
        exact ⟨codes :: patterns, rfl⟩

/-- What is known not to be ignored was compared with all patterns. -/
theorem Ignored.exists_globs {texts : List Text} {ignored : Ignored}
    (h : ignored.accepts texts = .ok false) :
    ∃ patterns : List CodePoints, ignored = .patterns (patterns.map .glob) := by
  cases ignored with
  | noPatterns kind => cases h
  | patterns given =>
    obtain ⟨patterns, rfl⟩ := exists_globs_of_anyAccepts h
    exact ⟨patterns, rfl⟩

/-! ### Findings have rules -/

/-- Every finding has the identifier of a rule, or of the empty document. -/
theorem Document.exists_ruleId {document : Document} {strict : Bool} {rules : List Rule}
    {diagnostic : Diagnostic} (h : diagnostic ∈ (document.evaluate strict rules).diagnostics) :
    ∃ ruleId, diagnostic.ruleId = some ruleId := by
  rw [evaluate] at h
  split at h
  · rw [Evaluation.diagnostics, List.mem_singleton] at h
    rw [h]
    exact ⟨_, rfl⟩
  · simp only [Evaluation.diagnostics, List.mem_append] at h
    rcases h with (h | h) | h
    · rw [layoutFindings_eq_flatMap] at h
      obtain ⟨pair, -, h⟩ := List.mem_flatMap.mp h
      obtain ⟨rule, view, h⟩ := LayoutRule.exists_of_mem_checkAll h
      exact ⟨_, LayoutRule.ruleId_of_mem_check h⟩
    · obtain ⟨rule, -, h⟩ := List.mem_flatMap.mp h
      exact ⟨_, StructureRule.ruleId_of_mem_analyze h⟩
    · obtain ⟨rule, h⟩ := ruleId_of_mem_contentFindings h
      exact ⟨_, h⟩

namespace Workspace

variable {workspace : Workspace} {text path : Text} {fixed : Bool} {report : Report}

/-! ### Reports -/

/-- A finding that is reported was found, and its rule is not ignored. -/
theorem of_mem_reported {findings reported : List Diagnostic}
    (h : workspace.reported findings = .ok reported) {diagnostic : Diagnostic}
    (hd : diagnostic ∈ reported) :
    diagnostic ∈ findings ∧ workspace.reports diagnostic = .ok true := by
  induction findings generalizing reported with
  | nil =>
    cases h
    cases hd
  | cons finding rest ih =>
    rw [Workspace.reported] at h
    split at h
    · cases h
    · rename_i keep hkeep
      split at h
      · cases h
      · rename_i others hothers
        cases h
        cases keep with
        | false =>
          obtain ⟨hmem, hreports⟩ := ih hothers hd
          exact ⟨List.mem_cons_of_mem _ hmem, hreports⟩
        | true =>
          rcases List.mem_cons.mp hd with rfl | hd
          · exact ⟨List.mem_cons_self .., hkeep⟩
          · obtain ⟨hmem, hreports⟩ := ih hothers hd
            exact ⟨List.mem_cons_of_mem _ hmem, hreports⟩

/-- A report is about a text that can be read. -/
theorem exists_of_lintText (h : workspace.lintText text path fixed = .ok report) :
    ∃ document reported, Document.load text = .ok document ∧
      workspace.reported (document.evaluate workspace.strict Rule.all).diagnostics = .ok reported ∧
        report = .ofDiagnostics path reported fixed := by
  rw [lintText, lint] at h
  cases hload : Document.load text with
  | error error =>
    rw [hload] at h
    cases h
  | ok document =>
    rw [hload] at h
    simp only [Except.map] at h
    split at h
    · cases h
    · rename_i reported hreported
      exact ⟨document, reported, rfl, hreported, (Except.ok.inj h).symm⟩

theorem file_and_fixed_of_lintText (h : workspace.lintText text path fixed = .ok report) :
    report.file = path ∧ report.fixed = fixed := by
  obtain ⟨_, _, _, _, rfl⟩ := exists_of_lintText h
  exact ⟨rfl, rfl⟩

/-- What is reported depends neither on the path nor on whether the text was fixed. -/
theorem lintText_congr (h : workspace.lintText text path fixed = .ok report) (path' : Text)
    (fixed' : Bool) :
    workspace.lintText text path' fixed' =
      .ok (.ofDiagnostics path' report.diagnostics fixed') := by
  obtain ⟨document, reported, hload, hreported, rfl⟩ := exists_of_lintText h
  rw [lintText, lint, hload]
  simp only [Except.map, Report.diagnostics_ofDiagnostics, hreported]

/-- If something is reported that has a rule, what is ignored is given by patterns. -/
theorem exists_of_mem_diagnostics (h : workspace.lintText text path fixed = .ok report)
    {diagnostic : Diagnostic} (hd : diagnostic ∈ report.diagnostics) :
    ∃ (document : Document) (patterns : List CodePoints), Document.load text = .ok document ∧
      workspace.config.ignored = .patterns (patterns.map .glob) ∧
      report.diagnostics = (document.evaluate workspace.strict Rule.all).diagnostics.filter
        (Diagnostic.comesFrom (keeps patterns)) := by
  obtain ⟨document, reported, hload, hreported, rfl⟩ := exists_of_lintText h
  obtain ⟨hmem, hreports⟩ := of_mem_reported hreported hd
  obtain ⟨ruleId, hruleId⟩ := Document.exists_ruleId hmem
  rw [reports, hruleId] at hreports
  simp only [Config.ignoresRule] at hreports
  cases haccepts : workspace.config.ignored.accepts [ruleId] with
  | error fault => simp [haccepts] at hreports
  | ok ignored =>
    simp only [haccepts, Except.ok.injEq, Bool.not_eq_true'] at hreports
    rw [hreports] at haccepts
    obtain ⟨patterns, hpatterns⟩ := Ignored.exists_globs haccepts
    rw [reported_eq hpatterns] at hreported
    exact ⟨document, patterns, hload, hpatterns, (Except.ok.inj hreported).symm⟩

/-! ### Texts that are fixed -/

/-- Fixes that change a text change its lines one by one. -/
theorem exists_of_apply_ne (h : workspace.lintText text path fixed = .ok report)
    (hne : Fix.apply text report.diagnostics ≠ text) :
    ∃ (document : Document) (patterns : List CodePoints), Document.load text = .ok document ∧
      workspace.config.ignored = .patterns (patterns.map .glob) ∧
      Fix.apply text report.diagnostics =
        Text.joinLines (Fix.changeLines (Fix.keptPassLine (keeps patterns) workspace.strict) false
          (Text.lines text)) := by
  have hfixable : ∃ diagnostic ∈ report.diagnostics, diagnostic.isFixable = true := by
    refine Decidable.byContradiction fun hnot => hne (Fix.apply_of_not_fixable ?_ text)
    intro diagnostic hd
    exact Bool.eq_false_iff.mpr fun hfixable => hnot ⟨diagnostic, hd, hfixable⟩
  obtain ⟨diagnostic, hd, hfixable⟩ := hfixable
  obtain ⟨document, patterns, hload, hpatterns, hreport⟩ := exists_of_mem_diagnostics h hd
  refine ⟨document, patterns, hload, hpatterns, ?_⟩
  rw [hreport]
  refine Fix.apply_filter_evaluate _ hload (Bool.eq_false_iff.mpr fun hblank => ?_) _
  rw [hreport] at hd
  obtain ⟨outline, -, rfl⟩ := Document.load_eq_ok_iff.mp hload
  have hnot := Fix.not_isFixable_of_allBlank hblank diagnostic (List.mem_filter.mp hd).1
  rw [hfixable] at hnot
  cases hnot

/-- A fixed text has nothing to fix. -/
theorem not_isFixable_of_lintText_apply (h : workspace.lintText text path fixed = .ok report)
    {path' : Text} {fixed' : Bool} {second : Report}
    (hsecond : workspace.lintText (Fix.apply text report.diagnostics) path' fixed' = .ok second) :
    ∀ diagnostic ∈ second.diagnostics, diagnostic.isFixable = false := by
  intro diagnostic hd
  obtain ⟨passed, patterns, hpassed, hpatterns, hdiagnostics⟩ :=
    exists_of_mem_diagnostics hsecond hd
  obtain ⟨document, reported, hload, -, -⟩ := exists_of_lintText h
  rw [lintText_eq hpatterns hload] at h
  cases h
  rw [hdiagnostics, List.mem_filter] at hd
  exact Fix.not_isFixable_of_keptPass hload hpassed hd.1 hd.2

section Characters

variable {c : Char} (h : workspace.lintText text path fixed = .ok report) (hfeed : c ≠ '\n')

include h hfeed

/-- Fixing adds no characters but spaces and version digits. -/
theorem not_mem_apply (hc : c ≠ ' ' ∧ c ∉ Text.versionDigits) (htext : c ∉ text) :
    c ∉ Fix.apply text report.diagnostics := by
  by_cases hne : Fix.apply text report.diagnostics = text
  · rw [hne]
    exact htext
  · obtain ⟨document, patterns, -, -, happly⟩ := exists_of_apply_ne h hne
    rw [← Text.joinLines_lines text, Text.mem_joinLines hfeed, not_exists] at htext
    rw [happly, Text.mem_joinLines hfeed, not_exists]
    intro line hline
    exact Fix.not_mem_changeLines (Fix.passed_keptPassLine _ _)
      (fun line h => Text.not_mem_of_mem_lines h) hc
      (fun line h hmem => htext line ⟨h, hmem⟩) false line hline.1 hline.2

/-- Fixing a text changes its first character only if it indents or is a version digit. -/
theorem head?_apply (hc : Text.isIndent c = false ∧ c ∉ Text.versionDigits)
    (hhead : (Fix.apply text report.diagnostics).head? = some c) : text.head? = some c := by
  by_cases hne : Fix.apply text report.diagnostics = text
  · rw [← hne]
    exact hhead
  · obtain ⟨document, patterns, -, -, happly⟩ := exists_of_apply_ne h hne
    rw [happly] at hhead
    rw [← Text.joinLines_lines text]
    exact Fix.head?_joinLines_changeLines (Fix.passed_keptPassLine _ _)
      (fun line h => Text.not_mem_of_mem_lines h) hc hfeed false hhead

end Characters

end Workspace

end WorkflowLint
