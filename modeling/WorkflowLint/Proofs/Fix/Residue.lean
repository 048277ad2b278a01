/-
  WorkflowLint/Proofs/Fix/Residue.lean
  ====================================
  **What a pass leaves.**

  Where no line starts with a tab, a pass moves nothing: lines keep their columns
  and, up to version digits, their trimmed texts.  The tree keeps its shape, its
  keys and all recorded lines, and of the findings exactly those remain that could
  not be fixed (`pass_removes_fixable`).
-/
import WorkflowLint.Proofs.Fix.Fixpoint
import WorkflowLint.Proofs.Outline.Uses
import WorkflowLint.Proofs.Rule.Content
import WorkflowLint.Proofs.Rule.Selection
import WorkflowLint.Proofs.Rule.Structure

namespace WorkflowLint.Fix

open Line (Alike)

/-! ### One line -/

section Line

variable {line laid passed : Text} (hne : Text.trim line ≠ [])
  (htab : Line.startsWithTab line = false)

include htab in
/-- Without a tab at its start, a line only loses blanks at its end to the layout rules. -/
theorem Laid.exists_append (h : Laid line laid) :
    ∃ back, Text.allBlank back = true ∧ line = laid ++ back := by
  cases h with
  | same => exact ⟨[], rfl, (List.append_nil line).symm⟩
  | indented =>
    rw [indentLine_of_not_startsWithTab htab]
    exact ⟨[], rfl, (List.append_nil line).symm⟩
  | trimmed =>
    rw [indentLine_of_not_startsWithTab htab]
    exact Line.exists_trimTrailing line

include hne htab in
theorem Laid.blankWidth_eq (h : Laid line laid) :
    Text.blankWidth laid = Text.blankWidth line := by
  obtain ⟨back, -, hline⟩ := h.exists_append htab
  rw [← h.trim_eq] at hne
  conv => rhs; rw [hline]
  exact (Text.blankWidth_append_right hne back).symm

include hne htab in
/-- What content rules see of a line stays. -/
theorem Passed.alike (h : Passed line passed) (hline : '\n' ∉ line) : Alike line passed := by
  have hblur := h.blur_trim_eq hne hline
  have hexpressions {laid : Text} (hlaid : Laid line laid) :
      Line.expressions laid = Line.expressions line := by
    obtain ⟨back, hback, hlayout⟩ := hlaid.exists_append htab
    conv => rhs; rw [hlayout]
    exact (Line.expressionsFrom_append_blank 0 _ hback).symm
  rcases h.cases hne hline with hlaid | ⟨entry, uses, -, hknown, hlaid, rfl⟩
  · refine ⟨hblur, hlaid.blankWidth_eq hne htab, hexpressions hlaid, ?_⟩
    rw [hlaid.usesReference?_eq hne hline]
  · refine ⟨hblur, ?_, ?_, ?_⟩
    · rw [← hlaid.blankWidth_eq hne htab, ← Text.blankWidth_blur, uses.blur_line hknown,
        Text.blankWidth_blur]
    · rw [← hexpressions hlaid, uses.expressions_line hknown.isWord_replacement,
        uses.expressions_line hknown.isWord_outdated]
    · rw [← hlaid.usesReference?_eq hne hline, uses.usesReference?_outdated hknown,
        uses.usesReference?_replacement hknown]
      simp [Option.filter, hknown.outdated_pinned, hknown.replacement_pinned]

end Line

/-! ### All lines -/

/-- Lines none of which, blank lines and comments aside, starts with a tab. -/
structure Tabless (lines : List Text) : Prop where
  no_feed : ∀ line ∈ lines, '\n' ∉ line
  no_tab : ∀ line ∈ lines, Line.isIgnorable line = false → Line.startsWithTab line = false

theorem Tabless.tail {line : Text} {rest : List Text} (h : Tabless (line :: rest)) :
    Tabless rest :=
  ⟨fun other hother => h.no_feed other (List.mem_cons_of_mem _ hother),
    fun other hother => h.no_tab other (List.mem_cons_of_mem _ hother)⟩

variable {lines : List Text} (strict : Bool)

/-- The first line after a pass, and the others. -/
theorem exists_passLines_cons {line : Text} {rest : List Text} (h : Tabless (line :: rest))
    (inBlock : Bool) : ∃ passed inBlock',
      passLines strict inBlock (line :: rest) = passed :: passLines strict inBlock' rest ∧
        Alike line passed := by
  rw [passLines]
  split
  · exact ⟨line, inBlock, rfl, Alike.refl line⟩
  · rename_i hignorable
    have hcontent := Bool.eq_false_iff.mpr hignorable
    refine ⟨_, inBlockAfter inBlock line, rfl, ?_⟩
    exact (passed_passLine strict _ line).alike (Line.trim_ne_nil hcontent)
      (h.no_tab line (List.mem_cons_self ..) hcontent) (h.no_feed line (List.mem_cons_self ..))

theorem allBlank_passLines (h : Tabless lines) (inBlock : Bool) :
    (passLines strict inBlock lines).all Text.allBlank = lines.all Text.allBlank := by
  induction lines generalizing inBlock with
  | nil => rfl
  | cons line rest ih =>
    obtain ⟨passed, inBlock', hpass, halike⟩ := exists_passLines_cons strict h inBlock
    rw [hpass, List.all_cons, List.all_cons, ih h.tail, halike.allBlank_eq]

/-! ### Content -/

theorem any_hasPart_passLines (h : Tabless lines) (inBlock : Bool) (reach : Nat) :
    ((passLines strict inBlock lines).take reach).any (Text.hasPart Line.expressionClose) =
      (lines.take reach).any (Text.hasPart Line.expressionClose) := by
  induction lines generalizing inBlock reach with
  | nil => rfl
  | cons line rest ih =>
    obtain ⟨passed, inBlock', hpass, halike⟩ := exists_passLines_cons strict h inBlock
    rw [hpass]
    cases reach with
    | zero => rfl
    | succ reach =>
      rw [List.take_succ_cons, List.take_succ_cons, List.any_cons, List.any_cons, ih h.tail,
        halike.hasPart_eq (by decide) (Text.forall_mem_of_all (by decide))
          (Text.forall_mem_of_all (by decide))]

theorem nextColumn?_passLines (h : Tabless lines) (inBlock : Bool) :
    Line.nextColumn? (passLines strict inBlock lines) = Line.nextColumn? lines := by
  induction lines generalizing inBlock with
  | nil => rfl
  | cons line rest ih =>
    obtain ⟨passed, inBlock', hpass, halike⟩ := exists_passLines_cons strict h inBlock
    have hrest := ih h.tail inBlock'
    rw [Line.nextColumn?, Line.nextColumn?] at hrest ⊢
    rw [hpass, List.find?_cons, List.find?_cons, halike.isIgnorable_eq]
    split
    · rw [Option.map_some, Option.map_some, halike.blankWidth_eq]
    · exact hrest

/-- Content rules find the same after a pass. -/
theorem contentFindings_passLines (h : Tabless lines) (inBlock : Bool) (rules : List ContentRule)
    (number : Int) :
    contentFindings strict rules number (passLines strict inBlock lines) =
      contentFindings strict rules number lines := by
  induction lines generalizing inBlock number with
  | nil => rfl
  | cons line rest ih =>
    obtain ⟨passed, inBlock', hpass, halike⟩ := exists_passLines_cons strict h inBlock
    rw [hpass, contentFindings, contentFindings, ih h.tail]
    congr 1
    refine congrArg List.flatten (List.map_congr_left fun rule _ => ?_)
    exact rule.check_congr halike (any_hasPart_passLines strict h.tail inBlock' _)
      (nextColumn?_passLines strict h.tail inBlock') number strict

/-! ### Layout -/

/-- The layout rules find on a line after a pass what could not be fixed before. -/
theorem checkAll_passLine {line : Text} (hne : Text.trim line ≠ []) (hline : '\n' ∉ line)
    (htab : Line.startsWithTab line = false) (exempt : Bool) (number : Int)
    (following following' : List Text) :
    LayoutRule.checkAll (layoutRulesFor layoutRules exempt)
        ⟨passLine strict exempt line, number, following', strict, passLine strict exempt line⟩ =
      (LayoutRule.checkAll (layoutRulesFor layoutRules exempt)
        ⟨line, number, following, strict, line⟩).filter fun diagnostic =>
          !diagnostic.isFixable := by
  have hcolon : Line.hasDoubleColon (Text.trim (passLine strict exempt line)) =
      Line.hasDoubleColon (Text.trim line) := by
    rw [← Line.hasDoubleColon_blur, (passed_passLine strict exempt line).blur_trim_eq hne hline,
      Line.hasDoubleColon_blur]
  have htabs : LayoutRule.tabIndentation.check ⟨line, number, following, strict, line⟩ = [] :=
    LayoutRule.check_eq_nil htab
  have htabs' : LayoutRule.tabIndentation.check
      ⟨passLine strict exempt line, number, following', strict, passLine strict exempt line⟩ = [] :=
    LayoutRule.check_eq_nil (startsWithTab_passLine hne hline strict exempt)
  rw [LayoutRule.checkAll_layoutRules, LayoutRule.checkAll_layoutRules, List.filter_append, htabs,
    htabs']
  cases exempt with
  | true => rfl
  | false =>
    have hend : (strict && Line.endsInIndent (passLine strict false line)) = false := by
      cases strict with
      | false => rfl
      | true => exact endsInIndent_passLine hne hline
    have htrailing (view : LineView) (hview : view.line = passLine strict false line)
        (hstrict : view.strict = strict) : LayoutRule.trailingWhitespace.check view = [] := by
      refine LayoutRule.check_eq_nil ?_
      rw [LayoutRule.objects, hview, hstrict, hend]
    rw [if_neg Bool.false_ne_true, if_neg Bool.false_ne_true, List.filter_append,
      LayoutRule.filter_check_isFixable, LayoutRule.filter_check_isFixable, htrailing _ rfl rfl]
    exact congrArg _ (LayoutRule.check_congr rfl hcolon rfl)

/-- The layout rules find after a pass what could not be fixed before. -/
theorem layoutFindings_passLines (h : Tabless lines) (inBlock : Bool) (number : Int) :
    layoutFindings strict layoutRules number inBlock (passLines strict inBlock lines) =
      (layoutFindings strict layoutRules number inBlock lines).filter
        fun diagnostic => !diagnostic.isFixable := by
  induction lines generalizing inBlock number with
  | nil => rfl
  | cons line rest ih =>
    rw [passLines, layoutFindings]
    split
    · rename_i hignorable
      rw [layoutFindings, if_pos hignorable, ih h.tail]
    · rename_i hignorable
      have hcontent := Bool.eq_false_iff.mpr hignorable
      have hne := Line.trim_ne_nil hcontent
      have hline := h.no_feed line (List.mem_cons_self ..)
      have htab := h.no_tab line (List.mem_cons_self ..) hcontent
      have hpassed := passed_passLine strict (inBlockAfter inBlock line) line
      rw [layoutFindings, hpassed.isIgnorable_eq hne hline, if_neg hignorable,
        hpassed.inBlockAfter_eq hne hline, List.filter_append, ← ih h.tail]
      exact congrArg (· ++ _) (checkAll_passLine strict hne hline htab _ number rest _)

/-! ### The tree -/

theorem content?_congr {line other : Text} (htrim : Text.trim other = Text.trim line)
    (hwidth : Text.blankWidth other = Text.blankWidth line) :
    Outline.content? other = Outline.content? line := by
  rw [Outline.content?, Outline.content?, Line.isIgnorable_of_trim_eq htrim, htrim, hwidth]

variable {hidden : Int → Bool} {state other : Outline.State}

/-- A line is handled alike before and after a pass, up to an outdated reference. -/
theorem Passed.step_eq (h : state.redact hidden = other.redact hidden) {line passed : Text}
    (hpassed : Passed line passed) (hne : Text.trim line ≠ []) (hline : '\n' ∉ line)
    (htab : Line.startsWithTab line = false) {number : Int}
    (hhidden : StructureRule.deprecationOn? line ≠ none → hidden number = true) :
    (state.step line number).map (Outline.State.redact hidden) =
      (other.step passed number).map (Outline.State.redact hidden) := by
  have hlayout {laid : Text} (hlaid : Laid line laid) :
      Outline.content? laid = Outline.content? line :=
    content?_congr hlaid.trim_eq (hlaid.blankWidth_eq hne htab)
  -- the pass corrects the layout only, or it also replaces a reference
  rcases hpassed.cases hne hline with hlaid | ⟨entry, uses, hentry, hknown, hlaid, rfl⟩
  · exact Outline.State.step_congr_self h (hlayout hlaid)
  · have hcontent := uses.content?_line hknown.isWord_outdated
    have hcontent' := uses.content?_line hknown.isWord_replacement
    rw [hlayout hlaid] at hcontent
    refine Outline.State.step_congr h hcontent hcontent' ?_
    rw [hhidden (by rw [hentry]; exact Option.some_ne_none entry)]
    exact uses.alike hknown

section Change

variable {change : Bool → Text → Text} (hchange : ∀ exempt line, Passed line (change exempt line))

include hchange

/-- The tree is the same before and after a pass, up to outdated references. -/
theorem run_changeLines (h : state.redact hidden = other.redact hidden) (hlines : Tabless lines)
    (inBlock : Bool) {number : Int}
    (hhidden : ∀ diagnostic ∈ StructureRule.deprecationsFrom number lines,
      ∀ line, diagnostic.line = some line → hidden line = true) :
    (state.run lines number).map (Outline.State.redact hidden) =
      (other.run (changeLines change inBlock lines) number).map
        (Outline.State.redact hidden) := by
  induction lines generalizing inBlock number state other with
  | nil => exact congrArg Except.ok h
  | cons line rest ih =>
    have hrest : ∀ diagnostic ∈ StructureRule.deprecationsFrom (number + 1) rest,
        ∀ line, diagnostic.line = some line → hidden line = true :=
      fun diagnostic hd => hhidden diagnostic (List.mem_append_right _ hd)
    rw [changeLines]
    split
    · exact Outline.bind_congr_of_map_eq (Outline.State.step_congr_self h rfl)
        fun state other hstate => ih hstate hlines.tail inBlock hrest
    · rename_i hignorable
      have hcontent := Bool.eq_false_iff.mpr hignorable
      have hfirst : StructureRule.deprecationOn? line ≠ none → hidden number = true := by
        intro hentry
        obtain ⟨entry, hentry⟩ := Option.ne_none_iff_exists'.mp hentry
        refine hhidden (StructureRule.deprecationFinding number entry) ?_ number rfl
        rw [StructureRule.deprecationsFrom, hentry]
        exact List.mem_cons_self ..
      exact Outline.bind_congr_of_map_eq
        (Passed.step_eq h (hchange _ line) (Line.trim_ne_nil hcontent)
          (hlines.no_feed line (List.mem_cons_self ..))
          (hlines.no_tab line (List.mem_cons_self ..) hcontent) hfirst)
        fun state other hstate => ih hstate hlines.tail _ hrest

/-- What is left of a text after a pass can be read, as a tree that is the same up to outdated
    references. -/
theorem exists_load_changeLines {text : Text} {document : Document}
    (hload : Document.load text = .ok document) (hlines : Tabless (Text.lines text))
    (hhidden : ∀ diagnostic ∈ StructureRule.deprecationsFrom 1 (Text.lines text),
      ∀ line, diagnostic.line = some line → hidden line = true) :
    ∃ passed, Document.load (Text.joinLines (changeLines change false (Text.lines text))) =
        .ok passed ∧
      document.outline.tree.redact hidden = passed.outline.tree.redact hidden := by
  obtain ⟨outline, hparse, rfl⟩ := Document.load_eq_ok_iff.mp hload
  have hrun := run_changeLines hchange (Eq.refl (Outline.State.initial.redact hidden)) hlines false
    hhidden
  have hpassed := lines_joinLines_changeLines hchange hlines.no_feed (Text.lines_ne_nil text) false
  rw [Outline.parse] at hparse
  cases hstate : Outline.State.initial.run (Text.lines text) 1 with
  | error error =>
    rw [hstate] at hparse
    exact absurd hparse (by simp [Except.map])
  | ok state =>
    rw [hstate, Except.map, Except.ok.injEq] at hparse
    rw [hstate, Except.map] at hrun
    cases hother : Outline.State.initial.run (changeLines change false (Text.lines text)) 1 with
    | error error =>
      rw [hother] at hrun
      exact absurd hrun (by simp [Except.map])
    | ok other =>
      rw [hother, Except.map, Except.ok.injEq] at hrun
      refine ⟨⟨Text.joinLines (changeLines change false (Text.lines text)),
        changeLines change false (Text.lines text), ⟨other.tree, other.skipped⟩⟩, ?_, ?_⟩
      · rw [Document.load, Outline.parse, hpassed, hother]
        rfl
      · rw [← hparse]
        exact Outline.State.tree_eq_of_redact_eq hrun

end Change

/-! ### The whole document -/

/-- Whether some findings report an outdated action on a line. -/
def reportsDeprecation (findings : List Diagnostic) (number : Int) : Bool :=
  findings.any fun diagnostic =>
    diagnostic.ruleId == some StructureRule.deprecatedAction.id && diagnostic.line == some number

theorem reportsDeprecation_of_mem {document : Document}
    (hblank : Text.allBlank document.text = false) {diagnostic : Diagnostic}
    (hd : diagnostic ∈ StructureRule.deprecationsFrom 1 document.lines) {line : Int}
    (hline : diagnostic.line = some line) :
    reportsDeprecation (document.evaluate strict Rule.all).diagnostics line = true := by
  rw [reportsDeprecation, List.any_eq_true]
  refine ⟨diagnostic, ?_, ?_⟩
  · rw [Document.evaluate, hblank, if_neg Bool.false_ne_true, Evaluation.diagnostics,
      List.mem_append, List.mem_append]
    refine Or.inl (Or.inr (List.mem_flatMap.mpr ⟨.deprecatedAction, by decide, hd⟩))
  · rw [StructureRule.ruleId_of_mem_deprecationsFrom hd, hline, beq_self_eq_true, beq_self_eq_true]
    rfl

/-- The structure rules find after a pass what could not be fixed before. -/
theorem map_analyze_passed {document passed : Document}
    (hlines : ∀ line ∈ document.lines, '\n' ∉ line)
    (hpassed : passed.lines = passLines strict false document.lines)
    (htree : document.outline.tree.redact hidden = passed.outline.tree.redact hidden)
    (rules : List StructureRule) :
    (rules.flatMap fun rule => rule.analyze passed).map StructureRule.unplaced =
      ((rules.flatMap fun rule => rule.analyze document).filter
        fun diagnostic => !diagnostic.isFixable).map StructureRule.unplaced := by
  rw [List.filter_flatMap, List.map_flatMap, List.map_flatMap]
  refine congrArg List.flatten (List.map_congr_left fun rule _ => ?_)
  by_cases hrule : rule = .deprecatedAction
  · subst hrule
    have hnone : ∀ diagnostic ∈ StructureRule.deprecationsFrom 1 document.lines,
        diagnostic.isFixable = true := by
      intro diagnostic hd
      obtain ⟨line, entry, -, rfl⟩ := StructureRule.exists_of_mem_deprecationsFrom hd
      rfl
    rw [StructureRule.analyze, StructureRule.analyze, hpassed,
      passLines_eq_kept, deprecationsFrom_keptPassLine rfl strict false 1 hlines, List.map_nil, eq_comm, List.map_eq_nil_iff,
      List.filter_eq_nil_iff]
    intro diagnostic hd
    simp [hnone diagnostic hd]
  · have hkeep : (rule.analyze document).filter (fun diagnostic => !diagnostic.isFixable) =
        rule.analyze document :=
      List.filter_eq_self.mpr fun diagnostic hd => by
        simp [StructureRule.not_isFixable_analyze hrule hd]
    rw [hkeep]
    exact (StructureRule.map_analyze_congr hidden hrule htree).symm

theorem not_isFixable_eq_self {findings : List Diagnostic}
    (h : ∀ diagnostic ∈ findings, diagnostic.isFixable = false) :
    findings.filter (fun diagnostic => !diagnostic.isFixable) = findings :=
  List.filter_eq_self.mpr fun diagnostic hd => by simp [h diagnostic hd]

/-- A pass does not empty a text. -/
theorem allBlank_apply {text : Text} {document : Document}
    (hload : Document.load text = .ok document) (hblank : Text.allBlank text = false)
    (hlines : Tabless (Text.lines text)) :
    Text.allBlank (apply text (document.evaluate strict Rule.all).diagnostics) = false := by
  rw [apply_evaluate hload hblank, Text.allBlank_joinLines, allBlank_passLines strict hlines,
    ← Text.allBlank_joinLines, Text.joinLines_lines, hblank]

/-- The tree that is read after a pass. -/
theorem exists_parse_passed {text : Text} {document : Document}
    (hload : Document.load text = .ok document) (hblank : Text.allBlank text = false)
    (hlines : Tabless (Text.lines text)) :
    let findings := (document.evaluate strict Rule.all).diagnostics
    ∃ passed, Document.load (apply text findings) = .ok passed ∧
      document.outline.tree.redact (reportsDeprecation findings) =
        passed.outline.tree.redact (reportsDeprecation findings) := by
  intro findings
  have hhidden : ∀ diagnostic ∈ StructureRule.deprecationsFrom 1 (Text.lines text),
      ∀ line, diagnostic.line = some line → reportsDeprecation findings line = true := by
    obtain ⟨outline, -, rfl⟩ := Document.load_eq_ok_iff.mp hload
    exact fun diagnostic hd line hline => reportsDeprecation_of_mem strict hblank hd hline
  have happly : apply text findings = _ := apply_evaluate hload hblank strict
  rw [happly, passLines_eq]
  exact exists_load_changeLines (passed_passLine strict) hload hlines hhidden

/-- Where no line starts with a tab, blank lines and comments aside, a pass removes exactly the
    findings that can be fixed.  The text it leaves is read as a tree of the same shape, with
    the same keys and the same lines recorded, that differs only in strings from lines with an
    outdated action; and what is found there is what was found before and could not be fixed,
    in the same order and in all fields, the line of an unknown key at the root aside. -/
theorem pass_removes_fixable {text : Text} {document : Document}
    (hload : Document.load text = .ok document)
    (htabs : ∀ line ∈ Text.lines text, Line.isIgnorable line = false →
      Line.startsWithTab line = false) :
    let findings := (document.evaluate strict Rule.all).diagnostics
    ∃ passed, Document.load (apply text findings) = .ok passed ∧
      passed.outline.tree.redact (reportsDeprecation findings) =
        document.outline.tree.redact (reportsDeprecation findings) ∧
      (passed.evaluate strict Rule.all).diagnostics.map StructureRule.unplaced =
        (findings.filter fun diagnostic => !diagnostic.isFixable).map StructureRule.unplaced := by
  intro findings
  have hlines : Tabless (Text.lines text) :=
    ⟨fun line h => Text.not_mem_of_mem_lines h, htabs⟩
  cases hblank : Text.allBlank text with
  | true =>
    have hnone : ∀ diagnostic ∈ findings, diagnostic.isFixable = false := by
      intro diagnostic hd
      obtain ⟨outline, -, rfl⟩ := Document.load_eq_ok_iff.mp hload
      have hempty : findings = [Evaluation.emptyFinding] := by
        show (Document.evaluate _ strict Rule.all).diagnostics = _
        rw [Document.evaluate, if_pos hblank]
        rfl
      rw [hempty, List.mem_singleton] at hd
      rw [hd]
      rfl
    rw [apply_of_not_fixable hnone, not_isFixable_eq_self hnone]
    exact ⟨document, hload, rfl, rfl⟩
  | false =>
    obtain ⟨passed, hpassed, htree⟩ := exists_parse_passed strict hload hblank hlines
    refine ⟨passed, hpassed, htree.symm, ?_⟩
    have hblank' := allBlank_apply strict hload hblank hlines
    have hpass := lines_apply_evaluate hload hblank strict
    obtain ⟨outline, -, rfl⟩ := Document.load_eq_ok_iff.mp hload
    obtain ⟨outline', -, rfl⟩ := Document.load_eq_ok_iff.mp hpassed
    have hfindings : findings = _ := Document.diagnostics_evaluate hblank strict Rule.all
    have hcontent : (contentFindings strict (Rule.all.filterMap Rule.content?) 1
        (Text.lines text)).filter (fun diagnostic => !diagnostic.isFixable) =
          contentFindings strict (Rule.all.filterMap Rule.content?) 1 (Text.lines text) :=
      not_isFixable_eq_self fun diagnostic hd => not_isFixable_contentFindings hd
    rw [hfindings, Document.diagnostics_evaluate hblank', List.filter_append, List.filter_append,
      List.map_append, List.map_append, List.map_append, List.map_append, hcontent,
      map_analyze_passed strict hlines.no_feed hpass htree]
    simp only [hpass]
    rw [contentFindings_passLines strict hlines]
    exact congrArg (fun layout => layout.map StructureRule.unplaced ++ _ ++ _)
      (layoutFindings_passLines strict hlines false 1)

/-- What a pass leaves of a line with an unknown key and one with an outdated action. -/
theorem pass_removes_fixable_uses :
    let text : Text := "odd: 1 \nuses: actions/cache@v2"
    let document : Document :=
      ⟨text, ["odd: 1 ", "uses: actions/cache@v2"],
        .mapping [⟨"odd", some 1, .scalar (.int 1) (some 1)⟩,
          ⟨"uses", some 2, .scalar (.str "actions/cache@v2") (some 2)⟩] none, []⟩
    let findings := (document.evaluate true Rule.all).diagnostics
    Document.load text = .ok document ∧
      ∃ passed, Document.load "odd: 1\nuses: actions/cache@v4" = .ok passed ∧
        passed.outline.tree.redact (reportsDeprecation findings) =
          document.outline.tree.redact (reportsDeprecation findings) ∧
        (passed.evaluate true Rule.all).diagnostics.map StructureRule.unplaced =
          (findings.filter fun diagnostic => !diagnostic.isFixable).map StructureRule.unplaced := by
  intro text document findings
  have hload : Document.load text = .ok document := rfl
  have htabs : ∀ line ∈ Text.lines text, Line.isIgnorable line = false →
      Line.startsWithTab line = false := by decide
  have happly : apply text findings = "odd: 1\nuses: actions/cache@v4" := by decide +kernel
  refine ⟨hload, ?_⟩
  rw [← happly]
  exact pass_removes_fixable true hload htabs

end WorkflowLint.Fix
