/-
  WorkflowLint/Proofs/Fix/Kept.lean
  =================================
  **A pass with some of the fixes.**

  Where findings of some rules are dropped, a pass applies the fixes of the others.
  Each line is then changed by the corrections that are kept
  (`apply_filter_evaluate`), except that cutting off the end of a line always
  expands its start.  What a kept rule corrects does not come back, so nothing that
  is kept can be fixed afterwards (`not_isFixable_of_keptPass`).  With all rules kept
  this is the pass of `passLine`.
-/
import WorkflowLint.Proofs.Rule.Selection

namespace WorkflowLint.Fix

open LayoutRule (tabIndentation trailingWhitespace)

variable (kept : Text → Bool)

/-! ### One line -/

/-- A line as the layout rules that are kept correct it. -/
def keptLayoutLine (strict exempt : Bool) (line : Text) : Text :=
  if strict && !exempt && kept trailingWhitespace.id && Line.endsInIndent line then
    Line.trimTrailing (indentLine line)
  else if kept tabIndentation.id then indentLine line
  else line

/-- A line after a pass with the fixes that are kept. -/
def keptPassLine (strict exempt : Bool) (line : Text) : Text :=
  if kept StructureRule.deprecatedAction.id then
    updateLine line (keptLayoutLine kept strict exempt line)
  else keptLayoutLine kept strict exempt line

theorem passLine_eq_kept (strict exempt : Bool) (line : Text) :
    passLine strict exempt line = keptPassLine (fun _ => true) strict exempt line := by
  simp [passLine, layoutLine, keptPassLine, keptLayoutLine]

theorem laid_keptLayoutLine (strict exempt : Bool) (line : Text) :
    Laid line (keptLayoutLine kept strict exempt line) := by
  rw [keptLayoutLine]
  split
  · exact .trimmed
  · split
    · exact .indented
    · exact .same

theorem passed_keptPassLine (strict exempt : Bool) (line : Text) :
    Passed line (keptPassLine kept strict exempt line) := by
  refine ⟨_, laid_keptLayoutLine kept strict exempt line, ?_⟩
  rw [keptPassLine]
  split
  · exact Or.inr rfl
  · exact Or.inl rfl

section

variable {kept} {line : Text} (hne : Text.trim line ≠ [])

include hne

theorem startsWithTab_keptLayoutLine (hkept : kept tabIndentation.id = true)
    (strict exempt : Bool) :
    Line.startsWithTab (keptLayoutLine kept strict exempt line) = false := by
  rw [keptLayoutLine, hkept, if_pos rfl]
  split
  · rw [Line.startsWithTab_trimTrailing (trim_indentLine_ne_nil hne), startsWithTab_indentLine]
  · exact startsWithTab_indentLine line

theorem endsInIndent_keptLayoutLine (hkept : kept trailingWhitespace.id = true) :
    Line.endsInIndent (keptLayoutLine kept true false line) = false := by
  rw [keptLayoutLine, hkept]
  simp only [Bool.not_false, Bool.and_self, Bool.true_and]
  split
  · exact Line.endsInIndent_trimTrailing _
  · rename_i hend
    rw [Bool.not_eq_true] at hend
    split
    · rw [endsInIndent_indentLine hne, hend]
    · exact hend

variable (hline : '\n' ∉ line)

include hline

theorem blur_keptPassLine (kept : Text → Bool) (strict exempt : Bool) :
    Text.blur (keptPassLine kept strict exempt line) =
      Text.blur (keptLayoutLine kept strict exempt line) := by
  rw [keptPassLine]
  split
  · exact (laid_keptLayoutLine kept strict exempt line).blur_updateLine hne hline
  · rfl

theorem startsWithTab_keptPassLine (hkept : kept tabIndentation.id = true)
    (strict exempt : Bool) :
    Line.startsWithTab (keptPassLine kept strict exempt line) = false := by
  rw [← Line.startsWithTab_blur, blur_keptPassLine hne hline, Line.startsWithTab_blur,
    startsWithTab_keptLayoutLine hne hkept]

theorem endsInIndent_keptPassLine (hkept : kept trailingWhitespace.id = true) :
    Line.endsInIndent (keptPassLine kept true false line) = false := by
  rw [← Line.endsInIndent_blur, blur_keptPassLine hne hline, Line.endsInIndent_blur,
    endsInIndent_keptLayoutLine hne hkept]

theorem startsWithTab_passLine (strict exempt : Bool) :
    Line.startsWithTab (passLine strict exempt line) = false := by
  rw [passLine_eq_kept]
  exact startsWithTab_keptPassLine hne hline rfl strict exempt

theorem endsInIndent_passLine : Line.endsInIndent (passLine true false line) = false := by
  rw [passLine_eq_kept]
  exact endsInIndent_keptPassLine hne hline rfl

theorem deprecationOn?_keptPassLine (hkept : kept StructureRule.deprecatedAction.id = true)
    (strict exempt : Bool) :
    StructureRule.deprecationOn? (keptPassLine kept strict exempt line) = none := by
  rw [keptPassLine, if_pos hkept]
  exact (laid_keptLayoutLine kept strict exempt line).deprecationOn?_updateLine hne hline

end

/-! ### The pass -/

/-- The findings of the layout rules on a line that are kept change it as `keptLayoutLine`
    says. -/
theorem amendLine_filter_checkAll (strict exempt : Bool) (number : Int) (line : Text)
    (following : List Text) :
    amendLine ((LayoutRule.checkAll (layoutRulesFor layoutRules exempt)
      ⟨line, number, following, strict, line⟩).filter (Diagnostic.comesFrom kept)) number line =
        keptLayoutLine kept strict exempt line := by
  have hcheck (rule : LayoutRule) {view : LineView} (hview : view.number = number) (text : Text) :
      amendLine ((rule.check view).filter (Diagnostic.comesFrom kept)) number text =
        if kept rule.id then (rule.correct? view).getD text else text := by
    rw [LayoutRule.filter_check]
    split
    · rw [← hview]
      exact rule.amendLine_check view text
    · rfl
  have htab : (tabIndentation.correct? ⟨line, number, following, strict, line⟩).getD line =
      indentLine line := by
    rw [LayoutRule.correct?, LayoutRule.objects, indentLine]
    cases Line.startsWithTab line <;> rfl
  have htrailing (text : Text) : (trailingWhitespace.correct?
      (tabIndentation.advance ⟨line, number, following, strict, line⟩)).getD text =
        if strict && Line.endsInIndent line then Line.trimTrailing (indentLine line) else text := by
    rw [LayoutRule.advance_tabIndentation rfl, LayoutRule.correct?, LayoutRule.objects]
    simp only
    split <;> rfl
  rw [LayoutRule.checkAll_layoutRules, List.filter_append, amendLine_append, hcheck _ rfl, htab]
  cases exempt with
  | true => simp [keptLayoutLine, amendLine]
  | false =>
    have hcolon : LayoutRule.doubleColon.correct? ⟨line, number, following, strict, line⟩ = none := by
      rw [LayoutRule.correct?, LayoutRule.correction?, Option.map_none, ite_self]
    rw [if_neg Bool.false_ne_true, List.filter_append, amendLine_append, hcheck _ rfl, hcolon,
      Option.getD_none, ite_self, hcheck _ rfl, htrailing, keptLayoutLine]
    cases kept trailingWhitespace.id <;> simp

theorem amendLines_filter_layoutFindings (strict inBlock : Bool) (number : Int)
    (lines : List Text) :
    amendLines ((layoutFindings strict layoutRules number inBlock lines).filter
        (Diagnostic.comesFrom kept)) number lines =
      changeLines (keptLayoutLine kept strict) inBlock lines := by
  induction lines generalizing number inBlock with
  | nil => rfl
  | cons line rest ih =>
    have hlater (inBlock : Bool) (diagnostic : Diagnostic)
        (h : diagnostic ∈ (layoutFindings strict layoutRules (number + 1) inBlock rest).filter
          (Diagnostic.comesFrom kept)) := le_of_mem_layoutFindings (List.mem_filter.mp h).1
    rw [layoutFindings, changeLines]
    split
    · have hnone : ∀ diagnostic ∈ ([] : List Diagnostic), diagnostic.line = some number :=
        fun diagnostic h => absurd h List.not_mem_nil
      have hcons := amendLines_cons hnone (hlater inBlock) line rest
      rw [List.nil_append] at hcons
      rw [hcons, ih]
      rfl
    · rw [List.filter_append, amendLines_cons
        (fun diagnostic h => LayoutRule.line_of_mem_checkAll (List.mem_filter.mp h).1) (hlater _),
        amendLine_filter_checkAll, ih]

/-- Of the findings that are kept, only those about the layout of lines and about outdated actions
    change lines. -/
theorem amendLine_filter_evaluate (strict : Bool) (document : Document)
    (hblank : Text.allBlank document.text = false) (number : Int) :
    amendLine ((document.evaluate strict Rule.all).diagnostics.filter
        (Diagnostic.comesFrom kept)) number =
      amendLine ((layoutFindings strict layoutRules 1 false document.lines).filter
          (Diagnostic.comesFrom kept)
        ++ (StructureRule.deprecationsFrom 1 document.lines).filter
          (Diagnostic.comesFrom kept)) number := by
  funext line
  have hanalyze (rule : StructureRule) (hrule : rule ≠ .deprecatedAction) (line : Text) :
      amendLine ((rule.analyze document).filter (Diagnostic.comesFrom kept)) number line = line :=
    amendLine_of_not_concerns (fun diagnostic h => not_concerns_of_not_isFixable
      (StructureRule.not_isFixable_analyze hrule (List.mem_filter.mp h).1) number) line
  have hcontent (line : Text) : amendLine ((contentFindings strict
      (Rule.all.filterMap Rule.content?) 1 document.lines).filter
        (Diagnostic.comesFrom kept)) number line = line :=
    amendLine_of_not_concerns (fun diagnostic h => not_concerns_of_not_isFixable
      (not_isFixable_contentFindings (List.mem_filter.mp h).1) number) line
  have hrules : Rule.all.filterMap Rule.document? =
      [.missingTrigger, .missingJobs, .unknownTopLevelKey, .deprecatedAction, .unknownJobKey,
        .missingRunsOn, .unknownStepKey] := rfl
  rw [Document.diagnostics_evaluate hblank, hrules]
  simp only [List.flatMap_cons, List.flatMap_nil, List.filter_append, amendLine_append, hcontent,
    List.append_nil]
  rw [hanalyze .missingTrigger (by decide), hanalyze .missingJobs (by decide),
    hanalyze .unknownTopLevelKey (by decide), hanalyze .unknownJobKey (by decide),
    hanalyze .missingRunsOn (by decide), hanalyze .unknownStepKey (by decide)]
  rfl

theorem amendLines_nil (number : Int) (lines : List Text) : amendLines [] number lines = lines := by
  induction lines generalizing number with
  | nil => rfl
  | cons line rest ih => exact congrArg (line :: ·) (ih _)

/-- A pass with the fixes that are kept changes each line as `keptPassLine` says. -/
theorem apply_filter_evaluate {text : Text} {document : Document}
    (hload : Document.load text = .ok document) (hblank : Text.allBlank text = false)
    (strict : Bool) :
    apply text ((document.evaluate strict Rule.all).diagnostics.filter
        (Diagnostic.comesFrom kept)) =
      Text.joinLines (changeLines (keptPassLine kept strict) false (Text.lines text)) := by
  obtain ⟨outline, -, rfl⟩ := Document.load_eq_ok_iff.mp hload
  rw [apply_eq, amendLines_congr fun number _ =>
    amendLine_filter_evaluate kept strict _ hblank number, amendLines_append]
  simp only
  rw [amendLines_filter_layoutFindings,
    filter_comesFrom_eq fun _ h => StructureRule.ruleId_of_mem_deprecationsFrom h]
  congr 1
  by_cases hkept : kept StructureRule.deprecatedAction.id = true
  · have hpass : keptPassLine kept strict =
        fun exempt line => updateLine line (keptLayoutLine kept strict exempt line) := by
      funext exempt line
      rw [keptPassLine, if_pos hkept]
    rw [if_pos hkept, amendLines_deprecationsFrom _ _ _ (length_changeLines ..),
      zipWith_updateLine, hpass]
  · have hpass : keptPassLine kept strict = keptLayoutLine kept strict := by
      funext exempt line
      rw [keptPassLine, if_neg hkept]
    rw [if_neg hkept, amendLines_nil, hpass]

/-! ### Lines after a pass -/

section

variable {kept} {change : Bool → Text → Text} (hchange : ∀ exempt line, Passed line (change exempt line))
  {lines : List Text} (hlines : ∀ line ∈ lines, '\n' ∉ line)

include hchange hlines

/-- A pass adds no characters but spaces and version digits. -/
theorem not_mem_changeLines {c : Char} (hc : c ≠ ' ' ∧ c ∉ Text.versionDigits)
    (hmem : ∀ line ∈ lines, c ∉ line) (inBlock : Bool) :
    ∀ passed ∈ changeLines change inBlock lines, c ∉ passed := by
  induction lines generalizing inBlock with
  | nil => exact fun passed h => absurd h List.not_mem_nil
  | cons line rest ih =>
    have hrest := ih (fun other hother => hlines other (List.mem_cons_of_mem _ hother))
      (fun other hother => hmem other (List.mem_cons_of_mem _ hother))
    intro passed h
    rw [changeLines] at h
    split at h
    · rcases List.mem_cons.mp h with rfl | h
      · exact hmem _ (List.mem_cons_self ..)
      · exact hrest inBlock passed h
    · rename_i hignorable
      rcases List.mem_cons.mp h with rfl | h
      · exact (hchange _ line).not_mem (Line.trim_ne_nil (Bool.eq_false_iff.mpr hignorable))
          (hlines line (List.mem_cons_self ..)) hc (hmem line (List.mem_cons_self ..))
      · exact hrest _ passed h

/-- A first character that is neither indentation nor a version digit was the first before. -/
theorem head?_joinLines_changeLines {c : Char}
    (hc : Text.isIndent c = false ∧ c ∉ Text.versionDigits) (hfeed : c ≠ '\n') (inBlock : Bool)
    (h : (Text.joinLines (changeLines change inBlock lines)).head? = some c) :
    (Text.joinLines lines).head? = some c := by
  cases lines with
  | nil => exact h
  | cons line rest =>
    rw [changeLines] at h
    split at h
    · exact (Text.head?_joinLines_cons hfeed ..).mpr ((Text.head?_joinLines_cons hfeed ..).mp h)
    · rename_i hignorable
      rw [Text.head?_joinLines_cons hfeed] at h ⊢
      exact (hchange _ line).head?_eq (Line.trim_ne_nil (Bool.eq_false_iff.mpr hignorable))
        (hlines line (List.mem_cons_self ..)) hc h

/-- The lines of the text that a pass leaves. -/
theorem lines_joinLines_changeLines (hne : lines ≠ []) (inBlock : Bool) :
    Text.lines (Text.joinLines (changeLines change inBlock lines)) =
      changeLines change inBlock lines := by
  apply Text.lines_joinLines
  · intro hnil
    have hlength := congrArg List.length hnil
    rw [length_changeLines, List.length_nil, List.length_eq_zero_iff] at hlength
    exact hne hlength
  · exact not_mem_changeLines hchange hlines ⟨by decide, by decide⟩ hlines inBlock

/-- The layout rules look after a pass at the lines that they looked at before, with the same
    lines exempt. -/
theorem exists_of_mem_layoutFindings {strict inBlock : Bool} {number : Int}
    {diagnostic : Diagnostic} (hd : diagnostic ∈ layoutFindings strict layoutRules number inBlock
      (changeLines change inBlock lines)) :
    ∃ line ∈ lines, Text.trim line ≠ [] ∧ ∃ exempt number following, diagnostic ∈
      LayoutRule.checkAll (layoutRulesFor layoutRules exempt)
        ⟨change exempt line, number, following, strict, change exempt line⟩ := by
  induction lines generalizing inBlock number with
  | nil => exact absurd hd List.not_mem_nil
  | cons line rest ih =>
    have hrest : ∀ other ∈ rest, '\n' ∉ other :=
      fun other hother => hlines other (List.mem_cons_of_mem _ hother)
    rw [changeLines] at hd
    split at hd
    · rename_i hignorable
      rw [layoutFindings, if_pos hignorable] at hd
      obtain ⟨other, hother, hfound⟩ := ih hrest hd
      exact ⟨other, List.mem_cons_of_mem _ hother, hfound⟩
    · rename_i hignorable
      have hne := Line.trim_ne_nil (Bool.eq_false_iff.mpr hignorable)
      have hline := hlines line (List.mem_cons_self ..)
      have hpassed := hchange (inBlockAfter inBlock line) line
      rw [layoutFindings, hpassed.isIgnorable_eq hne hline, if_neg hignorable,
        hpassed.inBlockAfter_eq hne hline, List.mem_append] at hd
      rcases hd with hd | hd
      · exact ⟨line, List.mem_cons_self .., hne, _, _, _, hd⟩
      · obtain ⟨other, hother, hfound⟩ := ih hrest hd
        exact ⟨other, List.mem_cons_of_mem _ hother, hfound⟩

end

variable {kept}

/-- What a kept rule corrects on a line does not come back. -/
theorem not_isFixable_checkAll_keptPassLine {strict exempt : Bool} {line : Text}
    (hne : Text.trim line ≠ []) (hline : '\n' ∉ line) {number : Int} {following : List Text}
    {diagnostic : Diagnostic} (hkept : diagnostic.comesFrom kept = true)
    (hd : diagnostic ∈ LayoutRule.checkAll (layoutRulesFor layoutRules exempt)
      ⟨keptPassLine kept strict exempt line, number, following, strict,
        keptPassLine kept strict exempt line⟩) :
    diagnostic.isFixable = false := by
  have hrule {rule : LayoutRule} {view : LineView} (hd : diagnostic ∈ rule.check view) :
      kept rule.id = true := by
    rwa [Diagnostic.comesFrom, LayoutRule.ruleId_of_mem_check hd] at hkept
  have hnone {rule : LayoutRule} {view : LineView} (hd : diagnostic ∈ rule.check view)
      (hobjects : rule.objects view = false) : diagnostic.isFixable = false := by
    rw [LayoutRule.check_eq_nil hobjects] at hd
    cases hd
  rw [LayoutRule.checkAll_layoutRules, List.mem_append] at hd
  rcases hd with hd | hd
  · exact hnone hd (startsWithTab_keptPassLine hne hline (hrule hd) strict exempt)
  · cases exempt with
    | true => cases hd
    | false =>
      rw [if_neg Bool.false_ne_true, List.mem_append] at hd
      rcases hd with hd | hd
      · refine hnone hd ?_
        cases strict with
        | false => rfl
        | true => exact endsInIndent_keptPassLine hne hline (hrule hd)
      · rw [Diagnostic.isFixable, (LayoutRule.objects_of_mem_check hd).2]
        simp [LayoutRule.correction?]

/-- After a pass with the fixes that are kept, no line has an outdated reference that is to be
    replaced. -/
theorem deprecationsFrom_keptPassLine (hkept : kept StructureRule.deprecatedAction.id = true)
    (strict inBlock : Bool) (number : Int) {lines : List Text}
    (hlines : ∀ line ∈ lines, '\n' ∉ line) :
    StructureRule.deprecationsFrom number (changeLines (keptPassLine kept strict) inBlock lines) =
      [] := by
  induction lines generalizing inBlock number with
  | nil => rfl
  | cons line rest ih =>
    have hrest : ∀ other ∈ rest, '\n' ∉ other :=
      fun other hother => hlines other (List.mem_cons_of_mem _ hother)
    rw [changeLines]
    split
    · rename_i hignorable
      rw [StructureRule.deprecationsFrom, deprecationOn?_of_isIgnorable hignorable, ih _ _ hrest]
      rfl
    · rename_i hignorable
      have hne := Line.trim_ne_nil (Bool.eq_false_iff.mpr hignorable)
      rw [StructureRule.deprecationsFrom, deprecationOn?_keptPassLine hne
        (hlines line (List.mem_cons_self ..)) hkept, ih _ _ hrest]
      rfl

/-! ### The text after a pass -/

/-- That a text is empty cannot be fixed. -/
theorem not_isFixable_of_allBlank {document : Document}
    (hblank : Text.allBlank document.text = true) {strict : Bool} {rules : List Rule} :
    ∀ diagnostic ∈ (document.evaluate strict rules).diagnostics, diagnostic.isFixable = false := by
  intro diagnostic hd
  rw [Document.evaluate, if_pos hblank, Evaluation.diagnostics, List.mem_singleton] at hd
  rw [hd]
  rfl

/-- A pass with the fixes that are kept leaves nothing to fix that is kept. -/
theorem not_isFixable_of_keptPass {text : Text} {strict : Bool} {document passed : Document}
    (hload : Document.load text = .ok document)
    (hpassed : Document.load (apply text ((document.evaluate strict Rule.all).diagnostics.filter
      (Diagnostic.comesFrom kept))) = .ok passed) {diagnostic : Diagnostic}
    (hd : diagnostic ∈ (passed.evaluate strict Rule.all).diagnostics)
    (hkept : diagnostic.comesFrom kept = true) : diagnostic.isFixable = false := by
  cases hblank : Text.allBlank text with
  | true =>
    obtain ⟨outline, -, rfl⟩ := Document.load_eq_ok_iff.mp hload
    rw [apply_of_not_fixable (fun diagnostic hd =>
      not_isFixable_of_allBlank hblank diagnostic (List.mem_filter.mp hd).1), hload] at hpassed
    cases hpassed
    exact not_isFixable_of_allBlank hblank diagnostic hd
  | false =>
    have hlines : ∀ line ∈ Text.lines text, '\n' ∉ line :=
      fun line h => Text.not_mem_of_mem_lines h
    rw [apply_filter_evaluate kept hload hblank] at hpassed
    obtain ⟨outline, -, rfl⟩ := Document.load_eq_ok_iff.mp hpassed
    rw [Document.evaluate] at hd
    split at hd
    · rw [Evaluation.diagnostics, List.mem_singleton] at hd
      rw [hd]
      rfl
    · simp only [Evaluation.diagnostics, List.mem_append, lines_joinLines_changeLines
        (passed_keptPassLine kept strict) hlines (Text.lines_ne_nil text)] at hd
      rcases hd with (hd | hd) | hd
      · obtain ⟨line, hline, hne, exempt, number, following, hd⟩ :=
          exists_of_mem_layoutFindings (passed_keptPassLine kept strict) hlines hd
        exact not_isFixable_checkAll_keptPassLine hne (hlines line hline) hkept hd
      · obtain ⟨rule, -, hd⟩ := List.mem_flatMap.mp hd
        by_cases hrule : rule = .deprecatedAction
        · subst hrule
          rw [StructureRule.analyze] at hd
          have hrule : kept StructureRule.deprecatedAction.id = true := by
            rwa [Diagnostic.comesFrom, StructureRule.ruleId_of_mem_deprecationsFrom hd] at hkept
          simp only [deprecationsFrom_keptPassLine hrule strict false 1 hlines] at hd
          cases hd
        · exact StructureRule.not_isFixable_analyze hrule hd
      · exact not_isFixable_contentFindings hd

end WorkflowLint.Fix
