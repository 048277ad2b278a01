/-
  WorkflowLint/Proofs/Fix/Compose.lean
  ====================================
  **The fixes of a line compose.**

  The fixes for one line are found before any of them is made, and the fix for its
  layout replaces the whole line.  Still none undoes another: each line of a fixed
  text is the line before with its tabs expanded, its end trimmed and its reference
  replaced, each where a finding asks for it (`Composed`), and no fix is skipped
  (`apply_evaluate_composed`).
-/
import WorkflowLint.Proofs.Fix.Fixpoint
import WorkflowLint.Proofs.Fix.Log
import WorkflowLint.Proofs.Rule.Ignored
import WorkflowLint.Proofs.Rule.WellFormed

namespace WorkflowLint.Fix

open LayoutRule (tabIndentation trailingWhitespace doubleColon)
open StructureRule (deprecatedAction deprecationOn? deprecationFinding deprecationsFrom)

/-! ### What the findings on a line ask for -/

/-- Whether a finding of a rule is on line `number`. -/
def carries (findings : List Diagnostic) (ruleId : Text) (number : Int) : Bool :=
  findings.any fun finding => finding.line == some number && finding.ruleId == some ruleId

/-- Line `number` with its layout corrected as findings ask for. -/
def laidOut (findings : List Diagnostic) (number : Int) (line : Text) : Text :=
  let indented :=
    if carries findings tabIndentation.id number then Line.expandLeadingTabs line else line
  if carries findings trailingWhitespace.id number then Line.trimTrailing indented else indented

/-- Line `number` and what becomes of it: its layout is corrected, and where a finding says that its
    reference is outdated, another stands in its place. -/
structure Composed (findings : List Diagnostic) (number : Int) (line fixed : Text) : Prop where
  current : carries findings deprecatedAction.id number = false →
    fixed = laidOut findings number line
  outdated : carries findings deprecatedAction.id number = true →
    ∃ entry ∈ Catalog.deprecations, ∃ uses : Line.UsesLine,
      Line.usesReference? line = some entry.outdated ∧
        laidOut findings number line = uses.line entry.outdated ∧
        fixed = uses.line entry.replacement

/-- The findings on line `number`. -/
def foundOn (number : Int) (findings : List Diagnostic) : List Diagnostic :=
  findings.filter fun finding => finding.line == some number

variable {findings front back : List Diagnostic} {finding : Diagnostic} {number : Int}
  {ruleId line : Text}

theorem carries_eq_any (findings : List Diagnostic) (ruleId : Text) (number : Int) :
    carries findings ruleId number =
      (foundOn number findings).any fun finding => finding.ruleId == some ruleId := by
  rw [carries, foundOn, List.any_filter]

/-- Only findings of the rule matter to whether one is there. -/
theorem carries_congr
    (h : ∀ finding : Diagnostic, finding.ruleId = some ruleId →
      (finding ∈ front ↔ finding ∈ back)) (number : Int) :
    carries front ruleId number = carries back ruleId number := by
  rw [Bool.eq_iff_iff, carries, carries, List.any_eq_true, List.any_eq_true]
  refine exists_congr fun finding => ?_
  rw [Bool.and_eq_true, beq_iff_eq, beq_iff_eq]
  constructor
  · rintro ⟨hmem, hline, hrule⟩
    exact ⟨(h finding hrule).mp hmem, hline, hrule⟩
  · rintro ⟨hmem, hline, hrule⟩
    exact ⟨(h finding hrule).mpr hmem, hline, hrule⟩

theorem foundOn_append (number : Int) (front back : List Diagnostic) :
    foundOn number (front ++ back) = foundOn number front ++ foundOn number back :=
  List.filter_append ..

theorem foundOn_self (h : ∀ finding ∈ findings, finding.line = some number) :
    foundOn number findings = findings :=
  List.filter_eq_self.mpr fun finding hfinding => beq_iff_eq.mpr (h finding hfinding)

theorem foundOn_eq_nil
    (h : ∀ finding ∈ findings, ∃ line, finding.line = some line ∧ line ≠ number) :
    foundOn number findings = [] := by
  refine List.filter_eq_nil_iff.mpr fun finding hfinding => ?_
  obtain ⟨line, hline, hne⟩ := h finding hfinding
  rw [hline, beq_iff_eq, Option.some_inj]
  exact hne

theorem filter_concerns (number : Int) (findings : List Diagnostic) :
    findings.filter (concerns number) =
      (foundOn number findings).filter Diagnostic.isFixable := by
  rw [foundOn, List.filter_filter]
  rfl

/-! ### Line by line -/

/-- The findings of the layout rules on one line, and the line after a pass. -/
theorem layout_at (strict inBlock : Bool) (first : Int) {lines : List Text} {index : Nat}
    (hline : lines[index]? = some line) :
    (Line.isIgnorable line = true ∧
      foundOn (first + index) (layoutFindings strict layoutRules first inBlock lines) = [] ∧
      (passLines strict inBlock lines)[index]? = some line) ∨
    ∃ exempt following, Line.isIgnorable line = false ∧
      foundOn (first + index) (layoutFindings strict layoutRules first inBlock lines) =
        LayoutRule.checkAll (layoutRulesFor layoutRules exempt)
          ⟨line, first + index, following, strict, line⟩ ∧
      (passLines strict inBlock lines)[index]? = some (passLine strict exempt line) := by
  induction lines generalizing first inBlock index with
  | nil => cases hline
  | cons head rest ih =>
    have hlater (inBlock : Bool) {number : Int} (hle : number ≤ first) :
        foundOn number (layoutFindings strict layoutRules (first + 1) inBlock rest) = [] := by
      refine foundOn_eq_nil fun finding hfinding => ?_
      obtain ⟨found, hfound, hlt⟩ := le_of_mem_layoutFindings hfinding
      exact ⟨found, hfound, by omega⟩
    rw [layoutFindings, passLines]
    cases index with
    | zero =>
      obtain rfl : head = line := Option.some_inj.mp hline
      rw [Int.natCast_zero, Int.add_zero]
      split
      · rename_i hignorable
        exact Or.inl ⟨hignorable, hlater _ (Int.le_refl _), rfl⟩
      · rename_i hignorable
        refine Or.inr ⟨_, rest, Bool.eq_false_iff.mpr hignorable, ?_, rfl⟩
        rw [foundOn_append, hlater _ (Int.le_refl _), List.append_nil]
        exact foundOn_self fun finding => LayoutRule.line_of_mem_checkAll
    | succ index =>
      have hnumber : first + ((index + 1 : Nat) : Int) = first + 1 + index := by omega
      rw [hnumber]
      split
      · exact ih _ _ hline
      · rw [foundOn_append, foundOn_eq_nil fun finding hfinding =>
          ⟨first, LayoutRule.line_of_mem_checkAll hfinding, by omega⟩, List.nil_append]
        exact ih _ _ hline

/-- The finding about the reference on one line. -/
theorem foundOn_deprecationsFrom {first : Int} {lines : List Text} {index : Nat}
    (hline : lines[index]? = some line) :
    foundOn (first + index) (deprecationsFrom first lines) =
      ((deprecationOn? line).map (deprecationFinding (first + index))).toList := by
  induction lines generalizing first index with
  | nil => cases hline
  | cons head rest ih =>
    have hhere : ∀ finding ∈ ((deprecationOn? head).map (deprecationFinding first)).toList,
        finding.line = some first := by
      intro finding hfinding
      obtain ⟨entry, -, rfl⟩ := Option.map_eq_some_iff.mp (Option.mem_toList.mp hfinding)
      rfl
    rw [deprecationsFrom, foundOn_append]
    cases index with
    | zero =>
      obtain rfl : head = line := Option.some_inj.mp hline
      rw [Int.natCast_zero, Int.add_zero, foundOn_self hhere, foundOn_eq_nil, List.append_nil]
      intro finding hfinding
      obtain ⟨found, hfound, hle⟩ := StructureRule.le_of_mem_deprecationsFrom hfinding
      exact ⟨found, hfound, by omega⟩
    | succ index =>
      have hnumber : first + ((index + 1 : Nat) : Int) = first + 1 + index := by omega
      rw [hnumber, foundOn_eq_nil fun finding hfinding =>
        ⟨first, hhere finding hfinding, by omega⟩, List.nil_append, ih hline]

/-- A layout rule finds what it objects to. -/
theorem any_check (rule other : LayoutRule) (view : LineView) :
    ((rule.check view).any fun finding => finding.ruleId == some other.id) =
      (rule.objects view && decide (rule = other)) := by
  have hid : rule.id = other.id ↔ rule = other := by
    cases rule <;> cases other <;> decide
  rw [LayoutRule.check]
  split
  · rename_i hobjects
    rw [hobjects, List.any_cons, List.any_nil, Bool.or_false, Bool.true_and, Bool.eq_iff_iff,
      beq_iff_eq, decide_eq_true_iff, Option.some_inj, hid]
  · rename_i hobjects
    rw [Bool.eq_false_iff.mpr hobjects]
    rfl

/-- What the layout rules find on a line is what they correct on it. -/
theorem laidOut_checkAll {strict exempt : Bool} {first : Int} {following : List Text}
    (hfound : foundOn first findings = LayoutRule.checkAll (layoutRulesFor layoutRules exempt)
      ⟨line, first, following, strict, line⟩) :
    laidOut findings first line = layoutLine strict exempt line := by
  have htab : carries findings tabIndentation.id first = Line.startsWithTab line := by
    rw [carries_eq_any, hfound, LayoutRule.checkAll_layoutRules, List.any_append, any_check]
    cases exempt <;> simp [any_check, LayoutRule.objects]
  have htrailing : carries findings trailingWhitespace.id first =
      (strict && !exempt && Line.endsInIndent line) := by
    rw [carries_eq_any, hfound, LayoutRule.checkAll_layoutRules, List.any_append, any_check]
    cases exempt <;> simp [any_check, LayoutRule.objects, LayoutRule.advance]
  rw [laidOut, layoutLine, indentLine, htab, htrailing]

/-! ### Fixes that can be made -/

theorem takes_append {line : Text} :
    Takes line (front ++ back) ↔ Takes line front ∧ Takes (front.foldl amend line) back := by
  induction front generalizing line with
  | nil => simp [Takes]
  | cons finding rest ih =>
    simp only [List.cons_append, Takes, List.foldl_cons]
    constructor
    · rintro ⟨fix, text, hfix, htext, hlater⟩
      have hamend : amend line finding = text := by simp [amend, hfix, htext]
      rw [hamend]
      exact ⟨⟨fix, text, hfix, htext, (ih.mp hlater).1⟩, (ih.mp hlater).2⟩
    · rintro ⟨⟨fix, text, hfix, htext, hrest⟩, hback⟩
      have hamend : amend line finding = text := by simp [amend, hfix, htext]
      rw [hamend] at hback
      exact ⟨fix, text, hfix, htext, ih.mpr ⟨hrest, hback⟩⟩

/-- A fix for a whole line can be made on every line. -/
theorem takes_of_target_eq_none
    (h : ∀ finding ∈ findings, finding.isFixable = true ∧ finding.target = none) (line : Text) :
    Takes line findings := by
  induction findings generalizing line with
  | nil => trivial
  | cons finding rest ih =>
    obtain ⟨hfixable, htarget⟩ := h finding (List.mem_cons_self ..)
    rw [Diagnostic.isFixable, Bool.and_eq_true] at hfixable
    obtain ⟨fix, hfix⟩ := Option.isSome_iff_exists.mp hfixable.2
    have hrest := ih (fun other hother => h other (List.mem_cons_of_mem _ hother)) fix
    refine ⟨fix, fix, hfix, ?_, hrest⟩
    rw [onLine?, target?, htarget]
    rfl

theorem target_of_mem_checkAll {rules : List LayoutRule} {view : LineView}
    (h : finding ∈ LayoutRule.checkAll rules view) : finding.target = none := by
  obtain ⟨rule, other, h⟩ := LayoutRule.exists_of_mem_checkAll h
  rw [LayoutRule.check] at h
  split at h
  · rw [List.mem_singleton.mp h]
  · exact absurd h List.not_mem_nil

/-- What the fixes of the layout rules make of a line. -/
theorem foldl_amend_checkAll (strict exempt : Bool) (number : Int) (line : Text)
    (following : List Text) :
    ((LayoutRule.checkAll (layoutRulesFor layoutRules exempt)
      ⟨line, number, following, strict, line⟩).filter Diagnostic.isFixable).foldl amend line =
        layoutLine strict exempt line := by
  have hself : foundOn number (LayoutRule.checkAll (layoutRulesFor layoutRules exempt)
      ⟨line, number, following, strict, line⟩) = _ :=
    foundOn_self fun _ => LayoutRule.line_of_mem_checkAll
  have hkept := amendLine_filter_checkAll (fun _ => true) strict exempt number line following
  rw [filter_comesFrom_all, amendLine, filter_concerns, hself] at hkept
  rw [hkept]
  simp [keptLayoutLine, layoutLine]

/-- The replacement of a reference can be made on a line that uses it. -/
theorem takes_deprecationFinding {entry : Catalog.Deprecation} (hknown : Catalog.Known entry)
    (uses : Line.UsesLine) (number : Int) :
    Takes (uses.line entry.outdated) [deprecationFinding number entry] := by
  have htarget : target? (deprecationFinding number entry) = some entry.outdated := by
    obtain ⟨rest, hrest⟩ := hknown.exists_outdated
    simp [target?, deprecationFinding, hrest]
  refine ⟨entry.replacement,
    Text.replaceFirst entry.outdated entry.replacement (uses.line entry.outdated), rfl, ?_, trivial⟩
  rw [onLine?, htarget]
  exact if_pos (uses.hasPart_line entry.outdated)

/-! ### Stage by stage -/

section

variable {document : Document} {strict : Bool}

/-- Of the structure rules, only the one on outdated actions matters to fixes. -/
theorem filter_structure {p : Diagnostic → Bool}
    (h : ∀ rule : StructureRule, rule ≠ .deprecatedAction →
      ∀ finding ∈ rule.analyze document, p finding = false) :
    ((Rule.all.filterMap Rule.document?).flatMap fun rule => rule.analyze document).filter p =
      (deprecationsFrom 1 document.lines).filter p := by
  have hnone (rule : StructureRule) (hrule : rule ≠ .deprecatedAction) :
      (rule.analyze document).filter p = [] :=
    List.filter_eq_nil_iff.mpr fun finding hfinding => by simp [h rule hrule finding hfinding]
  have hrules : Rule.all.filterMap Rule.document? =
      [.missingTrigger, .missingJobs, .unknownTopLevelKey, .deprecatedAction, .unknownJobKey,
        .missingRunsOn, .unknownStepKey] := rfl
  rw [hrules]
  simp only [List.flatMap_cons, List.flatMap_nil, List.filter_append, List.append_nil]
  rw [hnone .missingTrigger (by decide), hnone .missingJobs (by decide),
    hnone .unknownTopLevelKey (by decide), hnone .unknownJobKey (by decide),
    hnone .missingRunsOn (by decide), hnone .unknownStepKey (by decide)]
  exact List.append_nil _

variable (hblank : Text.allBlank document.text = false)

include hblank

/-- The fixes for a line come from the layout rules and from the rule on outdated actions. -/
theorem filter_concerns_evaluate (number : Int) :
    (document.evaluate strict Rule.all).diagnostics.filter (concerns number) =
      (layoutFindings strict layoutRules 1 false document.lines).filter (concerns number) ++
        (deprecationsFrom 1 document.lines).filter (concerns number) := by
  have hcontent : (contentFindings strict (Rule.all.filterMap Rule.content?) 1
      document.lines).filter (concerns number) = [] := by
    refine List.filter_eq_nil_iff.mpr fun finding hfinding => Bool.not_eq_true _ ▸ ?_
    exact not_concerns_of_not_isFixable (not_isFixable_contentFindings hfinding) number
  rw [Document.diagnostics_evaluate hblank, List.filter_append, List.filter_append, hcontent,
    List.append_nil, filter_structure]
  · rfl
  · intro rule hrule finding hfinding
    exact not_concerns_of_not_isFixable (StructureRule.not_isFixable_analyze hrule hfinding) number

theorem carries_layout (rule : LayoutRule) (number : Int) :
    carries (document.evaluate strict Rule.all).diagnostics rule.id number =
      carries (layoutFindings strict layoutRules 1 false document.lines) rule.id number := by
  refine carries_congr (fun finding hrule => ⟨fun hfinding => ?_, fun hfinding => ?_⟩) number
  · exact Document.mem_layoutFindings_of_mem hblank hfinding hrule
  · rw [Document.diagnostics_evaluate hblank, List.append_assoc]
    exact List.mem_append_left _ hfinding

theorem carries_deprecated (number : Int) :
    carries (document.evaluate strict Rule.all).diagnostics deprecatedAction.id number =
      carries (deprecationsFrom 1 document.lines) deprecatedAction.id number := by
  refine carries_congr (fun finding hrule => ⟨fun hfinding => ?_, fun hfinding => ?_⟩) number
  · rw [Document.diagnostics_evaluate hblank, List.mem_append, List.mem_append] at hfinding
    rcases hfinding with (hfinding | hfinding) | hfinding
    · rw [layoutFindings_eq_flatMap] at hfinding
      obtain ⟨pair, -, hfinding⟩ := List.mem_flatMap.mp hfinding
      obtain ⟨other, view, hfinding⟩ := LayoutRule.exists_of_mem_checkAll hfinding
      rw [LayoutRule.ruleId_of_mem_check hfinding, Option.some_inj] at hrule
      exact absurd hrule.symm (StructureRule.id_ne_layout _ other)
    · obtain ⟨other, -, hfinding⟩ := List.mem_flatMap.mp hfinding
      rw [StructureRule.ruleId_of_mem_analyze hfinding, Option.some_inj] at hrule
      obtain rfl : other = .deprecatedAction := by
        revert hrule
        cases other <;> decide
      exact hfinding
    · obtain ⟨other, hother⟩ := ruleId_of_mem_contentFindings hfinding
      rw [hother, Option.some_inj] at hrule
      exact absurd hrule (by cases other <;> decide)
  · rw [Document.diagnostics_evaluate hblank]
    refine List.mem_append_left _ (List.mem_append_right _ (List.mem_flatMap.mpr ?_))
    exact ⟨.deprecatedAction, by decide, hfinding⟩

/-- What becomes of one line of a text, and that no fix for it is skipped. -/
theorem composed_at {index : Nat} {line : Text} (hline : document.lines[index]? = some line)
    (hfeed : '\n' ∉ line) :
    let findings := (document.evaluate strict Rule.all).diagnostics
    (∃ fixed, (passLines strict false document.lines)[index]? = some fixed ∧
      Composed findings (1 + index) line fixed) ∧
    Takes line (findings.filter (concerns (1 + index))) := by
  intro findings
  have hdeprecated : carries findings deprecatedAction.id (1 + index) =
      (deprecationOn? line).isSome := by
    rw [carries_deprecated hblank, carries_eq_any, foundOn_deprecationsFrom hline]
    cases deprecationOn? line with
    | none => rfl
    | some entry => simp [deprecationFinding]
  rw [filter_concerns_evaluate hblank, filter_concerns,
    filter_concerns (1 + index) (deprecationsFrom ..), foundOn_deprecationsFrom hline]
  rcases layout_at strict false 1 hline with
    ⟨hignorable, hfound, hpassed⟩ | ⟨exempt, following, hignorable, hfound, hpassed⟩
  · have hnone := deprecationOn?_of_isIgnorable hignorable
    have hcarries (rule : LayoutRule) : carries findings rule.id (1 + index) = false := by
      rw [carries_layout hblank, carries_eq_any, hfound]
      rfl
    rw [hfound, hnone]
    refine ⟨⟨line, hpassed, fun _ => ?_, fun hcarried => ?_⟩, trivial⟩
    · rw [laidOut, hcarries tabIndentation, hcarries trailingWhitespace]
      rfl
    · rw [hdeprecated, hnone] at hcarried
      cases hcarried
  · have hlaid : laidOut findings (1 + index) line = layoutLine strict exempt line := by
      rw [← laidOut_checkAll hfound, laidOut, laidOut, carries_layout hblank tabIndentation,
        carries_layout hblank trailingWhitespace]
    have hwhole : Takes line ((LayoutRule.checkAll (layoutRulesFor layoutRules exempt)
        ⟨line, 1 + index, following, strict, line⟩).filter Diagnostic.isFixable) :=
      takes_of_target_eq_none (fun finding hfinding =>
        ⟨(List.mem_filter.mp hfinding).2,
          target_of_mem_checkAll (List.mem_filter.mp hfinding).1⟩) line
    rw [hfound, takes_append, foldl_amend_checkAll]
    have hne := Line.trim_ne_nil hignorable
    rcases (laid_layoutLine strict exempt line).updateLine_cases hne hfeed with
      ⟨hnone, hupdate⟩ | ⟨entry, uses, hentry, hknown, huses, hupdate⟩
    · rw [hnone]
      refine ⟨⟨_, hpassed, fun _ => ?_, fun hcarried => ?_⟩, hwhole, trivial⟩
      · rw [hlaid, passLine, hupdate]
      · rw [hdeprecated, hnone] at hcarried
        cases hcarried
    · refine ⟨⟨_, hpassed, fun hcarried => ?_, fun _ => ?_⟩, hwhole, ?_⟩
      · rw [hdeprecated, hentry] at hcarried
        cases hcarried
      · obtain ⟨reference, hreference, hfind⟩ := Option.bind_eq_some_iff.mp hentry
        obtain ⟨hmem, rfl⟩ := Catalog.eq_of_deprecation? hfind
        exact ⟨entry, hmem, uses, hreference, hlaid.trans huses, hupdate⟩
      · rw [hentry, huses]
        exact takes_deprecationFinding hknown uses (1 + index)

end

/-! ### Whole texts -/

/-- A finding that can be fixed is on a line of the text. -/
theorem onLines_of_mem_evaluate {text : Text} {document : Document}
    (hload : Document.load text = .ok document) {strict : Bool} {rules : List Rule}
    {finding : Diagnostic} (h : finding ∈ (document.evaluate strict rules).diagnostics)
    (hfixable : finding.isFixable = true) : OnLines (Text.lines text).length finding := by
  have hfix := hfixable
  rw [Diagnostic.isFixable, Bool.and_eq_true] at hfix
  obtain ⟨number, hnumber⟩ := Option.isSome_iff_exists.mp hfix.1
  obtain ⟨hone, hle⟩ := (Document.wellFormed_of_mem_evaluate hload h).line number hnumber
  refine ⟨hfixable, (number - 1).toNat, by omega, hnumber.trans (congrArg some ?_)⟩
  omega

theorem carries_emptyFinding {ruleId : Text} (h : Evaluation.emptyDocumentId ≠ ruleId)
    (number : Int) : carries [Evaluation.emptyFinding] ruleId number = false := by
  have hrule : (Evaluation.emptyFinding.ruleId == some ruleId) = false :=
    beq_eq_false_iff_ne.mpr fun heq => h (Option.some_inj.mp heq)
  rw [carries, List.any_cons, List.any_nil, hrule, Bool.and_false, Bool.or_false]

/-- Where there is only the finding about an empty document, each line stays as it is. -/
theorem composed_emptyFinding (number : Int) (line : Text) :
    Composed [Evaluation.emptyFinding] number line line := by
  refine ⟨fun _ => ?_, fun hcarried => ?_⟩
  · rw [laidOut, carries_emptyFinding (by decide), carries_emptyFinding (by decide)]
    rfl
  · rw [carries_emptyFinding (by decide)] at hcarried
    cases hcarried

/-- Fixing a text makes of each line what its findings ask for, whichever of them there are, and
    skips no fix. -/
theorem apply_evaluate_composed {text : Text} {document : Document}
    (hload : Document.load text = .ok document) (strict : Bool) :
    let findings := (document.evaluate strict Rule.all).diagnostics
    let fixed := Text.lines (apply text findings)
    fixed.length = (Text.lines text).length ∧
      (∀ (index : Nat) (line : Text), (Text.lines text)[index]? = some line →
        ∃ new, fixed[index]? = some new ∧ Composed findings (1 + index) line new) ∧
      log text findings =
        [FixEvent.message (.applied (findings.filter Diagnostic.isFixable).length)] := by
  intro findings fixed
  have honLines : ∀ finding ∈ findings, finding.isFixable = true →
      OnLines (Text.lines text).length finding := fun _ => onLines_of_mem_evaluate hload
  have htext := Document.text_of_load hload
  have hlines := Document.lines_of_load hload
  cases hblank : Text.allBlank text with
  | true =>
    have hnone := @not_isFixable_of_allBlank document (htext ▸ hblank) strict Rule.all
    have hfindings : findings = [Evaluation.emptyFinding] := by
      show (document.evaluate strict Rule.all).diagnostics = _
      rw [Document.evaluate, htext, hblank, if_pos rfl, Evaluation.diagnostics]
    have hfixed : fixed = Text.lines text := congrArg Text.lines (apply_of_not_fixable hnone text)
    rw [hfixed, hfindings]
    refine ⟨rfl, fun index line hline => ⟨line, hline, composed_emptyFinding _ line⟩, rfl⟩
  | false =>
    have hat (index : Nat) (line : Text) (hline : (Text.lines text)[index]? = some line) :=
      @composed_at document strict (htext ▸ hblank) index line (hlines ▸ hline)
        (Text.not_mem_of_mem_lines (List.mem_of_getElem? hline))
    have hfixed : fixed = passLines strict false (Text.lines text) :=
      lines_apply_evaluate hload hblank strict
    refine ⟨?_, fun index line hline => ?_, log_of_takes honLines fun index line hline => ?_⟩
    · rw [hfixed, passLines_eq, length_changeLines]
    · rw [hfixed, ← hlines]
      exact (hat index line hline).1
    · exact (hat index line hline).2

/-- All three fixes on one line. -/
theorem apply_evaluate_composed_uses :
    let text : Text := "\tuses: actions/cache@v2  "
    let document : Document :=
      ⟨text, [text],
        .mapping [⟨"uses", some 1, .scalar (.str "actions/cache@v2") (some 1)⟩] none, []⟩
    Document.load text = .ok document ∧
      apply text (document.evaluate true Rule.all).diagnostics = "  uses: actions/cache@v4" ∧
      log text (document.evaluate true Rule.all).diagnostics = ["Applied 3 fix(es)".toList] := by
  intro text document
  have hload : Document.load text = .ok document := rfl
  obtain ⟨-, -, hlog⟩ := apply_evaluate_composed hload true
  refine ⟨hload, ?_, hlog.trans ?_⟩
  · decide +kernel
  · decide +kernel

end WorkflowLint.Fix
