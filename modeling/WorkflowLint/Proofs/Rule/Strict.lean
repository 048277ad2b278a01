/-
  WorkflowLint/Proofs/Rule/Strict.lean
  ====================================
  **What strictness adds.**

  Only the rule on the ends of lines asks whether an evaluation is strict.  It runs behind the
  rule on tabs, and the rule on double colons, which may run behind it, does not mind the
  corrections of others.  So a strict evaluation finds all that one that is not strict finds,
  with the same fixes and in the same order, and between that only ends of lines
  (`Document.filter_strict`).
-/
import WorkflowLint.Proofs.Rule.Ignored
import WorkflowLint.Proofs.Rule.Order

namespace WorkflowLint

/-- The same view of a line in an evaluation that is not strict. -/
def LineView.relaxed (view : LineView) : LineView := { view with strict := false }

/-- Whether an identifier is not that of the rule on the ends of lines. -/
def notTrailing (ruleId : Text) : Bool := ruleId != LayoutRule.trailingWhitespace.id

theorem layoutViews_relaxed (strict : Bool) (number : Int) (inBlock : Bool) (lines : List Text) :
    layoutViews false number inBlock lines =
      (layoutViews strict number inBlock lines).map fun (view, exempt) =>
        (view.relaxed, exempt) := by
  induction lines generalizing number inBlock with
  | nil => rfl
  | cons line rest ih =>
    unfold layoutViews
    split
    · exact ih ..
    · rw [List.map_cons, ← ih]
      rfl

namespace LayoutRule

variable {rules : List LayoutRule}

/-- Rules that look into block scalars do not ask for strictness. -/
theorem checkAll_relaxed (hbody : ∀ rule ∈ rules, rule.checksBlockBody = true)
    (view : LineView) :
    (checkAll rules view).filter (Diagnostic.comesFrom notTrailing) =
        checkAll rules view.relaxed ∧
      (advanceAll rules view).relaxed = advanceAll rules view.relaxed := by
  induction rules generalizing view with
  | nil => exact ⟨rfl, rfl⟩
  | cons rule rest ih =>
    obtain ⟨hfindings, hview⟩ :=
      ih (fun other hother => hbody other (List.mem_cons_of_mem _ hother)) (rule.advance view)
    cases rule with
    | tabIndentation =>
      constructor
      · have hkept : notTrailing tabIndentation.id = true := by decide
        rw [checkAll, checkAll, List.filter_append, hfindings, filter_check, if_pos hkept]
        rfl
      · exact hview
    | trailingWhitespace => cases hbody _ (List.mem_cons_self ..)
    | doubleColon => cases hbody _ (List.mem_cons_self ..)

/-- Of the other rules, that on double colons finds the same on any view of a line, and that on
    the ends of lines finds nothing unless strictness is asked for. -/
theorem filter_checkAll_eq (hbody : ∀ rule ∈ rules, rule.checksBlockBody = false)
    {view other : LineView} (hstrict : other.strict = false) (hline : other.line = view.line)
    (hnumber : other.number = view.number) :
    (checkAll rules view).filter (Diagnostic.comesFrom notTrailing) = checkAll rules other := by
  induction rules generalizing view other with
  | nil => rfl
  | cons rule rest ih =>
    -- a rule hands on the line, its number and strictness as they are
    have hrest : (checkAll rest (rule.advance view)).filter (Diagnostic.comesFrom notTrailing) =
        checkAll rest (rule.advance other) :=
      ih (fun rule hrule => hbody rule (List.mem_cons_of_mem _ hrule)) hstrict hline hnumber
    rw [checkAll, checkAll, List.filter_append, hrest, filter_check]
    cases rule with
    | tabIndentation => cases hbody _ (List.mem_cons_self ..)
    | trailingWhitespace =>
      have hnone : trailingWhitespace.check other = [] :=
        check_eq_nil (by rw [objects, hstrict, Bool.false_and])
      rw [hnone]
      rfl
    | doubleColon =>
      have hsame : doubleColon.check other = doubleColon.check view :=
        check_congr rfl (by rw [objects, objects, hline]) hnumber
      rw [hsame]
      rfl

/-- On one line, what is not about its end is found in the same way without strictness. -/
theorem filter_checkAll_layoutRulesFor (rules : List LayoutRule) (inBlock : Bool)
    (view : LineView) :
    (checkAll (layoutRulesFor rules inBlock) view).filter (Diagnostic.comesFrom notTrailing) =
      checkAll (layoutRulesFor rules inBlock) view.relaxed := by
  obtain ⟨hfirst, hview⟩ :=
    checkAll_relaxed (fun rule hrule => (List.mem_filter.mp hrule).2) view
  rw [layoutRulesFor, checkAll_append, checkAll_append, List.filter_append, hfirst, ← hview]
  refine congrArg _ (filter_checkAll_eq ?_ rfl rfl rfl)
  intro rule hrule
  cases inBlock with
  | true => cases hrule
  | false => simpa using (List.mem_filter.mp hrule).2

end LayoutRule

theorem filter_layoutFindings_strict (rules : List LayoutRule) (strict : Bool) (number : Int)
    (inBlock : Bool) (lines : List Text) :
    (layoutFindings strict rules number inBlock lines).filter (Diagnostic.comesFrom notTrailing) =
      layoutFindings false rules number inBlock lines := by
  rw [layoutFindings_eq_flatMap, layoutFindings_eq_flatMap, layoutViews_relaxed strict,
    List.filter_flatMap, List.flatMap_map]
  refine congrArg List.flatten (List.map_congr_left fun pair _ => ?_)
  exact LayoutRule.filter_checkAll_layoutRulesFor rules pair.2 pair.1

theorem ContentRule.check_relaxed (rule : ContentRule) (view : LineView) :
    rule.check view.relaxed = rule.check view := by
  cases rule <;> rfl

theorem contentFindings_strict (rules : List ContentRule) (strict : Bool) (number : Int)
    (lines : List Text) :
    contentFindings strict rules number lines = contentFindings false rules number lines := by
  induction lines generalizing number with
  | nil => rfl
  | cons line rest ih =>
    have hline (rule : ContentRule) : rule.check ⟨line, number, rest, false, line⟩ =
        rule.check ⟨line, number, rest, strict, line⟩ :=
      rule.check_relaxed ⟨line, number, rest, strict, line⟩
    rw [contentFindings, contentFindings, ih]
    simp only [hline]

/-- Without its findings about the ends of lines, a strict evaluation is the evaluation that is
    not strict. -/
theorem Document.filter_strict (document : Document) (rules : List Rule) :
    (document.evaluate true rules).diagnostics.filter
        (fun diagnostic => diagnostic.ruleId != some "style/trailing-whitespace".toList) =
      (document.evaluate false rules).diagnostics := by
  have hfilter : (fun diagnostic : Diagnostic =>
      diagnostic.ruleId != some "style/trailing-whitespace".toList) =
        Diagnostic.comesFrom notTrailing := by
    funext diagnostic
    rw [Diagnostic.comesFrom]
    cases diagnostic.ruleId with
    | none => rfl
    | some ruleId => rfl
  rw [hfilter]
  cases hblank : Text.allBlank document.text with
  | true =>
    rw [evaluate, evaluate, hblank]
    rfl
  | false =>
    have hstructure :
        ((rules.filterMap Rule.document?).flatMap fun rule => rule.analyze document).filter
          (Diagnostic.comesFrom notTrailing) =
            (rules.filterMap Rule.document?).flatMap fun rule => rule.analyze document := by
      rw [List.filter_eq_self]
      intro diagnostic hd
      obtain ⟨rule, -, hd⟩ := List.mem_flatMap.mp hd
      rw [Diagnostic.comesFrom, StructureRule.ruleId_of_mem_analyze hd]
      exact bne_iff_ne.mpr (rule.id_ne_layout .trailingWhitespace)
    have hcontent : (contentFindings true (rules.filterMap Rule.content?) 1 document.lines).filter
        (Diagnostic.comesFrom notTrailing) =
          contentFindings false (rules.filterMap Rule.content?) 1 document.lines := by
      rw [contentFindings_strict, List.filter_eq_self]
      intro diagnostic hd
      obtain ⟨rule, hrule⟩ := ruleId_of_mem_contentFindings hd
      rw [Diagnostic.comesFrom, hrule]
      exact bne_iff_ne.mpr (rule.id_ne_layout .trailingWhitespace)
    rw [diagnostics_evaluate hblank, diagnostics_evaluate hblank, List.filter_append,
      List.filter_append, filter_layoutFindings_strict, hstructure, hcontent]

end WorkflowLint
