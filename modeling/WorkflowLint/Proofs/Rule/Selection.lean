/-
  WorkflowLint/Proofs/Rule/Selection.lean
  =======================================
  **Findings of some of the rules.**

  Every finding names the rule it comes from, so the findings of some rules can
  be picked out after all rules have run, or only these rules can be run.  In the
  document and content stages this comes to the same, as no rule there sees what
  others found.  In the layout stage the fix of a rule starts from the corrections
  of the rules before it: running all rules differs from running some in that the
  tabs at the start of a line are expanded in the fix for its end
  (`filter_diagnostics_evaluate`).
-/
import WorkflowLint.Proofs.Fix.PassLine

namespace WorkflowLint

variable {kept : Text → Bool}

/-- Whether a finding comes from a rule whose identifier is kept.  A finding from no rule is
    kept. -/
def Diagnostic.comesFrom (kept : Text → Bool) (diagnostic : Diagnostic) : Bool :=
  diagnostic.ruleId.all kept

namespace Rule

/-- The rules whose identifiers are kept. -/
def selected (kept : Text → Bool) : List Rule := all.filter fun rule => kept rule.id

/-- Picking the rules of a stage after selecting rules is selecting among those of the
    stage. -/
theorem filterMap_filter {β : Type} {stage? : Rule → Option β} {id : β → Text}
    (h : ∀ rule member, stage? rule = some member → rule.id = id member) (rules : List Rule) :
    (rules.filter fun rule => kept rule.id).filterMap stage? =
      (rules.filterMap stage?).filter fun member => kept (id member) := by
  induction rules with
  | nil => rfl
  | cons rule rest ih =>
    rw [List.filter_cons, List.filterMap_cons]
    cases hstage : stage? rule with
    | none =>
      simp only
      rw [← ih]
      split
      · rw [List.filterMap_cons, hstage]
      · rfl
    | some member =>
      simp only
      rw [List.filter_cons, ← ih, h rule member hstage]
      split
      · rw [List.filterMap_cons, hstage]
      · rfl

theorem filterMap_layout?_selected : (selected kept).filterMap layout? =
    layoutRules.filter fun rule => kept rule.id := by
  refine filterMap_filter (fun rule member h => ?_) all
  cases rule <;> cases h
  rfl

theorem filterMap_document?_selected : (selected kept).filterMap document? =
    (all.filterMap document?).filter fun rule => kept rule.id := by
  refine filterMap_filter (fun rule member h => ?_) all
  cases rule <;> cases h
  rfl

theorem filterMap_content?_selected : (selected kept).filterMap content? =
    (all.filterMap content?).filter fun rule => kept rule.id := by
  refine filterMap_filter (fun rule member h => ?_) all
  cases rule <;> cases h
  rfl

end Rule

/-! ### Rules that do not see each other -/

/-- Findings of one rule are kept together. -/
theorem filter_comesFrom_eq {ruleId : Text} {findings : List Diagnostic}
    (h : ∀ diagnostic ∈ findings, diagnostic.ruleId = some ruleId) :
    findings.filter (Diagnostic.comesFrom kept) = if kept ruleId then findings else [] := by
  split
  · rename_i hkept
    rw [List.filter_eq_self]
    intro diagnostic hd
    rw [Diagnostic.comesFrom, h diagnostic hd]
    exact hkept
  · rename_i hkept
    rw [List.filter_eq_nil_iff]
    intro diagnostic hd
    rw [Diagnostic.comesFrom, h diagnostic hd]
    exact hkept

/-- The findings of rules that do not see each other. -/
theorem filter_flatMap_comesFrom (kept : Text → Bool) {α : Type} {id : α → Text}
    {find : α → List Diagnostic}
    (h : ∀ rule, ∀ diagnostic ∈ find rule, diagnostic.ruleId = some (id rule)) (rules : List α) :
    (rules.flatMap find).filter (Diagnostic.comesFrom kept) =
      (rules.filter fun rule => kept (id rule)).flatMap find := by
  induction rules with
  | nil => rfl
  | cons rule rest ih =>
    rw [List.flatMap_cons, List.filter_append, ih, filter_comesFrom_eq (h rule), List.filter_cons]
    split
    · rw [List.flatMap_cons]
    · rfl

theorem ContentRule.ruleId_of_mem_check {rule : ContentRule} {view : LineView}
    {diagnostic : Diagnostic} (h : diagnostic ∈ rule.check view) :
    diagnostic.ruleId = some rule.id := by
  obtain ⟨message, -, rfl⟩ := List.mem_map.mp h
  rfl

theorem filter_contentFindings (strict : Bool) (rules : List ContentRule) (number : Int)
    (lines : List Text) :
    (contentFindings strict rules number lines).filter (Diagnostic.comesFrom kept) =
      contentFindings strict (rules.filter fun rule => kept rule.id) number lines := by
  induction lines generalizing number with
  | nil => rfl
  | cons line rest ih =>
    have hline := filter_flatMap_comesFrom kept
      (fun (rule : ContentRule) diagnostic (h : diagnostic ∈ rule.check
        ⟨line, number, rest, strict, line⟩) => ContentRule.ruleId_of_mem_check h) rules
    rw [contentFindings, contentFindings, List.filter_append, ih, hline]

namespace StructureRule

theorem ruleId_of_mem_missingSection {rule : StructureRule} {key message : Text}
    {document : Document} {diagnostic : Diagnostic}
    (h : diagnostic ∈ rule.missingSection key message document) :
    diagnostic.ruleId = some rule.id := by
  rw [missingSection] at h
  split at h
  · exact absurd h List.not_mem_nil
  · rw [List.mem_singleton.mp h]
    rfl

theorem ruleId_of_mem_deprecationsFrom {number : Int} {lines : List Text}
    {diagnostic : Diagnostic} (h : diagnostic ∈ deprecationsFrom number lines) :
    diagnostic.ruleId = some deprecatedAction.id := by
  obtain ⟨line, entry, -, rfl⟩ := exists_of_mem_deprecationsFrom h
  rfl

theorem ruleId_of_mem_analyze {rule : StructureRule} {document : Document}
    {diagnostic : Diagnostic} (h : diagnostic ∈ rule.analyze document) :
    diagnostic.ruleId = some rule.id := by
  cases rule with
  | missingTrigger => exact ruleId_of_mem_missingSection h
  | missingJobs => exact ruleId_of_mem_missingSection h
  | unknownTopLevelKey =>
    obtain ⟨entry, -, rfl⟩ := List.mem_map.mp h
    rfl
  | deprecatedAction => exact ruleId_of_mem_deprecationsFrom h
  | unknownJobKey =>
    obtain ⟨job, -, h⟩ := List.mem_flatMap.mp h
    obtain ⟨entry, -, rfl⟩ := List.mem_map.mp h
    rfl
  | missingRunsOn =>
    obtain ⟨job, -, h⟩ := List.mem_flatMap.mp h
    rw [runnerFindings] at h
    split at h
    · exact absurd h List.not_mem_nil
    · rw [List.mem_singleton.mp h]
      rfl
  | unknownStepKey =>
    obtain ⟨job, -, h⟩ := List.mem_flatMap.mp h
    obtain ⟨step, -, h⟩ := List.mem_flatMap.mp h
    obtain ⟨entry, -, rfl⟩ := List.mem_map.mp h
    rfl

end StructureRule

/-! ### Rules on the layout of lines -/

/-- The lines that layout rules look at, each with whether only the rules that look into block
    scalars run on it. -/
def layoutViews (strict : Bool) (number : Int) (inBlock : Bool) :
    List Text → List (LineView × Bool)
  | [] => []
  | line :: rest =>
    if Line.isIgnorable line then layoutViews strict (number + 1) inBlock rest
    else
      (⟨line, number, rest, strict, line⟩, inBlockAfter inBlock line)
        :: layoutViews strict (number + 1) (inBlockAfter inBlock line) rest

/-- Which lines layout rules look at does not depend on the rules. -/
theorem layoutFindings_eq_flatMap (strict : Bool) (rules : List LayoutRule) (number : Int)
    (inBlock : Bool) (lines : List Text) :
    layoutFindings strict rules number inBlock lines =
      (layoutViews strict number inBlock lines).flatMap fun (view, exempt) =>
        LayoutRule.checkAll (layoutRulesFor rules exempt) view := by
  induction lines generalizing number inBlock with
  | nil => rfl
  | cons line rest ih =>
    rw [layoutFindings, layoutViews]
    split
    · exact ih ..
    · rw [List.flatMap_cons, ← ih]

/-- A line as layout rules first see it. -/
structure LineView.IsFresh (strict : Bool) (view : LineView) : Prop where
  current_eq : view.current = view.line
  strict_eq : view.strict = strict
  trim_ne_nil : Text.trim view.line ≠ []

theorem isFresh_of_mem_layoutViews {strict inBlock exempt : Bool} {number : Int}
    {lines : List Text} {view : LineView}
    (h : (view, exempt) ∈ layoutViews strict number inBlock lines) :
    view.IsFresh strict ∧ number ≤ view.number := by
  induction lines generalizing number inBlock with
  | nil => exact absurd h List.not_mem_nil
  | cons line rest ih =>
    rw [layoutViews] at h
    split at h
    · obtain ⟨hfresh, hle⟩ := ih h
      exact ⟨hfresh, by omega⟩
    · rename_i hignorable
      rcases List.mem_cons.mp h with heq | h
      · obtain ⟨rfl, rfl⟩ := Prod.mk.inj heq
        exact ⟨⟨rfl, rfl, Line.trim_ne_nil (Bool.eq_false_iff.mpr hignorable)⟩, Int.le_refl _⟩
      · obtain ⟨hfresh, hle⟩ := ih h
        exact ⟨hfresh, by omega⟩

/-- A line is looked at once. -/
theorem eq_of_mem_layoutViews {strict inBlock : Bool} {number : Int} {lines : List Text}
    {front back : LineView × Bool} (hfront : front ∈ layoutViews strict number inBlock lines)
    (hback : back ∈ layoutViews strict number inBlock lines)
    (h : front.1.number = back.1.number) : front = back := by
  induction lines generalizing number inBlock with
  | nil => exact absurd hfront List.not_mem_nil
  | cons line rest ih =>
    rw [layoutViews] at hfront hback
    split at hfront
    · rename_i hignorable
      rw [if_pos hignorable] at hback
      exact ih hfront hback
    · rename_i hignorable
      rw [if_neg hignorable] at hback
      rcases List.mem_cons.mp hfront with hf | hf <;> rcases List.mem_cons.mp hback with hb | hb
      · rw [hf, hb]
      · have hle := (isFresh_of_mem_layoutViews hb).2
        rw [hf] at h
        simp only at h
        omega
      · have hle := (isFresh_of_mem_layoutViews hf).2
        rw [hb] at h
        simp only at h
        omega
      · exact ih hf hb

/-- A finding about blanks at the end of a line with the tabs at the start of its fix
    expanded; any other finding as it is. -/
def Diagnostic.expanded (diagnostic : Diagnostic) : Diagnostic :=
  if diagnostic.ruleId = some LayoutRule.trailingWhitespace.id then
    { diagnostic with fix := diagnostic.fix.map Fix.indentLine }
  else diagnostic

theorem Diagnostic.expanded_of_ruleId_ne {diagnostic : Diagnostic}
    (h : diagnostic.ruleId ≠ some LayoutRule.trailingWhitespace.id) :
    diagnostic.expanded = diagnostic := if_neg h

theorem map_expanded_of_ruleId {ruleId : Text} (hne : ruleId ≠ LayoutRule.trailingWhitespace.id)
    {findings : List Diagnostic} (h : ∀ diagnostic ∈ findings, diagnostic.ruleId = some ruleId) :
    findings.map Diagnostic.expanded = findings := by
  refine (List.map_congr_left fun diagnostic hd => ?_).trans (List.map_id findings)
  refine Diagnostic.expanded_of_ruleId_ne ?_
  rw [h diagnostic hd]
  exact fun heq => hne (Option.some_inj.mp heq)

namespace LayoutRule

theorem ruleId_of_mem_check {rule : LayoutRule} {view : LineView} {diagnostic : Diagnostic}
    (h : diagnostic ∈ rule.check view) : diagnostic.ruleId = some rule.id := by
  rw [check] at h
  split at h
  · rw [List.mem_singleton.mp h]
  · exact absurd h List.not_mem_nil

/-- A finding of several rules on a line is a finding of one of them. -/
theorem exists_of_mem_checkAll {rules : List LayoutRule} {view : LineView}
    {diagnostic : Diagnostic} (h : diagnostic ∈ checkAll rules view) :
    ∃ (rule : LayoutRule) (other : LineView), diagnostic ∈ rule.check other := by
  induction rules generalizing view with
  | nil => exact absurd h List.not_mem_nil
  | cons rule rest ih =>
    rw [checkAll, List.mem_append] at h
    rcases h with h | h
    · exact ⟨rule, view, h⟩
    · exact ih h

theorem objects_of_mem_check {rule : LayoutRule} {view : LineView} {diagnostic : Diagnostic}
    (h : diagnostic ∈ rule.check view) :
    rule.objects view = true ∧
      diagnostic.fix = rule.correction?.map fun correct => correct view.current := by
  rw [check] at h
  split at h
  · rename_i hobjects
    rw [List.mem_singleton.mp h, correct?, if_pos hobjects]
    exact ⟨hobjects, rfl⟩
  · exact absurd h List.not_mem_nil

theorem exists_mem_check {rule : LayoutRule} {view : LineView} (h : rule.objects view = true) :
    ∃ diagnostic, diagnostic ∈ rule.check view := by
  rw [check, if_pos h]
  exact ⟨_, List.mem_singleton.mpr rfl⟩

theorem check_eq_nil {rule : LayoutRule} {view : LineView} (h : rule.objects view = false) :
    rule.check view = [] := by
  rw [check, h, if_neg Bool.false_ne_true]

/-- Without a correction, a finding shows whether the rule objects and where. -/
theorem check_congr {rule : LayoutRule} (hcorrection : rule.correction? = none)
    {view other : LineView} (hobjects : rule.objects other = rule.objects view)
    (hnumber : other.number = view.number) : rule.check other = rule.check view := by
  rw [check, check, correct?, correct?, hcorrection, hobjects, hnumber]
  rfl

/-- The findings of a rule can be fixed if it has a correction. -/
theorem filter_check_isFixable (rule : LayoutRule) (view : LineView) :
    (rule.check view).filter (fun diagnostic => !diagnostic.isFixable) =
      if rule.correction?.isSome then [] else rule.check view := by
  have hfixable : ∀ diagnostic ∈ rule.check view,
      diagnostic.isFixable = rule.correction?.isSome := by
    intro diagnostic hd
    rw [Diagnostic.isFixable, line_of_mem_check hd, (objects_of_mem_check hd).2, Option.isSome_map]
    rfl
  split
  · rename_i hsome
    exact List.filter_eq_nil_iff.mpr fun diagnostic hd => by simp [hfixable diagnostic hd, hsome]
  · rename_i hsome
    exact List.filter_eq_self.mpr fun diagnostic hd => by simp [hfixable diagnostic hd, hsome]

theorem filter_check (kept : Text → Bool) (rule : LayoutRule) (view : LineView) :
    (rule.check view).filter (Diagnostic.comesFrom kept) =
      if kept rule.id then rule.check view else [] :=
  filter_comesFrom_eq fun _ h => ruleId_of_mem_check h

/-- The rule on tabs hands on the line with its tabs expanded. -/
theorem advance_tabIndentation {view : LineView} (h : view.current = view.line) :
    tabIndentation.advance view = { view with current := Fix.indentLine view.current } := by
  rw [advance_eq (show correction? .tabIndentation = _ from rfl), Fix.indentLine, h]
  rfl

/-- The fix for the end of a line starts from what it is handed. -/
theorem map_expanded_check {view : LineView} (h : Text.trim view.current ≠ []) :
    (trailingWhitespace.check view).map Diagnostic.expanded =
      trailingWhitespace.check { view with current := Fix.indentLine view.current } := by
  have hobjects : trailingWhitespace.objects
      { view with current := Fix.indentLine view.current } = trailingWhitespace.objects view := rfl
  rw [check, check, correct?, correct?, hobjects]
  split
  · simp only [List.map_cons, List.map_nil, Diagnostic.expanded, if_true, correction?,
      Option.map_some, Fix.indentLine_trimTrailing h]
  · rfl

theorem layoutRulesFor_filter (exempt : Bool) :
    layoutRulesFor (layoutRules.filter fun rule => kept rule.id) exempt =
      (layoutRulesFor layoutRules exempt).filter fun rule => kept rule.id := by
  have hcomm (p : LayoutRule → Bool) : (layoutRules.filter fun rule => kept rule.id).filter p =
      (layoutRules.filter p).filter fun rule => kept rule.id := by
    rw [List.filter_filter, List.filter_filter]
    congr 1
    funext rule
    exact Bool.and_comm ..
  rw [layoutRulesFor, layoutRulesFor, List.filter_append, hcomm, hcomm]
  cases exempt <;> rfl

/-- The findings of selected rules on one line. -/
theorem checkAll_selected (kept : Text → Bool) (exempt : Bool) (view : LineView) :
    checkAll (layoutRulesFor (layoutRules.filter fun rule => kept rule.id) exempt) view =
      (if kept tabIndentation.id then tabIndentation.check view else []) ++
        if exempt then []
        else
          (if kept trailingWhitespace.id then
            trailingWhitespace.check
              (if kept tabIndentation.id then tabIndentation.advance view else view)
          else []) ++ if kept doubleColon.id then doubleColon.check view else [] := by
  have hrules : layoutRulesFor layoutRules exempt =
      tabIndentation :: if exempt then [] else [trailingWhitespace, doubleColon] := by
    cases exempt <;> rfl
  -- what the last rule finds does not depend on corrections
  have hcolon (rule : LayoutRule) (other : LineView) :
      doubleColon.check (rule.advance other) = doubleColon.check other := rfl
  rw [layoutRulesFor_filter, hrules]
  cases exempt <;> cases htab : kept tabIndentation.id <;>
    cases htrailing : kept trailingWhitespace.id <;> cases hdouble : kept doubleColon.id <;>
    simp [checkAll, htab, htrailing, hdouble, hcolon]

/-- The findings of all rules on one line. -/
theorem checkAll_layoutRules (exempt : Bool) (view : LineView) :
    checkAll (layoutRulesFor layoutRules exempt) view =
      tabIndentation.check view ++
        if exempt then []
        else trailingWhitespace.check (tabIndentation.advance view) ++ doubleColon.check view :=
  checkAll_selected (fun _ => true) exempt view

theorem mem_checkAll_selected {exempt : Bool} {view : LineView} {diagnostic : Diagnostic} :
    diagnostic ∈ checkAll
        (layoutRulesFor (layoutRules.filter fun rule => kept rule.id) exempt) view ↔
      kept tabIndentation.id = true ∧ diagnostic ∈ tabIndentation.check view ∨
      exempt = false ∧ kept trailingWhitespace.id = true ∧ diagnostic ∈ trailingWhitespace.check
        (if kept tabIndentation.id then tabIndentation.advance view else view) ∨
      exempt = false ∧ kept doubleColon.id = true ∧ diagnostic ∈ doubleColon.check view := by
  rw [checkAll_selected, List.mem_append]
  cases exempt <;> cases kept tabIndentation.id <;> cases kept trailingWhitespace.id <;>
    cases kept doubleColon.id <;> simp

/-- On one line, running all rules differs from running some of them in the fixes for the ends
    of lines. -/
theorem filter_checkAll (kept : Text → Bool) {strict : Bool} {view : LineView}
    (h : view.IsFresh strict) (exempt : Bool) :
    (checkAll (layoutRulesFor layoutRules exempt) view).filter (Diagnostic.comesFrom kept) =
      (checkAll (layoutRulesFor (layoutRules.filter fun rule => kept rule.id) exempt) view).map
        Diagnostic.expanded := by
  have hmap {rule : LayoutRule} (hne : rule.id ≠ trailingWhitespace.id) :
      (rule.check view).map Diagnostic.expanded = rule.check view :=
    map_expanded_of_ruleId hne fun _ h => ruleId_of_mem_check h
  have hne : Text.trim view.current ≠ [] := by
    rw [h.current_eq]
    exact h.trim_ne_nil
  have htrailing : trailingWhitespace.check (tabIndentation.advance view) =
      (trailingWhitespace.check
        (if kept tabIndentation.id then tabIndentation.advance view else view)).map
          Diagnostic.expanded := by
    rw [advance_tabIndentation h.current_eq]
    split
    · rw [map_expanded_check (Fix.trim_indentLine_ne_nil hne)]
      simp only [Fix.indentLine_indentLine]
    · rw [map_expanded_check hne]
  rw [checkAll_layoutRules, checkAll_selected, List.filter_append, List.map_append, filter_check]
  congr 1
  · split
    · rw [hmap (by decide)]
    · rfl
  · cases exempt with
    | true => rfl
    | false =>
      rw [if_neg Bool.false_ne_true, if_neg Bool.false_ne_true, List.filter_append,
        List.map_append, filter_check, filter_check, htrailing]
      congr 1
      · split <;> rfl
      · split
        · rw [hmap (by decide)]
        · rfl

end LayoutRule

theorem filter_layoutFindings (kept : Text → Bool) (strict inBlock : Bool) (number : Int)
    (lines : List Text) :
    (layoutFindings strict layoutRules number inBlock lines).filter (Diagnostic.comesFrom kept) =
      (layoutFindings strict (layoutRules.filter fun rule => kept rule.id) number inBlock
        lines).map Diagnostic.expanded := by
  rw [layoutFindings_eq_flatMap, layoutFindings_eq_flatMap, List.filter_flatMap, List.map_flatMap]
  refine congrArg List.flatten (List.map_congr_left fun pair hpair => ?_)
  exact LayoutRule.filter_checkAll kept (isFresh_of_mem_layoutViews hpair).1 pair.2

end WorkflowLint
