/-
  WorkflowLint/Proofs/Rule/Ignored.lean
  =====================================
  **Ignoring rules.**

  A workspace runs all rules and then drops the findings of those that its
  configuration ignores.  `lintText_ignored` compares this with running only the
  other rules: the findings agree but for the fixes for blanks at the end of
  lines, in which the tabs at the start of the line are expanded.  They agree in
  full unless the rule on tabs is ignored, the rule on blanks at the end is not,
  and some line has findings of both.
-/
import WorkflowLint.Proofs.Rule.Selection
import WorkflowLint.Workspace

namespace WorkflowLint

/-! ### Dropping findings -/

/-- Whether the rule of an identifier is kept: no pattern stands for it. -/
def keeps (patterns : List CodePoints) (ruleId : Text) : Bool :=
  !patterns.any fun pattern => Glob.accepts? pattern ruleId

theorem Ignored.anyAccepts_globs (patterns : List CodePoints) (text : Text) :
    Ignored.anyAccepts [text] (patterns.map .glob) =
      .ok (patterns.any fun pattern => Glob.accepts? pattern text) := by
  induction patterns with
  | nil => rfl
  | cons pattern rest ih =>
    rw [List.map_cons, Ignored.anyAccepts, ih, List.any_cons, List.any_cons, List.any_nil,
      Bool.or_false]
    split
    · rename_i h
      rw [h, Bool.true_or]
    · rename_i h
      rw [Bool.eq_false_iff.mpr h, Bool.false_or]

namespace Workspace

variable {workspace : Workspace} {patterns : List CodePoints}

theorem reports_eq (h : workspace.config.ignored = .patterns (patterns.map .glob))
    (diagnostic : Diagnostic) :
    workspace.reports diagnostic = .ok (diagnostic.comesFrom (keeps patterns)) := by
  rw [reports, Diagnostic.comesFrom]
  cases diagnostic.ruleId with
  | none => rfl
  | some ruleId =>
    simp only [Config.ignoresRule, h, Ignored.accepts, Ignored.anyAccepts_globs]
    rfl

theorem reported_eq (h : workspace.config.ignored = .patterns (patterns.map .glob))
    (diagnostics : List Diagnostic) :
    workspace.reported diagnostics =
      .ok (diagnostics.filter (Diagnostic.comesFrom (keeps patterns))) := by
  induction diagnostics with
  | nil => rfl
  | cons diagnostic rest ih =>
    rw [reported, reports_eq h, ih, List.filter_cons]

end Workspace

/-! ### Running fewer rules -/

theorem StructureRule.id_ne_layout (rule : StructureRule) (other : LayoutRule) :
    rule.id ≠ other.id := by
  cases rule <;> cases other <;> decide

theorem ContentRule.id_ne_layout (rule : ContentRule) (other : LayoutRule) :
    rule.id ≠ other.id := by
  cases rule <;> cases other <;> decide

theorem ruleId_of_mem_contentFindings {strict : Bool} {rules : List ContentRule} {number : Int}
    {lines : List Text} {diagnostic : Diagnostic}
    (h : diagnostic ∈ contentFindings strict rules number lines) :
    ∃ rule : ContentRule, diagnostic.ruleId = some rule.id := by
  induction lines generalizing number with
  | nil => exact absurd h List.not_mem_nil
  | cons line rest ih =>
    rcases List.mem_append.mp h with h | h
    · obtain ⟨rule, -, h⟩ := List.mem_flatMap.mp h
      exact ⟨rule, ContentRule.ruleId_of_mem_check h⟩
    · exact ih h

namespace Document

variable {document : Document}

/-- Findings of a layout rule are found in the layout stage. -/
theorem mem_layoutFindings_of_mem (hblank : Text.allBlank document.text = false) {strict : Bool}
    {rules : List Rule} {diagnostic : Diagnostic}
    (hd : diagnostic ∈ (document.evaluate strict rules).diagnostics) {rule : LayoutRule}
    (hrule : diagnostic.ruleId = some rule.id) :
    diagnostic ∈ layoutFindings strict (rules.filterMap Rule.layout?) 1 false document.lines := by
  rw [diagnostics_evaluate hblank, List.mem_append, List.mem_append] at hd
  rcases hd with (hd | hd) | hd
  · exact hd
  · obtain ⟨other, -, hd⟩ := List.mem_flatMap.mp hd
    rw [StructureRule.ruleId_of_mem_analyze hd, Option.some_inj] at hrule
    exact absurd hrule (other.id_ne_layout rule)
  · obtain ⟨other, hother⟩ := ruleId_of_mem_contentFindings hd
    rw [hother, Option.some_inj] at hrule
    exact absurd hrule (other.id_ne_layout rule)

/-- Dropping findings of a run of all rules is running the other rules, up to the tabs in the
    fixes for the ends of lines. -/
theorem filter_diagnostics_evaluate (kept : Text → Bool)
    (hblank : Text.allBlank document.text = false) (strict : Bool) :
    (document.evaluate strict Rule.all).diagnostics.filter (Diagnostic.comesFrom kept) =
      (document.evaluate strict (Rule.selected kept)).diagnostics.map Diagnostic.expanded := by
  have hdocument : ((Rule.all.filterMap Rule.document?).flatMap
      fun rule => rule.analyze document).filter (Diagnostic.comesFrom kept) = _ :=
    filter_flatMap_comesFrom kept
      (fun (rule : StructureRule) _ h => StructureRule.ruleId_of_mem_analyze h) _
  rw [diagnostics_evaluate hblank, diagnostics_evaluate hblank, List.filter_append,
    List.filter_append, List.map_append, List.map_append, Rule.filterMap_layout?_selected,
    Rule.filterMap_document?_selected, Rule.filterMap_content?_selected, hdocument,
    filter_contentFindings]
  congr 1
  · congr 1
    · exact filter_layoutFindings kept strict false 1 document.lines
    · refine ((List.map_congr_left fun diagnostic hd => ?_).trans (List.map_id _)).symm
      obtain ⟨rule, -, hd⟩ := List.mem_flatMap.mp hd
      refine Diagnostic.expanded_of_ruleId_ne ?_
      rw [StructureRule.ruleId_of_mem_analyze hd]
      exact fun heq => rule.id_ne_layout _ (Option.some_inj.mp heq)
  · refine ((List.map_congr_left fun diagnostic hd => ?_).trans (List.map_id _)).symm
    obtain ⟨rule, hrule⟩ := ruleId_of_mem_contentFindings hd
    refine Diagnostic.expanded_of_ruleId_ne ?_
    rw [hrule]
    exact fun heq => rule.id_ne_layout _ (Option.some_inj.mp heq)

end Document

/-! ### Where tabs are expanded -/

open LayoutRule in
/-- Whether one line has a finding about tabs at its start and one about blanks at its end. -/
def sharesLine (findings : List Diagnostic) : Prop :=
  ∃ front ∈ findings, ∃ back ∈ findings,
    front.ruleId = some tabIndentation.id ∧ back.ruleId = some trailingWhitespace.id ∧
      front.line = back.line

namespace Document

open LayoutRule

variable {document : Document} {kept : Text → Bool} {strict : Bool}

/-- The view that a finding of a layout rule was made on. -/
theorem exists_view (hblank : Text.allBlank document.text = false) {diagnostic : Diagnostic}
    (hd : diagnostic ∈ (document.evaluate strict (Rule.selected kept)).diagnostics)
    {rule : LayoutRule} (hrule : diagnostic.ruleId = some rule.id) :
    ∃ view exempt, (view, exempt) ∈ layoutViews strict 1 false document.lines ∧
      diagnostic ∈ checkAll
        (layoutRulesFor (layoutRules.filter fun rule => kept rule.id) exempt) view := by
  have hlayout := mem_layoutFindings_of_mem hblank hd hrule
  rw [Rule.filterMap_layout?_selected, layoutFindings_eq_flatMap] at hlayout
  obtain ⟨⟨view, exempt⟩, hview, hd⟩ := List.mem_flatMap.mp hlayout
  exact ⟨view, exempt, hview, hd⟩

theorem mem_diagnostics_of_view (kept : Text → Bool)
    (hblank : Text.allBlank document.text = false)
    {diagnostic : Diagnostic} {view : LineView} {exempt : Bool}
    (hview : (view, exempt) ∈ layoutViews strict 1 false document.lines)
    (hd : diagnostic ∈ checkAll
      (layoutRulesFor (layoutRules.filter fun rule => kept rule.id) exempt) view) :
    diagnostic ∈ (document.evaluate strict (Rule.selected kept)).diagnostics := by
  rw [diagnostics_evaluate hblank, List.mem_append, List.mem_append,
    Rule.filterMap_layout?_selected, layoutFindings_eq_flatMap]
  exact Or.inl (Or.inl (List.mem_flatMap.mpr ⟨(view, exempt), hview, hd⟩))

theorem ruleId_ne_of_mem_check {rule other : LayoutRule} {view : LineView}
    {diagnostic : Diagnostic} (hd : diagnostic ∈ rule.check view)
    (hrule : diagnostic.ruleId = some other.id) (hne : rule.id ≠ other.id) : False := by
  rw [ruleId_of_mem_check hd, Option.some_inj] at hrule
  exact hne hrule

/-- A finding about tabs is made on a line that starts with one. -/
theorem exists_view_tab (hblank : Text.allBlank document.text = false) {diagnostic : Diagnostic}
    (hd : diagnostic ∈ (document.evaluate strict (Rule.selected kept)).diagnostics)
    (hrule : diagnostic.ruleId = some tabIndentation.id) :
    ∃ view exempt, (view, exempt) ∈ layoutViews strict 1 false document.lines ∧
      diagnostic ∈ tabIndentation.check view := by
  obtain ⟨view, exempt, hview, hd⟩ := exists_view hblank hd hrule
  rcases mem_checkAll_selected.mp hd with ⟨-, h⟩ | ⟨-, -, h⟩ | ⟨-, -, h⟩
  · exact ⟨view, exempt, hview, h⟩
  · exact (ruleId_ne_of_mem_check h hrule (by decide)).elim
  · exact (ruleId_ne_of_mem_check h hrule (by decide)).elim

/-- A finding about blanks at the end is made on a line outside block scalars. -/
theorem exists_view_trailing (hblank : Text.allBlank document.text = false)
    {diagnostic : Diagnostic}
    (hd : diagnostic ∈ (document.evaluate strict (Rule.selected kept)).diagnostics)
    (hrule : diagnostic.ruleId = some trailingWhitespace.id) :
    ∃ view, (view, false) ∈ layoutViews strict 1 false document.lines ∧
      kept trailingWhitespace.id = true ∧ diagnostic ∈ trailingWhitespace.check
        (if kept tabIndentation.id then tabIndentation.advance view else view) := by
  obtain ⟨view, exempt, hview, hd⟩ := exists_view hblank hd hrule
  rcases mem_checkAll_selected.mp hd with ⟨-, h⟩ | ⟨rfl, hkept, h⟩ | ⟨-, -, h⟩
  · exact (ruleId_ne_of_mem_check h hrule (by decide)).elim
  · exact ⟨view, hview, hkept, h⟩
  · exact (ruleId_ne_of_mem_check h hrule (by decide)).elim

/-- Where the rule on tabs is dropped and the one on blanks at the end is not, a line with
    findings of both has a fix whose tabs are yet to be expanded. -/
theorem exists_expanded_ne (hblank : Text.allBlank document.text = false)
    (htab : kept tabIndentation.id = false) (htrailing : kept trailingWhitespace.id = true)
    (hshares : sharesLine (document.evaluate strict Rule.all).diagnostics) :
    ∃ diagnostic ∈ (document.evaluate strict (Rule.selected kept)).diagnostics,
      diagnostic.expanded ≠ diagnostic := by
  obtain ⟨front, hfront, back, hback, hfrontRule, hbackRule, hline⟩ := hshares
  have hall : Rule.all = Rule.selected fun _ => true := rfl
  rw [hall] at hfront hback
  obtain ⟨view, exempt, hview, hfront⟩ := exists_view_tab hblank hfront hfrontRule
  obtain ⟨other, hother, -, hback⟩ := exists_view_trailing hblank hback hbackRule
  rw [line_of_mem_check hfront, line_of_mem_check hback, if_pos rfl, number_advance,
    Option.some_inj] at hline
  obtain ⟨rfl, rfl⟩ := Prod.mk.inj (eq_of_mem_layoutViews hview hother hline)
  have hfresh := (isFresh_of_mem_layoutViews hview).1
  have hobjects : trailingWhitespace.objects view = true := (objects_of_mem_check hback).1
  obtain ⟨diagnostic, hd⟩ := exists_mem_check hobjects
  refine ⟨diagnostic, mem_diagnostics_of_view kept hblank hview (mem_checkAll_selected.mpr
    (Or.inr (Or.inl ⟨rfl, htrailing, by rw [htab, if_neg Bool.false_ne_true]; exact hd⟩))), ?_⟩
  intro hexpanded
  have hfix := congrArg Diagnostic.fix hexpanded
  rw [Diagnostic.expanded, if_pos (ruleId_of_mem_check hd), (objects_of_mem_check hd).2] at hfix
  simp only [correction?, Option.map_some, Option.some_inj] at hfix
  rw [Fix.indentLine_eq_self_iff, hfresh.current_eq,
    Line.startsWithTab_trimTrailing hfresh.trim_ne_nil] at hfix
  have hstarts : Line.startsWithTab view.line = true := (objects_of_mem_check hfront).1
  rw [hstarts] at hfix
  exact Bool.noConfusion hfix

/-- A fix whose tabs are yet to be expanded is on a line with findings of both rules. -/
theorem sharesLine_of_expanded_ne (hblank : Text.allBlank document.text = false)
    {diagnostic : Diagnostic}
    (hd : diagnostic ∈ (document.evaluate strict (Rule.selected kept)).diagnostics)
    (hne : diagnostic.expanded ≠ diagnostic) :
    kept tabIndentation.id = false ∧ kept trailingWhitespace.id = true ∧
      sharesLine (document.evaluate strict Rule.all).diagnostics := by
  have hrule : diagnostic.ruleId = some trailingWhitespace.id := by
    refine Decidable.byContradiction fun hrule => hne ?_
    exact Diagnostic.expanded_of_ruleId_ne hrule
  obtain ⟨view, hview, htrailing, hd⟩ := exists_view_trailing hblank hd hrule
  have hfresh := (isFresh_of_mem_layoutViews hview).1
  have hexpanded (line : Text) (hfix : diagnostic.fix = some (Line.trimTrailing line))
      (htrim : Text.trim line ≠ []) (htab : Line.startsWithTab line = false) : False := by
    refine hne ?_
    have hindent : Fix.indentLine (Line.trimTrailing line) = Line.trimTrailing line := by
      rw [Fix.indentLine_eq_self_iff, Line.startsWithTab_trimTrailing htrim, htab]
    rw [Diagnostic.expanded, if_pos hrule, hfix, Option.map_some, hindent, ← hfix]
  have hcurrent : Text.trim view.current ≠ [] := by
    rw [hfresh.current_eq]
    exact hfresh.trim_ne_nil
  cases hkept : kept tabIndentation.id with
  | true =>
    rw [hkept, if_pos rfl, advance_tabIndentation hfresh.current_eq] at hd
    exact (hexpanded _ (objects_of_mem_check hd).2 (Fix.trim_indentLine_ne_nil hcurrent)
      (Fix.startsWithTab_indentLine _)).elim
  | false =>
    rw [hkept, if_neg Bool.false_ne_true] at hd
    have htab : tabIndentation.objects view = true := by
      rw [objects, ← Bool.not_eq_false]
      intro htab
      rw [← hfresh.current_eq] at htab
      exact hexpanded _ (objects_of_mem_check hd).2 hcurrent htab
    obtain ⟨front, hfront⟩ := exists_mem_check htab
    have hobjects : trailingWhitespace.objects (tabIndentation.advance view) = true :=
      (objects_of_mem_check hd).1
    obtain ⟨back, hback⟩ := exists_mem_check hobjects
    have hmem {diagnostic : Diagnostic}
        (h : diagnostic ∈ tabIndentation.check view ++
          (trailingWhitespace.check (tabIndentation.advance view) ++ doubleColon.check view)) :
        diagnostic ∈ (document.evaluate strict Rule.all).diagnostics :=
      mem_diagnostics_of_view (fun _ => true) hblank hview
        ((checkAll_layoutRules false view).symm ▸ h)
    refine ⟨rfl, htrailing, front, hmem ?_, back, hmem ?_, ruleId_of_mem_check hfront,
      ruleId_of_mem_check hback, ?_⟩
    · exact List.mem_append_left _ hfront
    · exact List.mem_append_right _ (List.mem_append_left _ hback)
    · rw [line_of_mem_check hfront, line_of_mem_check hback, number_advance]

/-- When running all rules and dropping findings is the same as running the other rules. -/
theorem map_expanded_eq_self_iff (hblank : Text.allBlank document.text = false) :
    (document.evaluate strict (Rule.selected kept)).diagnostics.map Diagnostic.expanded =
        (document.evaluate strict (Rule.selected kept)).diagnostics ↔
      ¬(kept tabIndentation.id = false ∧ kept trailingWhitespace.id = true ∧
        sharesLine (document.evaluate strict Rule.all).diagnostics) := by
  constructor
  · rintro hmap ⟨htab, htrailing, hshares⟩
    obtain ⟨diagnostic, hd, hne⟩ := exists_expanded_ne hblank htab htrailing hshares
    refine hne (List.map_inj_left.mp (hmap.trans (List.map_id _).symm) diagnostic hd)
  · intro hnot
    refine (List.map_congr_left fun diagnostic hd => ?_).trans (List.map_id _)
    exact Decidable.byContradiction fun hne => hnot (sharesLine_of_expanded_ne hblank hd hne)

end Document

/-! ### What a workspace reports -/

namespace Workspace

variable {workspace : Workspace} {patterns : List CodePoints} {text path : Text}
  {document : Document}

theorem lintText_eq (hignored : workspace.config.ignored = .patterns (patterns.map .glob))
    (hload : Document.load text = .ok document) (fixed : Bool) :
    workspace.lintText text path fixed =
      .ok (.ofDiagnostics path ((document.evaluate workspace.strict Rule.all).diagnostics.filter
        (Diagnostic.comesFrom (keeps patterns))) fixed) := by
  rw [lintText, lint, hload, Except.map]
  simp only [Report.diagnostics_ofDiagnostics, reported_eq hignored]

/-- A workspace reports what the rules that it does not ignore find, with the tabs at the start
    of a line expanded in the fixes for its end.  This is exactly what these rules find, and
    fixing is exactly applying their fixes, unless the rule on tabs is ignored, the rule on
    blanks at the end is not, and some line has findings of both. -/
theorem lintText_ignored (hignored : workspace.config.ignored = .patterns (patterns.map .glob))
    (hload : Document.load text = .ok document) (hblank : Text.allBlank text = false)
    (fixed : Bool) :
    let selected :=
      (document.evaluate workspace.strict (Rule.selected (keeps patterns))).diagnostics
    workspace.lintText text path fixed =
        .ok (.ofDiagnostics path (selected.map Diagnostic.expanded) fixed) ∧
      workspace.fixText text path = .ok (Fix.apply text (selected.map Diagnostic.expanded)) ∧
      ((workspace.lintText text path fixed = .ok (.ofDiagnostics path selected fixed) ∧
          workspace.fixText text path = .ok (Fix.apply text selected)) ↔
        ¬(keeps patterns LayoutRule.tabIndentation.id = false ∧
          keeps patterns LayoutRule.trailingWhitespace.id = true ∧
          sharesLine (document.evaluate workspace.strict Rule.all).diagnostics)) := by
  intro selected
  have hdocument : Text.allBlank document.text = false := by
    obtain ⟨outline, -, rfl⟩ := Document.load_eq_ok_iff.mp hload
    exact hblank
  have hlint (fixed : Bool) : workspace.lintText text path fixed =
      .ok (.ofDiagnostics path (selected.map Diagnostic.expanded) fixed) := by
    rw [lintText_eq hignored hload, Document.filter_diagnostics_evaluate _ hdocument]
  have hfix : workspace.fixText text path =
      .ok (Fix.apply text (selected.map Diagnostic.expanded)) := by
    rw [fixText, hlint]
    simp only [Report.diagnostics_ofDiagnostics]
  refine ⟨hlint fixed, hfix, ?_⟩
  rw [← Document.map_expanded_eq_self_iff hdocument, hlint, hfix]
  constructor
  · rintro ⟨hreport, -⟩
    exact congrArg Report.diagnostics (Except.ok.inj hreport)
  · intro hmap
    rw [show selected.map Diagnostic.expanded = selected from hmap]
    exact ⟨rfl, rfl⟩

/-- Ignoring the rule on secrets is not running it. -/
theorem lintText_ignored_secret :
    let workspace : Workspace :=
      ⟨[], { Config.default with ignored := .patterns [.glob (CodePoints.ofText "security/*")] }, true⟩
    let text : Text := "token: 'x' "
    let document : Document :=
      ⟨text, [text], .mapping [⟨"token", some 1, .scalar (.str "x") (some 1)⟩] none, []⟩
    Document.load text = .ok document ∧
      workspace.lintText text "ci.yml" false =
        .ok (.ofDiagnostics "ci.yml" (document.evaluate true
          (Rule.selected (keeps [CodePoints.ofText "security/*"]))).diagnostics false) := by
  intro workspace text document
  have hload : Document.load text = .ok document := rfl
  have hignored : workspace.config.ignored =
      .patterns ([CodePoints.ofText "security/*"].map .glob) := rfl
  refine ⟨hload, ((lintText_ignored hignored hload (by decide) false).2.2.mpr ?_).1⟩
  rintro ⟨htab, -, -⟩
  exact absurd htab (by decide +kernel)

/-- Ignoring the rule on tabs is not the same as not running it: the tab is expanded with the
    fix for the end of the line. -/
theorem fixText_ne_selected_tab :
    let patterns := [CodePoints.ofText "syntax/tab-indentation"]
    let workspace : Workspace :=
      ⟨[], { Config.default with ignored := .patterns (patterns.map .glob) }, true⟩
    let text : Text := "\tname: x "
    let document : Document :=
      ⟨text, [text], .mapping [⟨"name", some 1, .scalar (.str "x") (some 1)⟩] none, []⟩
    Document.load text = .ok document ∧
      workspace.fixText text "ci.yml" = .ok "  name: x" ∧
      Fix.apply text (document.evaluate true (Rule.selected (keeps patterns))).diagnostics =
        "\tname: x" := by
  intro patterns workspace text document
  refine ⟨rfl, ?_, ?_⟩
  · rfl
  · decide +kernel

end Workspace

end WorkflowLint
