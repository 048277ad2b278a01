/-
  WorkflowLint/Proofs/Rule/Order.lean
  ===================================
  **The order of rules.**

  Rules may be run in any order.  Rules on documents and on the content of lines do
  not see each other.  Layout rules do, but the rule on tabs runs before all others
  wherever it stands, and of the others only one corrects a line.  So another order
  of the rules gives the same findings in another order, and those of them that can
  be fixed in the same one (`Reordered`), which is all that fixes depend on.
-/
import WorkflowLint.Proofs.Rule.Selection

namespace WorkflowLint

/-- The same findings in another order; those that can be fixed keep their order. -/
structure Reordered (findings others : List Diagnostic) : Prop where
  perm : findings.Perm others
  fixable_eq : findings.filter Diagnostic.isFixable = others.filter Diagnostic.isFixable

namespace Reordered

variable {findings others front front' back back' : List Diagnostic}

theorem refl (findings : List Diagnostic) : Reordered findings findings := ⟨.refl _, rfl⟩

theorem symm (h : Reordered findings others) : Reordered others findings :=
  ⟨h.perm.symm, h.fixable_eq.symm⟩

theorem trans {last : List Diagnostic} (h : Reordered findings others)
    (h' : Reordered others last) : Reordered findings last :=
  ⟨h.perm.trans h'.perm, h.fixable_eq.trans h'.fixable_eq⟩

theorem append (hfront : Reordered front front') (hback : Reordered back back') :
    Reordered (front ++ back) (front' ++ back') := by
  refine ⟨hfront.perm.append hback.perm, ?_⟩
  rw [List.filter_append, List.filter_append, hfront.fixable_eq, hback.fixable_eq]

/-- Two runs of findings may change places if one of them holds nothing that can be fixed. -/
theorem append_comm (h : front.filter Diagnostic.isFixable = [] ∨
    back.filter Diagnostic.isFixable = []) : Reordered (front ++ back) (back ++ front) := by
  refine ⟨List.perm_append_comm, ?_⟩
  rw [List.filter_append, List.filter_append]
  rcases h with h | h
  · rw [h, List.nil_append, List.append_nil]
  · rw [h, List.nil_append, List.append_nil]

theorem flatMap_congr {α : Type} {find find' : α → List Diagnostic} {sources : List α}
    (h : ∀ source ∈ sources, Reordered (find source) (find' source)) :
    Reordered (sources.flatMap find) (sources.flatMap find') := by
  induction sources with
  | nil => exact .refl []
  | cons source rest ih =>
    rw [List.flatMap_cons, List.flatMap_cons]
    exact (h source (List.mem_cons_self ..)).append
      (ih fun other hother => h other (List.mem_cons_of_mem _ hother))

/-- Rules of which only one finds what can be fixed may be run in any order. -/
theorem flatMap_perm {α : Type} {find : α → List Diagnostic} {rules rules' : List α}
    (hperm : rules.Perm rules')
    (hfix : ∀ rule other, rule ≠ other → (find rule).filter Diagnostic.isFixable = [] ∨
      (find other).filter Diagnostic.isFixable = []) :
    Reordered (rules.flatMap find) (rules'.flatMap find) := by
  induction hperm with
  | nil => exact .refl []
  | cons rule _ ih =>
    rw [List.flatMap_cons, List.flatMap_cons]
    exact (refl _).append ih
  | swap rule other rest =>
    rw [List.flatMap_cons, List.flatMap_cons, List.flatMap_cons, List.flatMap_cons,
      ← List.append_assoc, ← List.append_assoc]
    refine append ?_ (refl _)
    by_cases heq : other = rule
    · rw [heq]
      exact refl _
    · exact append_comm (hfix other rule heq)
  | trans _ _ ih ih' => exact ih.trans ih'

/-- Fixes depend on the findings that can be fixed. -/
theorem apply_eq (h : Reordered findings others) (text : Text) :
    Fix.apply text findings = Fix.apply text others := by
  have hplan : Fix.plan findings = Fix.plan others := by rw [Fix.plan, Fix.plan, h.fixable_eq]
  rw [Fix.apply, Fix.apply, Fix.run, Fix.run, hplan]

end Reordered

/-! ### Layout rules -/

namespace LayoutRule

variable {rules others : List LayoutRule}

/-- The line as some rules one after the other leave it. -/
def advanceAll (rules : List LayoutRule) (view : LineView) : LineView :=
  rules.foldl (fun view rule => rule.advance view) view

theorem checkAll_append (rules more : List LayoutRule) (view : LineView) :
    checkAll (rules ++ more) view = checkAll rules view ++ checkAll more (advanceAll rules view) := by
  induction rules generalizing view with
  | nil => rfl
  | cons rule rest ih =>
    rw [List.cons_append, checkAll, checkAll, ih, List.append_assoc]
    rfl

theorem advance_doubleColon (view : LineView) : doubleColon.advance view = view := by
  rw [advance, correct?]
  split <;> rfl

/-- The rule on double colons does not mind what stands before it. -/
theorem check_doubleColon_advance (rule : LayoutRule) (view : LineView) :
    doubleColon.check (rule.advance view) = doubleColon.check view := rfl

theorem filter_check_doubleColon (view : LineView) :
    (doubleColon.check view).filter Diagnostic.isFixable = [] := by
  refine List.filter_eq_nil_iff.mpr fun diagnostic hd => ?_
  rw [Diagnostic.isFixable, (objects_of_mem_check hd).2]
  simp [correction?]

/-- The rule on double colons may change places with the rule after it. -/
theorem reordered_doubleColon (rule : LayoutRule) (rest : List LayoutRule) (view : LineView) :
    Reordered (checkAll (doubleColon :: rule :: rest) view)
      (checkAll (rule :: doubleColon :: rest) view) := by
  simp only [checkAll, advance_doubleColon, check_doubleColon_advance]
  rw [← List.append_assoc, ← List.append_assoc]
  exact (Reordered.append_comm (.inl (filter_check_doubleColon view))).append (.refl _)

/-- Among rules that all look into block scalars, or all do not, at most one has a correction. -/
theorem eq_or_doubleColon {rule other : LayoutRule}
    (h : rule.checksBlockBody = other.checksBlockBody) :
    rule = other ∨ rule = doubleColon ∨ other = doubleColon := by
  cases rule <;> cases other <;> simp [checksBlockBody] at h ⊢

theorem reordered_checkAll (hperm : rules.Perm others) {body : Bool}
    (hbody : ∀ rule ∈ rules, rule.checksBlockBody = body) (view : LineView) :
    Reordered (checkAll rules view) (checkAll others view) ∧
      advanceAll rules view = advanceAll others view := by
  induction hperm generalizing view with
  | nil => exact ⟨.refl [], rfl⟩
  | cons rule _ ih =>
    obtain ⟨hfindings, hview⟩ :=
      ih (fun other hother => hbody other (List.mem_cons_of_mem _ hother)) (rule.advance view)
    exact ⟨(Reordered.refl _).append hfindings, hview⟩
  | swap rule other rest =>
    have hsame : other.checksBlockBody = rule.checksBlockBody := by
      rw [hbody other (List.mem_cons_self ..),
        hbody rule (List.mem_cons_of_mem _ (List.mem_cons_self ..))]
    rcases eq_or_doubleColon hsame with rfl | rfl | rfl
    · exact ⟨.refl _, rfl⟩
    · exact ⟨reordered_doubleColon rule rest view,
        by simp only [advanceAll, List.foldl_cons, advance_doubleColon]⟩
    · exact ⟨(reordered_doubleColon other rest view).symm,
        by simp only [advanceAll, List.foldl_cons, advance_doubleColon]⟩
  | trans hfirst _ ih ih' =>
    obtain ⟨hfindings, hview⟩ := ih hbody view
    obtain ⟨hfindings', hview'⟩ :=
      ih' (fun rule hrule => hbody rule (hfirst.mem_iff.mpr hrule)) view
    exact ⟨hfindings.trans hfindings', hview.trans hview'⟩

/-- On one line, the rule on tabs runs first wherever it stands. -/
theorem reordered_layoutRulesFor (hperm : rules.Perm others) (inBlock : Bool) (view : LineView) :
    Reordered (checkAll (layoutRulesFor rules inBlock) view)
      (checkAll (layoutRulesFor others inBlock) view) := by
  have hfirst := reordered_checkAll (hperm.filter checksBlockBody)
    (fun rule hrule => (List.mem_filter.mp hrule).2) view
  rw [layoutRulesFor, layoutRulesFor, checkAll_append, checkAll_append, ← hfirst.2]
  refine hfirst.1.append ?_
  cases inBlock with
  | true => exact .refl _
  | false =>
    have hbody : ∀ rule ∈ rules.filter (fun rule => !rule.checksBlockBody),
        rule.checksBlockBody = false := fun rule hrule => by
      simpa using (List.mem_filter.mp hrule).2
    exact (reordered_checkAll (hperm.filter _) hbody _).1

end LayoutRule

/-! ### Findings of all rules -/

theorem reordered_layoutFindings {rules others : List LayoutRule} (hperm : rules.Perm others)
    (strict : Bool) (number : Int) (inBlock : Bool) (lines : List Text) :
    Reordered (layoutFindings strict rules number inBlock lines)
      (layoutFindings strict others number inBlock lines) := by
  rw [layoutFindings_eq_flatMap, layoutFindings_eq_flatMap]
  exact .flatMap_congr fun pair _ => LayoutRule.reordered_layoutRulesFor hperm pair.2 pair.1

theorem reordered_analyze {rules others : List StructureRule} (hperm : rules.Perm others)
    (document : Document) :
    Reordered (rules.flatMap fun rule => rule.analyze document)
      (others.flatMap fun rule => rule.analyze document) := by
  have hnone {rule : StructureRule} (hrule : rule ≠ .deprecatedAction) :
      (rule.analyze document).filter Diagnostic.isFixable = [] :=
    List.filter_eq_nil_iff.mpr fun diagnostic hd => by
      simp [StructureRule.not_isFixable_analyze hrule hd]
  refine .flatMap_perm hperm fun rule other hne => ?_
  by_cases hrule : rule = .deprecatedAction
  · exact .inr (hnone fun hother => hne (hrule.trans hother.symm))
  · exact .inl (hnone hrule)

theorem reordered_contentFindings {rules others : List ContentRule} (hperm : rules.Perm others)
    (strict : Bool) (number : Int) (lines : List Text) :
    Reordered (contentFindings strict rules number lines)
      (contentFindings strict others number lines) := by
  induction lines generalizing number with
  | nil => exact .refl []
  | cons line rest ih =>
    rw [contentFindings, contentFindings]
    refine Reordered.append (.flatMap_perm hperm fun rule _ _ => .inl ?_) (ih (number + 1))
    refine List.filter_eq_nil_iff.mpr fun diagnostic hd => ?_
    obtain ⟨message, -, rfl⟩ := List.mem_map.mp hd
    simp [Diagnostic.isFixable]

theorem Document.reordered_evaluate {rules others : List Rule} (hperm : rules.Perm others)
    (document : Document) (strict : Bool) :
    Reordered (document.evaluate strict rules).diagnostics
      (document.evaluate strict others).diagnostics := by
  cases hblank : Text.allBlank document.text with
  | true =>
    rw [evaluate, evaluate, hblank]
    exact .refl _
  | false =>
    rw [diagnostics_evaluate hblank, diagnostics_evaluate hblank]
    have hlayout := reordered_layoutFindings (hperm.filterMap Rule.layout?) strict 1 false
      document.lines
    have hdocument := reordered_analyze (hperm.filterMap Rule.document?) document
    have hcontent := reordered_contentFindings (hperm.filterMap Rule.content?) strict 1
      document.lines
    exact (hlayout.append hdocument).append hcontent

/-- Rules in another order refuse the same texts for the same reason, or find the same, and
    their fixes come to the same text. -/
theorem lint_perm {rules others : List Rule} (hperm : rules.Perm others) (strict : Bool)
    (text path : Text) (fixed : Bool) :
    (∃ fault, lint strict rules text path fixed = .error fault ∧
      lint strict others text path fixed = .error fault) ∨
    ∃ report other, lint strict rules text path fixed = .ok report ∧
      lint strict others text path fixed = .ok other ∧
      report.diagnostics.Perm other.diagnostics ∧
      Fix.apply text report.diagnostics = Fix.apply text other.diagnostics := by
  rw [lint, lint]
  cases Document.load text with
  | error fault => exact .inl ⟨fault, rfl, rfl⟩
  | ok document =>
    have hfindings := document.reordered_evaluate hperm strict
    exact .inr ⟨_, _, rfl, rfl, hfindings.perm, hfindings.apply_eq text⟩

/-- A rule that runs twice, and three rules on one line: their findings change places, and the
    fixes do not. -/
theorem lint_perm_repeated :
    let rules : List Rule :=
      [.layout .trailingWhitespace, .document .deprecatedAction, .layout .doubleColon,
        .layout .tabIndentation, .layout .trailingWhitespace]
    let others : List Rule :=
      [.layout .doubleColon, .layout .trailingWhitespace, .layout .trailingWhitespace,
        .layout .tabIndentation, .document .deprecatedAction]
    let text : Text := "\ta:: \nuses: actions/cache@v2"
    rules.Perm others ∧ ∃ report other, lint true rules text "ci.yml" false = .ok report ∧
      lint true others text "ci.yml" false = .ok other ∧
      report.diagnostics ≠ other.diagnostics ∧ report.diagnostics.Perm other.diagnostics ∧
      Fix.apply text report.diagnostics = "  a::\nuses: actions/cache@v4" ∧
      Fix.apply text other.diagnostics = "  a::\nuses: actions/cache@v4" := by
  intro rules others text
  have hperm : rules.Perm others := by decide
  let document : Document :=
    ⟨text, ["\ta:: ", "uses: actions/cache@v2"],
      .mapping [⟨"a:", some 1, .mapping [] (some 1)⟩,
        ⟨"uses", some 2, .scalar (.str "actions/cache@v2") (some 2)⟩] none, []⟩
  have hfound (rules : List Rule) : lint true rules text "ci.yml" false =
      .ok (.ofDiagnostics "ci.yml" (document.evaluate true rules).diagnostics false) := rfl
  have hne : (document.evaluate true rules).diagnostics ≠
      (document.evaluate true others).diagnostics := by decide +kernel
  have hfixed : Fix.apply text (document.evaluate true rules).diagnostics =
      "  a::\nuses: actions/cache@v4" := by decide +kernel
  refine ⟨hperm, _, _, hfound rules, hfound others, hne, ?_⟩
  rcases lint_perm hperm true text "ci.yml" false with ⟨fault, hfault, -⟩ | hboth
  · rw [hfound] at hfault
    cases hfault
  · obtain ⟨report, other, hreport, hother, hfindings, hfixes⟩ := hboth
    rw [hfound, Except.ok.injEq] at hreport hother
    subst hreport hother
    exact ⟨hfindings, hfixed, hfixes.symm.trans hfixed⟩

end WorkflowLint
