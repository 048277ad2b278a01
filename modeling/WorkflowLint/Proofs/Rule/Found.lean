/-
  WorkflowLint/Proofs/Rule/Found.lean
  ===================================
  **What one rule finds.**

  The findings that a full evaluation has under the identifier of a rule are those that
  the rule makes alone: on the document if it is a structure rule
  (`foundBy_structureRule`), and on one line after the other if it is a content rule
  (`mem_foundBy_contentRule`).
-/
import WorkflowLint.Proofs.Rule.Ignored
import WorkflowLint.Proofs.Rule.WellFormed

namespace WorkflowLint

/-! ### Findings on lines -/

variable {strict : Bool} {number : Int} {lines : List Text} {finding : Diagnostic}

theorem mem_contentFindings_iff {rules : List ContentRule} :
    finding ∈ contentFindings strict rules number lines ↔
      ∃ (index : Nat) (line : Text), lines[index]? = some line ∧ ∃ rule ∈ rules, finding ∈
        rule.check ⟨line, number + index, lines.drop (index + 1), strict, line⟩ := by
  induction lines generalizing number with
  | nil => simp [contentFindings]
  | cons line rest ih =>
    have hnumber (index : Nat) : number + ((index + 1 : Nat) : Int) = number + 1 + index := by
      omega
    rw [contentFindings, List.mem_append, List.mem_flatMap, ih]
    constructor
    · rintro (⟨rule, hrule, h⟩ | ⟨index, found, hline, h⟩)
      · refine ⟨0, line, rfl, rule, hrule, ?_⟩
        rwa [Int.natCast_zero, Int.add_zero]
      · refine ⟨index + 1, found, hline, ?_⟩
        rwa [hnumber, List.drop_succ_cons]
    · rintro ⟨index, found, hline, rule, hrule, h⟩
      cases index with
      | zero =>
        obtain rfl : line = found := Option.some_inj.mp hline
        rw [Int.natCast_zero, Int.add_zero] at h
        exact Or.inl ⟨rule, hrule, h⟩
      | succ index =>
        rw [hnumber, List.drop_succ_cons] at h
        exact Or.inr ⟨index, found, hline, rule, hrule, h⟩

namespace StructureRule

theorem mem_deprecationsFrom_iff :
    finding ∈ deprecationsFrom number lines ↔
      ∃ (index : Nat) (line : Text) (entry : Catalog.Deprecation), lines[index]? = some line ∧
        deprecationOn? line = some entry ∧ finding = deprecationFinding (number + index) entry := by
  induction lines generalizing number with
  | nil => simp [deprecationsFrom]
  | cons line rest ih =>
    have hnumber (index : Nat) : number + ((index + 1 : Nat) : Int) = number + 1 + index := by
      omega
    rw [deprecationsFrom, List.mem_append, Option.mem_toList, Option.map_eq_some_iff, ih]
    constructor
    · rintro (⟨entry, hentry, rfl⟩ | ⟨index, found, entry, hline, hentry, rfl⟩)
      · refine ⟨0, line, entry, rfl, hentry, ?_⟩
        rw [Int.natCast_zero, Int.add_zero]
      · exact ⟨index + 1, found, entry, hline, hentry, by rw [hnumber]⟩
    · rintro ⟨index, found, entry, hline, hentry, rfl⟩
      cases index with
      | zero =>
        obtain rfl : line = found := Option.some_inj.mp hline
        exact Or.inl ⟨entry, hentry, by rw [Int.natCast_zero, Int.add_zero]⟩
      | succ index => exact Or.inr ⟨index, found, entry, hline, hentry, by rw [hnumber]⟩

end StructureRule

/-! ### Findings under an identifier -/

theorem Rule.selected_beq (rule : Rule) : selected (· == rule.id) = [rule] := by
  cases rule with
  | layout rule => cases rule <;> decide
  | document rule => cases rule <;> decide
  | content rule => cases rule <;> decide

theorem layoutFindings_nil (inBlock : Bool) :
    layoutFindings strict [] number inBlock lines = [] := by
  rw [layoutFindings_eq_flatMap, List.flatMap_eq_nil_iff]
  rintro ⟨view, exempt⟩ -
  cases exempt <;> rfl

theorem contentFindings_nil : contentFindings strict [] number lines = [] := by
  rw [List.eq_nil_iff_forall_not_mem]
  intro finding h
  obtain ⟨_, _, _, _, hrule, _⟩ := mem_contentFindings_iff.mp h
  exact absurd hrule List.not_mem_nil

namespace Document

/-- The findings of an evaluation of all rules that come under one identifier. -/
def foundBy (document : Document) (strict : Bool) (ruleId : Text) : List Diagnostic :=
  (document.evaluate strict Rule.all).diagnostics.filter fun finding =>
    finding.ruleId == some ruleId

variable {document : Document}

theorem mem_foundBy {ruleId : Text} : finding ∈ document.foundBy strict ruleId ↔
    finding ∈ (document.evaluate strict Rule.all).diagnostics ∧ finding.ruleId = some ruleId := by
  rw [foundBy, List.mem_filter, beq_iff_eq]

theorem exists_mem_diagnostics_iff (document : Document) (strict : Bool) (ruleId : Text)
    (p : Diagnostic → Prop) :
    (∃ finding ∈ (document.evaluate strict Rule.all).diagnostics,
      finding.ruleId = some ruleId ∧ p finding) ↔
        ∃ finding ∈ document.foundBy strict ruleId, p finding := by
  simp only [mem_foundBy, and_assoc]

/-- What comes under the identifier of a rule is found by the rule alone. -/
theorem foundBy_eq (hblank : Text.allBlank document.text = false) (strict : Bool) (rule : Rule)
    (hrule : rule.id ≠ LayoutRule.trailingWhitespace.id)
    (hfound : ∀ finding ∈ (document.evaluate strict [rule]).diagnostics,
      finding.ruleId = some rule.id) :
    document.foundBy strict rule.id = (document.evaluate strict [rule]).diagnostics := by
  have hkept (finding : Diagnostic) (h : (finding.ruleId == some rule.id) = true) :
      Diagnostic.comesFrom (· == rule.id) finding = true := by
    rw [Diagnostic.comesFrom, beq_iff_eq.mp h]
    exact beq_self_eq_true rule.id
  have hselected := filter_diagnostics_evaluate (· == rule.id) hblank strict
  rw [Rule.selected_beq, map_expanded_of_ruleId hrule hfound] at hselected
  rw [foundBy, ← List.filter_eq_self.mpr fun finding h => beq_iff_eq.mpr (hfound finding h),
    ← hselected, List.filter_filter]
  refine List.filter_congr fun finding _ => ?_
  cases h : finding.ruleId == some rule.id with
  | true => rw [hkept finding h, Bool.and_true]
  | false => rw [Bool.false_and]

theorem foundBy_structureRule (hblank : Text.allBlank document.text = false) (strict : Bool)
    (rule : StructureRule) : document.foundBy strict rule.id = rule.analyze document := by
  have halone : (document.evaluate strict [.document rule]).diagnostics =
      rule.analyze document := by
    rw [diagnostics_evaluate hblank, show [Rule.document rule].filterMap Rule.layout? = [] from rfl,
      show [Rule.document rule].filterMap Rule.content? = [] from rfl, layoutFindings_nil,
      contentFindings_nil, List.nil_append, List.append_nil]
    exact List.flatMap_singleton ..
  rw [← halone]
  refine foundBy_eq hblank strict (.document rule) (rule.id_ne_layout _) ?_
  rw [halone]
  exact fun finding h => StructureRule.ruleId_of_mem_analyze h

theorem foundBy_contentRule (hblank : Text.allBlank document.text = false) (strict : Bool)
    (rule : ContentRule) :
    document.foundBy strict rule.id = contentFindings strict [rule] 1 document.lines := by
  have halone : (document.evaluate strict [.content rule]).diagnostics =
      contentFindings strict [rule] 1 document.lines := by
    rw [diagnostics_evaluate hblank, show [Rule.content rule].filterMap Rule.layout? = [] from rfl,
      layoutFindings_nil]
    rfl
  rw [← halone]
  refine foundBy_eq hblank strict (.content rule) (rule.id_ne_layout _) ?_
  rw [halone]
  intro finding h
  obtain ⟨index, line, -, other, hother, h⟩ := mem_contentFindings_iff.mp h
  rw [List.mem_singleton] at hother
  exact hother ▸ ContentRule.ruleId_of_mem_check h

theorem mem_foundBy_contentRule (hblank : Text.allBlank document.text = false)
    {rule : ContentRule} : finding ∈ document.foundBy strict rule.id ↔
      ∃ (index : Nat) (line : Text), document.lines[index]? = some line ∧ finding ∈
        rule.check ⟨line, index + 1, document.lines.drop (index + 1), strict, line⟩ := by
  simp [foundBy_contentRule hblank, mem_contentFindings_iff, Int.add_comm]

/-- A content rule finds something about a line if it objects to it. -/
theorem exists_mem_foundBy_iff (hblank : Text.allBlank document.text = false)
    {rule : ContentRule} {index : Nat} {line : Text} (hline : document.lines[index]? = some line) :
    (∃ finding ∈ document.foundBy strict rule.id, finding.line = some (index + 1 : Int)) ↔
      rule.objections ⟨line, index + 1, document.lines.drop (index + 1), strict, line⟩ ≠ [] := by
  constructor
  · rintro ⟨finding, hfinding, hnumber⟩ hnil
    obtain ⟨other, found, hfound, hcheck⟩ := (mem_foundBy_contentRule hblank).mp hfinding
    obtain ⟨message, hmessage, rfl⟩ := List.mem_map.mp hcheck
    obtain rfl : other = index := by
      have hother : (other : Int) + 1 = index + 1 := Option.some_inj.mp hnumber
      omega
    obtain rfl := Option.some_inj.mp (hline.symm.trans hfound)
    rw [hnil] at hmessage
    exact absurd hmessage List.not_mem_nil
  · intro hne
    obtain ⟨message, hmessage⟩ := List.exists_mem_of_ne_nil _ hne
    exact ⟨_, (mem_foundBy_contentRule hblank).mpr
      ⟨index, line, hline, List.mem_map_of_mem hmessage⟩, rfl⟩

theorem mem_foundBy_deprecatedAction (hblank : Text.allBlank document.text = false) :
    finding ∈ document.foundBy strict StructureRule.deprecatedAction.id ↔
      ∃ (index : Nat) (line : Text) (entry : Catalog.Deprecation),
        document.lines[index]? = some line ∧ StructureRule.deprecationOn? line = some entry ∧
          finding = StructureRule.deprecationFinding (index + 1) entry := by
  simp [foundBy_structureRule hblank, StructureRule.analyze,
    StructureRule.mem_deprecationsFrom_iff, Int.add_comm]

/-- A text in which a mapping has an entry is not blank. -/
theorem allBlank_eq_false {text : Text} (hload : load text = .ok document) {address : Address}
    {entries : List (Entry Node)} {mapLine : Option Int}
    (hat : document.outline.tree.at? address = some (.mapping entries mapLine))
    {entry : Entry Node} (hentry : entry ∈ entries) : Text.allBlank document.text = false := by
  obtain ⟨number, value, -, ⟨index, line, content, -, hline, hcontent, -⟩, -⟩ :=
    (keysRecorded_of_load hload).exists_hasPair hat hentry
  rw [lines_of_load hload] at hline
  rw [text_of_load hload, ← Text.joinLines_lines text, Text.allBlank_joinLines,
    List.all_eq_false]
  refine ⟨line, List.mem_of_getElem? hline, fun hblank => ?_⟩
  have htext : Line.isIgnorable line = false := by
    rw [← Bool.not_eq_true, ← Outline.State.content?_eq_none_iff, hcontent]
    exact Option.some_ne_none content
  exact Line.trim_ne_nil htext (Text.trim_eq_nil.mpr hblank)

end Document

end WorkflowLint
