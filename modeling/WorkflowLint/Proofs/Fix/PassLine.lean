/-
  WorkflowLint/Proofs/Fix/PassLine.lean
  =====================================
  **What a pass makes of a line.**

  On a line with a text of its own, a pass leaves the trimmed text as it is, but
  for a version digit, and whether the line is indented.  This holds for every
  combination of corrections (`Passed`), so that rules may be ignored.
-/
import WorkflowLint.Proofs.Fix.Pass

namespace WorkflowLint

namespace Fix

open Text (blur)

variable {line : Text}

/-! ### After the layout rules -/

theorem trim_indentLine (line : Text) : Text.trim (indentLine line) = Text.trim line := by
  rw [indentLine]
  split
  · exact Line.trim_expandLeadingTabs line
  · rfl

theorem isIndented_indentLine (line : Text) :
    Line.isIndented (indentLine line) = Line.isIndented line := by
  rw [indentLine]
  split
  · exact Line.isIndented_expandLeadingTabs line
  · rfl

theorem startsWithTab_indentLine (line : Text) : Line.startsWithTab (indentLine line) = false := by
  rw [indentLine]
  split
  · exact Line.startsWithTab_expandLeadingTabs line
  · rename_i h
    exact Bool.eq_false_iff.mpr h

theorem usesReference?_indentLine (line : Text) :
    Line.usesReference? (indentLine line) = Line.usesReference? line := by
  rw [indentLine]
  split
  · exact Line.usesReference?_expandLeadingTabs line
  · rfl

theorem not_mem_indentLine {c : Char} (hc : c ≠ ' ') (hline : c ∉ line) : c ∉ indentLine line := by
  rw [indentLine]
  split
  · obtain ⟨front, spaces, text, -, hspaces, -, hsplit, hexpand⟩ :=
      Line.exists_expandLeadingTabs line
    rw [hsplit, List.mem_append, not_or] at hline
    rw [hexpand, List.mem_append, not_or]
    exact ⟨fun hmem => hc (hspaces _ hmem), hline.2⟩
  · exact hline

/-- A first character that does not indent the line was the first before. -/
theorem head?_of_indentLine {c : Char} (hc : Text.isIndent c = false)
    (h : (indentLine line).head? = some c) : line.head? = some c := by
  have hplain : Line.isIndented (indentLine line) = false := by simp [Line.isIndented, h, hc]
  rw [isIndented_indentLine] at hplain
  rw [indentLine] at h
  split at h
  · rename_i htab
    rw [Line.startsWithTab, beq_iff_eq] at htab
    simp [Line.isIndented, htab, Text.isIndent] at hplain
  · exact h

theorem indentLine_of_not_startsWithTab {line : Text} (h : Line.startsWithTab line = false) :
    indentLine line = line := by
  rw [indentLine, h, if_neg Bool.false_ne_true]

theorem indentLine_indentLine (line : Text) : indentLine (indentLine line) = indentLine line :=
  indentLine_of_not_startsWithTab (startsWithTab_indentLine line)

theorem indentLine_eq_self_iff {line : Text} :
    indentLine line = line ↔ Line.startsWithTab line = false := by
  constructor
  · intro h
    rw [← h]
    exact startsWithTab_indentLine line
  · exact indentLine_of_not_startsWithTab

theorem indentLine_trimTrailing {line : Text} (h : Text.trim line ≠ []) :
    indentLine (Line.trimTrailing line) = Line.trimTrailing (indentLine line) := by
  rw [indentLine, indentLine, Line.startsWithTab_trimTrailing h]
  split
  · exact Line.expandLeadingTabs_trimTrailing h
  · rfl

theorem trim_indentLine_ne_nil (hne : Text.trim line ≠ []) : Text.trim (indentLine line) ≠ [] := by
  rw [trim_indentLine]
  exact hne

/-- Where blanks at the end of a line are not checked or not there, they are not cut off. -/
theorem endsInIndent_indentLine (hne : Text.trim line ≠ []) :
    Line.endsInIndent (indentLine line) = Line.endsInIndent line := by
  rw [indentLine]
  split
  · rw [Line.endsInIndent, Line.getLast?_expandLeadingTabs hne]
    rfl
  · rfl

/-- A line as layout rules may leave it: as it was, or with its start expanded, and then maybe
    with its end cut off. -/
inductive Laid (line : Text) : Text → Prop where
  | same : Laid line line
  | indented : Laid line (indentLine line)
  | trimmed : Laid line (Line.trimTrailing (indentLine line))

theorem laid_layoutLine (strict exempt : Bool) (line : Text) :
    Laid line (layoutLine strict exempt line) := by
  rw [layoutLine]
  split
  · exact .trimmed
  · exact .indented

section Laid

variable {laid : Text}

theorem Laid.trim_eq (h : Laid line laid) : Text.trim laid = Text.trim line := by
  cases h with
  | same => rfl
  | indented => exact trim_indentLine line
  | trimmed => rw [Line.trim_trimTrailing, trim_indentLine]

theorem Laid.isIndented_eq (h : Laid line laid) (hne : Text.trim line ≠ []) :
    Line.isIndented laid = Line.isIndented line := by
  cases h with
  | same => rfl
  | indented => exact isIndented_indentLine line
  | trimmed =>
    rw [Line.isIndented_trimTrailing (trim_indentLine_ne_nil hne), isIndented_indentLine]

theorem Laid.not_mem (h : Laid line laid) {c : Char} (hc : c ≠ ' ') (hline : c ∉ line) :
    c ∉ laid := by
  cases h with
  | same => exact hline
  | indented => exact not_mem_indentLine hc hline
  | trimmed =>
    obtain ⟨back, -, hsplit⟩ := Line.exists_trimTrailing (indentLine line)
    have hmem := not_mem_indentLine hc hline
    rw [hsplit, List.mem_append, not_or] at hmem
    exact hmem.1

theorem Laid.head?_eq (h : Laid line laid) {c : Char} (hc : Text.isIndent c = false)
    (hlaid : laid.head? = some c) : line.head? = some c := by
  cases h with
  | same => exact hlaid
  | indented => exact head?_of_indentLine hc hlaid
  | trimmed =>
    obtain ⟨back, -, hsplit⟩ := Line.exists_trimTrailing (indentLine line)
    apply head?_of_indentLine hc
    rw [hsplit, List.head?_append, hlaid, Option.some_or]

theorem Laid.usesReference?_eq (h : Laid line laid) (hne : Text.trim line ≠ [])
    (hline : '\n' ∉ line) : Line.usesReference? laid = Line.usesReference? line := by
  cases h with
  | same => rfl
  | indented => exact usesReference?_indentLine line
  | trimmed =>
    rw [Line.usesReference?_trimTrailing (trim_indentLine_ne_nil hne)
      (not_mem_indentLine (by decide) hline), usesReference?_indentLine]

/-! ### After the replacement -/

/-- A pass replaces an outdated reference in its place, or leaves the line as the layout
    rules corrected it. -/
theorem Laid.updateLine_cases (h : Laid line laid) (hne : Text.trim line ≠ [])
    (hline : '\n' ∉ line) :
    (StructureRule.deprecationOn? line = none ∧ updateLine line laid = laid) ∨
      ∃ (entry : Catalog.Deprecation) (uses : Line.UsesLine),
        StructureRule.deprecationOn? line = some entry ∧ Catalog.Known entry ∧
          laid = uses.line entry.outdated ∧ updateLine line laid = uses.line entry.replacement := by
  rw [updateLine]
  have hlaid := StructureRule.deprecationOn?_congr (h.usesReference?_eq hne hline)
  cases hentry : StructureRule.deprecationOn? line with
  | none => exact Or.inl ⟨rfl, rfl⟩
  | some entry =>
    rw [hentry] at hlaid
    obtain ⟨hknown, uses, huses⟩ :=
      StructureRule.exists_of_deprecationOn? (h.not_mem (by decide) hline) hlaid
    refine Or.inr ⟨entry, uses, rfl, hknown, huses, ?_⟩
    simp only
    rw [huses, if_pos (uses.hasPart_line entry.outdated), uses.replaceFirst_line hknown]

theorem Laid.blur_updateLine (h : Laid line laid) (hne : Text.trim line ≠ [])
    (hline : '\n' ∉ line) : blur (updateLine line laid) = blur laid := by
  rcases h.updateLine_cases hne hline with ⟨-, heq⟩ | ⟨entry, uses, -, hknown, hlaid, heq⟩
  · rw [heq]
  · rw [heq, hlaid, uses.blur_line hknown]

/-- The replacement leaves no outdated reference on a line. -/
theorem Laid.deprecationOn?_updateLine (h : Laid line laid) (hne : Text.trim line ≠ [])
    (hline : '\n' ∉ line) : StructureRule.deprecationOn? (updateLine line laid) = none := by
  rcases h.updateLine_cases hne hline with ⟨hnone, heq⟩ | ⟨entry, uses, -, hknown, -, heq⟩
  · rw [heq, StructureRule.deprecationOn?_congr (h.usesReference?_eq hne hline), hnone]
  · rw [heq, StructureRule.deprecationOn?_replacement uses hknown]

end Laid

/-- A line as a pass may leave it: laid out, and maybe with an outdated reference replaced. -/
def Passed (line passed : Text) : Prop :=
  ∃ laid, Laid line laid ∧ (passed = laid ∨ passed = updateLine line laid)

theorem passed_passLine (strict exempt : Bool) (line : Text) :
    Passed line (passLine strict exempt line) :=
  ⟨_, laid_layoutLine strict exempt line, Or.inr rfl⟩

section Passed

variable {passed : Text} (h : Passed line passed) (hne : Text.trim line ≠ []) (hline : '\n' ∉ line)

include h hne hline

/-- A line after a pass is one that layout rules leave, or one in which an outdated reference has
    been replaced in its place. -/
theorem Passed.cases : Laid line passed ∨
    ∃ (entry : Catalog.Deprecation) (uses : Line.UsesLine),
      StructureRule.deprecationOn? line = some entry ∧ Catalog.Known entry ∧
        Laid line (uses.line entry.outdated) ∧ passed = uses.line entry.replacement := by
  obtain ⟨laid, hlaid, rfl | rfl⟩ := h
  · exact Or.inl hlaid
  · rcases hlaid.updateLine_cases hne hline with ⟨-, heq⟩ | ⟨entry, uses, hentry, hknown, rfl, heq⟩
    · rw [heq]
      exact Or.inl hlaid
    · exact Or.inr ⟨entry, uses, hentry, hknown, hlaid, heq⟩

/-- The replacement of a reference shows in a version digit at most. -/
theorem Passed.exists_laid : ∃ laid, Laid line laid ∧ blur passed = blur laid := by
  rcases h.cases hne hline with hlaid | ⟨entry, uses, -, hknown, hlaid, rfl⟩
  · exact ⟨_, hlaid, rfl⟩
  · exact ⟨_, hlaid, uses.blur_line hknown⟩

theorem Passed.blur_trim_eq : blur (Text.trim passed) = blur (Text.trim line) := by
  obtain ⟨laid, hlaid, hblur⟩ := h.exists_laid hne hline
  rw [← Text.trim_blur, hblur, Text.trim_blur, hlaid.trim_eq]

theorem Passed.not_mem {c : Char} (hc : c ≠ ' ' ∧ c ∉ Text.versionDigits) (hmem : c ∉ line) :
    c ∉ passed := by
  obtain ⟨laid, hlaid, hblur⟩ := h.exists_laid hne hline
  rw [← Line.mem_blur hc.2, hblur, Line.mem_blur hc.2]
  exact hlaid.not_mem hc.1 hmem

theorem Passed.head?_eq {c : Char} (hc : Text.isIndent c = false ∧ c ∉ Text.versionDigits)
    (hpassed : passed.head? = some c) : line.head? = some c := by
  obtain ⟨laid, hlaid, hblur⟩ := h.exists_laid hne hline
  have hhead := congrArg List.head? hblur
  rw [Text.head?_blur, Text.head?_blur, hpassed] at hhead
  obtain ⟨d, hd, hblurred⟩ := Option.map_eq_some_iff.mp hhead.symm
  rw [(Text.blurChar_eq_iff hc.2).mpr rfl, Text.blurChar_eq_iff hc.2] at hblurred
  exact hlaid.head?_eq hc.1 (hblurred ▸ hd)

theorem Passed.isIgnorable_eq : Line.isIgnorable passed = Line.isIgnorable line :=
  Line.isIgnorable_of_blur_eq (h.blur_trim_eq hne hline)

/-- A pass does not change which lines belong to block scalars. -/
theorem Passed.inBlockAfter_eq (inBlock : Bool) :
    inBlockAfter inBlock passed = inBlockAfter inBlock line := by
  obtain ⟨laid, hlaid, hblur⟩ := h.exists_laid hne hline
  rw [inBlockAfter, inBlockAfter, ← Line.isIndented_blur passed, hblur, Line.isIndented_blur,
    hlaid.isIndented_eq hne, Line.endsInBlockIndicator_of_blur_eq (h.blur_trim_eq hne hline)]

end Passed

end Fix

end WorkflowLint
