/-
  WorkflowLint/Proofs/Line/Outdated.lean
  ======================================
  **Replacing an outdated reference.**

  An outdated reference is a word, it occurs first where it is read, and what
  replaces it is a word that is not outdated itself and that only differs in a
  version digit (`Catalog.Known`).  On a line that uses an outdated action the
  substitution therefore fills the gap of the line anew (`replaceFirst_line`).
-/
import WorkflowLint.Proofs.Line.Blur
import WorkflowLint.Proofs.Line.Uses
import WorkflowLint.Rule.Structure

namespace WorkflowLint

namespace Catalog

/-- What the linter relies on in an outdated reference and in what replaces it. -/
structure Known (entry : Deprecation) : Prop where
  outdated_head : entry.outdated.head? = some 'a'
  outdated_plain : entry.outdated.all Line.isPlainChar = true
  replacement_ne_nil : entry.replacement ≠ []
  replacement_plain : entry.replacement.all Line.isPlainChar = true
  blur_eq : Text.blur entry.replacement = Text.blur entry.outdated
  current : deprecation? entry.replacement = none
  outdated_pinned : Line.isUnpinned entry.outdated = false
  replacement_pinned : Line.isUnpinned entry.replacement = false

theorem known_of_mem {entry : Deprecation} (h : entry ∈ deprecations) : Known entry := by
  have hall : ∀ entry ∈ deprecations,
      entry.outdated.head? = some 'a' ∧ entry.outdated.all Line.isPlainChar = true ∧
      entry.replacement ≠ [] ∧ entry.replacement.all Line.isPlainChar = true ∧
      Text.blur entry.replacement = Text.blur entry.outdated ∧
      deprecation? entry.replacement = none ∧ Line.isUnpinned entry.outdated = false ∧
      Line.isUnpinned entry.replacement = false := by decide
  obtain ⟨hhead, hplain, hne, hplain', hblur, hcurrent, hpinned, hpinned'⟩ := hall entry h
  exact ⟨hhead, hplain, hne, hplain', hblur, hcurrent, hpinned, hpinned'⟩

theorem Known.exists_outdated {entry : Deprecation} (h : Known entry) :
    ∃ rest, entry.outdated = 'a' :: rest := by
  obtain ⟨rest, hrest⟩ := List.head?_eq_some_iff.mp h.outdated_head
  exact ⟨rest, hrest⟩

theorem Known.isWord_outdated {entry : Deprecation} (h : Known entry) :
    Line.IsWord entry.outdated := by
  obtain ⟨rest, hrest⟩ := h.exists_outdated
  exact ⟨by rw [hrest]; exact List.cons_ne_nil _ _, List.all_eq_true.mp h.outdated_plain⟩

theorem Known.isWord_replacement {entry : Deprecation} (h : Known entry) :
    Line.IsWord entry.replacement :=
  ⟨h.replacement_ne_nil, List.all_eq_true.mp h.replacement_plain⟩

theorem eq_of_deprecation? {action : Text} {entry : Deprecation}
    (h : deprecation? action = some entry) : entry ∈ deprecations ∧ action = entry.outdated := by
  refine ⟨List.mem_of_find?_eq_some h, ?_⟩
  have := List.find?_some h
  exact (of_decide_eq_true this).symm

end Catalog

namespace Line

open Catalog (Known)

theorem IsWord.not_mem {word : Text} (h : IsWord word) {c : Char} (hc : isPlainChar c = false) :
    c ∉ word := by
  intro hmem
  rw [h.plain c hmem] at hc
  exact Bool.noConfusion hc

theorem not_mem_of_allBlank {text : Text} (h : Text.allBlank text = true) {c : Char}
    (hc : Text.isBlank c = false) : c ∉ text := by
  intro hmem
  rw [Text.allBlank_iff.mp h c hmem] at hc
  exact Bool.noConfusion hc

namespace UsesLine

/-- Only blanks, quotes, a dash and `uses:` stand before a reference. -/
theorem not_mem_before (uses : UsesLine) {c : Char} (hblank : Text.isBlank c = false)
    (hquote : isQuote c = false) (hdash : c ≠ '-') (huses : c ∉ "uses:".toList) :
    c ∉ uses.before := by
  have hdash' : c ∉ uses.dash := by
    rcases uses.dash_isDash with h | ⟨d, blanks, h, hd, hblanks⟩
    · rw [h]
      exact List.not_mem_nil
    · rw [h, List.mem_cons, List.mem_cons, not_or, not_or]
      refine ⟨hdash, ?_, not_mem_of_allBlank hblanks hblank⟩
      rintro rfl
      rw [hd] at hblank
      exact Bool.noConfusion hblank
  have hquote' : c ∉ uses.quote := by
    rcases uses.quote_isQuoting with h | h | h
    · rw [h]
      exact List.not_mem_nil
    · rw [h, List.mem_singleton]
      rintro rfl
      exact absurd hquote (by decide)
    · rw [h, List.mem_singleton]
      rintro rfl
      exact absurd hquote (by decide)
  simp only [before, List.mem_append, not_or]
  exact ⟨not_mem_of_allBlank uses.margin_blank hblank, hdash', huses,
    not_mem_of_allBlank uses.gap_blank hblank, hquote'⟩

/-- On a line that uses an outdated action, the reference is replaced in its place. -/
theorem replaceFirst_line (uses : UsesLine) {entry : Catalog.Deprecation} (h : Known entry) :
    Text.replaceFirst entry.outdated entry.replacement (uses.line entry.outdated) =
      uses.line entry.replacement := by
  have hbefore : 'a' ∉ uses.before :=
    uses.not_mem_before (by decide) (by decide) (by decide) (by decide)
  obtain ⟨rest, hrest⟩ := h.exists_outdated
  rw [line, line, hrest]
  exact Text.replaceFirst_between hbefore rest entry.replacement uses.after

theorem hasPart_line (uses : UsesLine) (reference : Text) :
    Text.hasPart reference (uses.line reference) = true :=
  Text.hasPart_between uses.before reference uses.after

theorem usesReference?_outdated (uses : UsesLine) {entry : Catalog.Deprecation} (h : Known entry) :
    usesReference? (uses.line entry.outdated) = some entry.outdated :=
  uses.usesReference?_line h.isWord_outdated (h.isWord_outdated.not_mem (by decide))

theorem usesReference?_replacement (uses : UsesLine) {entry : Catalog.Deprecation}
    (h : Known entry) : usesReference? (uses.line entry.replacement) = some entry.replacement :=
  uses.usesReference?_line h.isWord_replacement (h.isWord_replacement.not_mem (by decide))

/-- The two lines differ in a version digit at most. -/
theorem blur_line (uses : UsesLine) {entry : Catalog.Deprecation} (h : Known entry) :
    Text.blur (uses.line entry.replacement) = Text.blur (uses.line entry.outdated) := by
  simp only [line, Text.blur_append, h.blur_eq]

end UsesLine

end Line

namespace StructureRule

open Line (usesReference?)

/-- A line that calls for a replacement is a line that uses an outdated action. -/
theorem exists_of_deprecationOn? {line : Text} {entry : Catalog.Deprecation}
    (hline : '\n' ∉ line) (h : deprecationOn? line = some entry) :
    Catalog.Known entry ∧ ∃ uses : Line.UsesLine, line = uses.line entry.outdated := by
  obtain ⟨reference, hreference, hentry⟩ := Option.bind_eq_some_iff.mp h
  obtain ⟨hmem, rfl⟩ := Catalog.eq_of_deprecation? hentry
  have hknown := Catalog.known_of_mem hmem
  exact ⟨hknown, Line.exists_usesLine hline hknown.isWord_outdated.ne_nil hreference⟩

theorem deprecationOn?_congr {line other : Text}
    (h : usesReference? other = usesReference? line) :
    deprecationOn? other = deprecationOn? line := by
  rw [deprecationOn?, deprecationOn?, h]

/-- A line whose outdated reference has been replaced calls for no other. -/
theorem deprecationOn?_replacement (uses : Line.UsesLine) {entry : Catalog.Deprecation}
    (h : Catalog.Known entry) : deprecationOn? (uses.line entry.replacement) = none := by
  rw [deprecationOn?, uses.usesReference?_replacement h, Option.bind_some, h.current]

end StructureRule

end WorkflowLint
