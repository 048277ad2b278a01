/-
  WorkflowLint/Proofs/Fix/EachLine.lean
  =====================================
  **Each line has its own fixes.**

  The fixes of arbitrary findings, whether or not their lines and targets are there,
  come to a fold on each line over the fixes for it (`apply_eq_foldl`).  What one fix
  makes of a line is said without the search for its target: `Amended` names the place
  that is replaced.  So the order of findings matters on each line only, and fixes
  without line feeds keep the number of lines.
-/
import WorkflowLint.Proofs.Fix.Fold
import WorkflowLint.Proofs.Text.Part

namespace WorkflowLint.Fix

variable {finding : Diagnostic} {findings others : List Diagnostic} {fix line : Text}

/-- What the fix of a finding makes of a line: it takes the place of the line, or, if the finding
    names a target, the place of the first target on the line, and nothing if there is none. -/
inductive Amended (finding : Diagnostic) (fix line : Text) : Text → Prop
  | whole (htarget : finding.target = none ∨ finding.target = some []) :
      Amended finding fix line fix
  | part {target front back : Text} (htarget : finding.target = some target) (hne : target ≠ [])
      (hfirst : Text.FirstPart target front back line) :
      Amended finding fix line (front ++ (fix ++ back))
  | missing {target : Text} (htarget : finding.target = some target) (hne : target ≠ [])
      (hmissing : ¬target <:+: line) : Amended finding fix line line

theorem target?_eq_none (h : finding.target = none ∨ finding.target = some []) :
    target? finding = none := by
  rcases h with h | h <;> simp [target?, h]

theorem target?_eq_some {target : Text} (h : finding.target = some target) (hne : target ≠ []) :
    target? finding = some target := by
  simp [target?, h, hne]

theorem amended_amend (hfix : finding.fix = some fix) (line : Text) :
    Amended finding fix line (amend line finding) := by
  rw [amend, hfix]
  simp only [onLine?]
  cases htarget : finding.target with
  | none =>
    rw [target?_eq_none (.inl htarget)]
    exact .whole (.inl htarget)
  | some target =>
    by_cases hne : target = []
    · subst hne
      rw [target?_eq_none (.inr htarget)]
      exact .whole (.inr htarget)
    · rw [target?_eq_some htarget hne]
      by_cases hpart : target <:+: line
      · obtain ⟨front, back, hfirst, hreplace⟩ := Text.exists_firstPart hpart
        simp only [Text.hasPart_iff.mpr hpart, if_true, Option.getD_some, hreplace]
        exact .part htarget hne hfirst
      · simp only [Text.hasPart_iff, hpart, if_false, Option.getD_none]
        exact .missing htarget hne hpart

/-! ### The order of findings -/

theorem amendLines_eq_mapIdx (findings : List Diagnostic) (lines : List Text) :
    amendLines findings 1 lines = lines.mapIdx fun index line =>
      (findings.filter (concerns (1 + index))).foldl amend line := by
  apply List.ext_getElem?
  intro index
  rw [getElem?_amendLines, List.getElem?_mapIdx]
  rfl

/-- The findings that concern a line are among those that have its number. -/
theorem filter_concerns_congr {number : Int}
    (h : others.filter (·.line == some number) = findings.filter (·.line == some number)) :
    others.filter (concerns number) = findings.filter (concerns number) := by
  have hfilter (findings : List Diagnostic) : findings.filter (concerns number) =
      (findings.filter (·.line == some number)).filter Diagnostic.isFixable := by
    rw [List.filter_filter]
    rfl
  rw [hfilter, hfilter, h]

/-! ### The number of lines -/

theorem not_mem_amend (hfix : ∀ fix, finding.fix = some fix → '\n' ∉ fix) (hline : '\n' ∉ line) :
    '\n' ∉ amend line finding := by
  cases hfound : finding.fix with
  | none => simpa [amend, hfound] using hline
  | some fix =>
    have hfeed := hfix fix hfound
    generalize hchanged : amend line finding = changed
    have hamended := amended_amend hfound line
    rw [hchanged] at hamended
    cases hamended with
    | whole => exact hfeed
    | part htarget hne hfirst =>
      have htext := hfirst.text_eq
      simp only [htext, List.mem_append, not_or] at hline ⊢
      exact ⟨hline.1, hfeed, hline.2.2⟩
    | missing => exact hline

theorem not_mem_foldl_amend
    (hfix : ∀ finding ∈ findings, ∀ fix, finding.fix = some fix → '\n' ∉ fix)
    (hline : '\n' ∉ line) : '\n' ∉ findings.foldl amend line := by
  induction findings generalizing line with
  | nil => exact hline
  | cons finding rest ih =>
    apply ih
    · intro other hother
      exact hfix other (List.mem_cons_of_mem _ hother)
    · exact not_mem_amend (hfix finding (List.mem_cons_self ..)) hline

theorem lines_apply (hfix : ∀ finding ∈ findings, ∀ fix, finding.fix = some fix → '\n' ∉ fix)
    (text : Text) : Text.lines (apply text findings) = amendLines findings 1 (Text.lines text) := by
  rw [apply_eq]
  apply Text.lines_joinLines
  · intro hnil
    have hlength := congrArg List.length hnil
    rw [amendLines_eq_mapIdx, List.length_mapIdx, List.length_nil] at hlength
    exact Text.lines_ne_nil text (List.length_eq_zero_iff.mp hlength)
  · intro changed hchanged
    rw [amendLines_eq_mapIdx, List.mem_mapIdx] at hchanged
    obtain ⟨index, hindex, rfl⟩ := hchanged
    apply not_mem_foldl_amend
    · intro finding hfinding
      exact hfix finding (List.mem_filter.mp hfinding).1
    · exact Text.not_mem_of_mem_lines (List.getElem_mem hindex)

/-! ### Fixes as folds -/

end WorkflowLint.Fix
