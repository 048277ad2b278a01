/-
  WorkflowLint/Proofs/Fix/Log.lean
  ================================
  **No fix is skipped.**

  A fix is skipped if its line is not there, or if its target is not on the line as
  earlier fixes have left it.  As no fix reads any line but its own, both can be told
  line by line: where each line takes the fixes for it in the order of the findings
  (`Takes`), the log of all fixes is one count (`log_of_takes`).
-/
import WorkflowLint.Proofs.Fix.Fold

namespace WorkflowLint.Fix

/-- Whether the fixes of findings can be made on a line one after the other. -/
def Takes : Text → List Diagnostic → Prop
  | _, [] => True
  | line, finding :: rest =>
    ∃ fix text, finding.fix = some fix ∧ onLine? finding fix line = some text ∧ Takes text rest

/-- Whether a finding can be fixed and is on one of `count` lines. -/
def OnLines (count : Nat) (finding : Diagnostic) : Prop :=
  finding.isFixable = true ∧ ∃ index : Nat, index < count ∧ finding.line = some (1 + (index : Int))

/-- Whether all fixes of findings can be made on lines: each is for one of them, and each of them
    takes those that are for it. -/
structure Ready (lines : List Text) (findings : List Diagnostic) : Prop where
  onLines : ∀ finding ∈ findings, OnLines lines.length finding
  takes : ∀ (index : Nat) (line : Text), lines[index]? = some line →
    Takes line (findings.filter (concerns (1 + index)))

variable {state : State} {finding : Diagnostic} {rest : List Diagnostic}

theorem concerns_iff {index : Nat} (hfixable : finding.isFixable = true)
    (hline : finding.line = some (1 + (index : Int))) (other : Nat) :
    concerns (1 + (other : Int)) finding = true ↔ index = other := by
  rw [concerns, hfixable, hline, Bool.true_and, beq_iff_eq, Option.some_inj]
  omega

/-- A fix that can be made is made, and the others can still be made after it. -/
theorem Ready.apply (h : Ready state.lines (finding :: rest)) :
    (state.apply finding).events = state.events ∧
      (state.apply finding).applied = state.applied + 1 ∧
      Ready (state.apply finding).lines rest := by
  obtain ⟨hfixable, index, hindex, hline⟩ := h.onLines finding (List.mem_cons_self ..)
  have hconcerns := concerns_iff hfixable hline
  have hget : state.lines[index]? = some (state.lines.getD index []) := by
    rw [List.getD_eq_getElem?_getD, List.getElem?_eq_getElem hindex, Option.getD_some]
  have htakes := h.takes index _ hget
  rw [List.filter_cons_of_pos ((hconcerns index).mpr rfl)] at htakes
  obtain ⟨fix, text, hfix, hfixed, hlater⟩ := htakes
  have happly : state.apply finding =
      { state with lines := state.lines.set index text, applied := state.applied + 1 } := by
    rw [State.apply, hline, hfix]
    simp only [position?_eq_some hindex, hfixed]
  rw [happly]
  refine ⟨rfl, rfl, fun other hother => ?_, fun i line hget => ?_⟩
  · rw [List.length_set]
    exact h.onLines other (List.mem_cons_of_mem _ hother)
  · by_cases hi : index = i
    · subst hi
      simp only [List.getElem?_set_self hindex, Option.some_inj] at hget
      rwa [← hget]
    · simp only [List.getElem?_set_ne hi] at hget
      have htakes := h.takes i line hget
      rwa [List.filter_cons_of_neg fun hnumber => hi ((hconcerns i).mp hnumber)] at htakes

/-- Where all fixes can be made, all are made and nothing is said. -/
theorem Ready.foldl {findings : List Diagnostic} (h : Ready state.lines findings) :
    (findings.foldl State.apply state).events = state.events ∧
      (findings.foldl State.apply state).applied = state.applied + findings.length := by
  induction findings generalizing state with
  | nil => exact ⟨rfl, rfl⟩
  | cons finding rest ih =>
    obtain ⟨hevents, happlied, hready⟩ := h.apply
    obtain ⟨hevents', happlied'⟩ := ih hready
    rw [List.foldl_cons, List.length_cons]
    exact ⟨hevents'.trans hevents, by omega⟩

/-! ### The plan -/

theorem length_insertByLine (finding : Diagnostic) (rest : List Diagnostic) :
    (insertByLine finding rest).length = rest.length + 1 := by
  induction rest with
  | nil => rfl
  | cons other rest ih =>
    rw [insertByLine]
    split
    · rw [List.length_cons, ih, List.length_cons]
    · rfl

theorem length_plan (findings : List Diagnostic) :
    (plan findings).length = (findings.filter Diagnostic.isFixable).length := by
  rw [plan]
  induction findings.filter Diagnostic.isFixable with
  | nil => rfl
  | cons finding rest ih => rw [List.foldr_cons, length_insertByLine, ih, List.length_cons]

theorem mem_plan {findings : List Diagnostic} :
    finding ∈ plan findings ↔ finding ∈ findings ∧ finding.isFixable = true := by
  rw [plan, ← List.mem_filter]
  induction findings.filter Diagnostic.isFixable with
  | nil => exact Iff.rfl
  | cons other rest ih => rw [List.foldr_cons, mem_insertByLine, ih, List.mem_cons]

/-- Where each fix is for a line of the text and each line takes the fixes for it, the log says
    only how many fixes there are. -/
theorem log_of_takes {text : Text} {findings : List Diagnostic}
    (hlines : ∀ finding ∈ findings, finding.isFixable = true →
      OnLines (Text.lines text).length finding)
    (htakes : ∀ (index : Nat) (line : Text), (Text.lines text)[index]? = some line →
      Takes line (findings.filter (concerns (1 + index)))) :
    log text findings =
      [FixEvent.message (.applied (findings.filter Diagnostic.isFixable).length)] := by
  have hready : Ready (Text.lines text) (plan findings) := by
    refine ⟨fun finding hfinding => ?_, fun index line hline => ?_⟩
    · obtain ⟨hmem, hfixable⟩ := mem_plan.mp hfinding
      exact hlines finding hmem hfixable
    · rw [(filter_plan _ findings).2]
      exact htakes index line hline
  obtain ⟨hevents, happlied⟩ := @Ready.foldl ⟨Text.lines text, 0, []⟩ _ hready
  rw [log, events, run, hevents, happlied, length_plan, Nat.zero_add]
  rfl

end WorkflowLint.Fix
