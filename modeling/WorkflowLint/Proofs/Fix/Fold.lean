/-
  WorkflowLint/Proofs/Fix/Fold.lean
  =================================
  **Fixes, line by line.**

  Fixes are applied from the last line to the first, but no fix reads any line
  but its own.  Each line of the result is therefore the line before, changed by
  the fixes for that line alone in the order of the findings (`apply_eq`).
-/
import WorkflowLint.Fix
import WorkflowLint.Proofs.Text.Lines

namespace WorkflowLint.Fix

/-! ### One line -/

/-- Whether a finding can be fixed and is on line `number`. -/
def concerns (number : Int) (diagnostic : Diagnostic) : Bool :=
  diagnostic.isFixable && diagnostic.line == some number

/-- A line after the fix of a finding, if the fix can be applied to it. -/
def amend (line : Text) (diagnostic : Diagnostic) : Text :=
  match diagnostic.fix with
  | none => line
  | some fix => (onLine? diagnostic fix line).getD line

/-- Line `number` after the fixes for it, in the order of the findings. -/
def amendLine (diagnostics : List Diagnostic) (number : Int) (line : Text) : Text :=
  (diagnostics.filter (concerns number)).foldl amend line

/-- The lines from line `number` on after the fixes for them. -/
def amendLines (diagnostics : List Diagnostic) (number : Int) : List Text → List Text
  | [] => []
  | line :: rest =>
    amendLine diagnostics number line :: amendLines diagnostics (number + 1) rest

theorem amendLine_append (front back : List Diagnostic) (number : Int) (line : Text) :
    amendLine (front ++ back) number line =
      amendLine back number (amendLine front number line) := by
  rw [amendLine, List.filter_append, List.foldl_append]
  rfl

/-- Findings that do not concern a line leave it as it is. -/
theorem amendLine_of_not_concerns {diagnostics : List Diagnostic} {number : Int}
    (h : ∀ diagnostic ∈ diagnostics, concerns number diagnostic = false) (line : Text) :
    amendLine diagnostics number line = line := by
  have hfilter : diagnostics.filter (concerns number) = [] :=
    List.filter_eq_nil_iff.mpr fun diagnostic hd => by simp [h diagnostic hd]
  rw [amendLine, hfilter]
  rfl

theorem getElem?_amendLines (diagnostics : List Diagnostic) (number : Int) (lines : List Text)
    (i : Nat) : (amendLines diagnostics number lines)[i]? =
      lines[i]?.map (amendLine diagnostics (number + i)) := by
  induction lines generalizing number i with
  | nil => rfl
  | cons line rest ih =>
    cases i with
    | zero => simp [amendLines]
    | succ i =>
      rw [amendLines, List.getElem?_cons_succ, List.getElem?_cons_succ, ih,
        show number + 1 + (i : Int) = number + ((i + 1 : Nat) : Int) by omega]

/-! ### One fix -/

theorem position?_eq_some {count : Nat} {i : Nat} (h : i < count) :
    position? count ((1 : Int) + i) = some i := by
  rw [position?, if_pos (by omega)]
  congr 1
  omega

theorem eq_of_position?_eq_some {count position : Nat} {line : Int}
    (h : position? count line = some position) : line = 1 + position := by
  rw [position?] at h
  split at h
  · rename_i hrange
    rw [Option.some_inj] at h
    omega
  · exact absurd h (by simp)

/-- A fix changes the line it is for, and that line only. -/
theorem getElem?_lines_apply (state : State) {diagnostic : Diagnostic}
    (hfixable : diagnostic.isFixable = true) (i : Nat) :
    (state.apply diagnostic).lines[i]? =
      state.lines[i]?.map fun line =>
        if concerns (1 + i) diagnostic then amend line diagnostic else line := by
  obtain ⟨severity, message, line?, fix?, ruleId, target⟩ := diagnostic
  cases line? with
  | none => exact absurd hfixable (by simp [Diagnostic.isFixable])
  | some number =>
  cases fix? with
  | none => exact absurd hfixable (by simp [Diagnostic.isFixable])
  | some fix =>
  rw [State.apply]
  simp only [concerns, hfixable, Bool.true_and, beq_iff_eq, Option.some_inj, amend]
  by_cases hi : i < state.lines.length
  · rw [List.getElem?_eq_getElem hi, Option.map_some]
    by_cases hnumber : number = 1 + i
    · subst hnumber
      rw [position?_eq_some hi]
      have hline : state.lines.getD i [] = state.lines[i] := by
        rw [List.getD_eq_getElem?_getD, List.getElem?_eq_getElem hi, Option.getD_some]
      simp only [hline, if_true]
      split
      · rename_i hmissing
        simp [List.getElem?_eq_getElem hi, hmissing]
      · rename_i text hfixed
        simp [hi, hfixed]
    · rw [if_neg hnumber]
      split
      · exact List.getElem?_eq_getElem hi
      · rename_i position hposition
        split
        · exact List.getElem?_eq_getElem hi
        · have hne : position ≠ i := by
            rintro rfl
            exact hnumber (eq_of_position?_eq_some hposition)
          rw [List.getElem?_set_ne hne, List.getElem?_eq_getElem hi]
  · have hnone : state.lines[i]? = none := List.getElem?_eq_none (by omega)
    rw [hnone, Option.map_none]
    split
    · exact hnone
    · split
      · exact hnone
      · rw [List.getElem?_eq_none]
        rw [List.length_set]
        omega

theorem getElem?_lines_foldl {diagnostics : List Diagnostic}
    (hfixable : ∀ diagnostic ∈ diagnostics, diagnostic.isFixable = true) (state : State)
    (i : Nat) : (diagnostics.foldl State.apply state).lines[i]? =
      state.lines[i]?.map (amendLine diagnostics (1 + i)) := by
  induction diagnostics generalizing state with
  | nil =>
    have hid : amendLine [] (1 + (i : Int)) = id := rfl
    rw [hid, Option.map_id]
    rfl
  | cons diagnostic rest ih =>
    rw [List.foldl_cons, ih (fun d hd => hfixable d (List.mem_cons_of_mem _ hd)),
      getElem?_lines_apply state (hfixable diagnostic (List.mem_cons_self ..)), Option.map_map]
    congr 1
    funext line
    rw [Function.comp_apply, amendLine, amendLine, List.filter_cons]
    split <;> rfl

/-! ### The order of fixes -/

/-- Findings on one line keep their order in the plan. -/
theorem filter_insertByLine (number : Int) (diagnostic : Diagnostic) (rest : List Diagnostic) :
    (insertByLine diagnostic rest).filter (concerns number) =
      (diagnostic :: rest).filter (concerns number) := by
  induction rest with
  | nil => rfl
  | cons other rest ih =>
    rw [insertByLine]
    split
    · rename_i hlt
      rw [List.filter_cons, ih, List.filter_cons, List.filter_cons (x := diagnostic),
        List.filter_cons (x := other)]
      -- the two are on different lines, so at most one of them is on line `number`
      have hnot : ¬(concerns number diagnostic = true ∧ concerns number other = true) := by
        rintro ⟨h, h'⟩
        rw [concerns, Bool.and_eq_true, beq_iff_eq] at h h'
        rw [h.2, h'.2] at hlt
        exact absurd hlt (Int.lt_irrefl _)
      cases hd : concerns number diagnostic <;> cases ho : concerns number other <;> simp_all
    · rfl

theorem mem_insertByLine {diagnostic other : Diagnostic} {rest : List Diagnostic} :
    other ∈ insertByLine diagnostic rest ↔ other = diagnostic ∨ other ∈ rest := by
  induction rest with
  | nil => simp [insertByLine]
  | cons next rest ih =>
    rw [insertByLine]
    split
    · rw [List.mem_cons, ih, List.mem_cons]
      exact or_left_comm
    · exact List.mem_cons

theorem filter_foldr_insertByLine (number : Int) {diagnostics : List Diagnostic}
    (hfixable : ∀ diagnostic ∈ diagnostics, diagnostic.isFixable = true) :
    (∀ other ∈ diagnostics.foldr insertByLine [], other.isFixable = true) ∧
      (diagnostics.foldr insertByLine []).filter (concerns number) =
        diagnostics.filter (concerns number) := by
  induction diagnostics with
  | nil => exact ⟨fun other h => absurd h List.not_mem_nil, rfl⟩
  | cons diagnostic rest ih =>
    obtain ⟨hrest, hfilter⟩ := ih fun d hd => hfixable d (List.mem_cons_of_mem _ hd)
    constructor
    · intro other hother
      rcases mem_insertByLine.mp hother with rfl | hother
      · exact hfixable other (List.mem_cons_self ..)
      · exact hrest other hother
    · rw [List.foldr_cons, filter_insertByLine, List.filter_cons, List.filter_cons, hfilter]

/-- The plan holds findings that can be fixed, and on each line in their order. -/
theorem filter_plan (number : Int) (diagnostics : List Diagnostic) :
    (∀ other ∈ plan diagnostics, other.isFixable = true) ∧
      (plan diagnostics).filter (concerns number) = diagnostics.filter (concerns number) := by
  have hfixable : ∀ diagnostic ∈ diagnostics.filter Diagnostic.isFixable,
      diagnostic.isFixable = true := fun diagnostic h => (List.mem_filter.mp h).2
  obtain ⟨hall, hfilter⟩ := filter_foldr_insertByLine number hfixable
  refine ⟨hall, hfilter.trans ?_⟩
  rw [List.filter_filter]
  congr 1
  funext diagnostic
  rw [concerns]
  cases diagnostic.isFixable <;> simp

/-! ### All fixes -/

/-- Applying fixes is amending each line by the fixes for it. -/
theorem lines_run (text : Text) (diagnostics : List Diagnostic) :
    (run text diagnostics).lines = amendLines diagnostics 1 (Text.lines text) := by
  refine List.ext_getElem? fun i => ?_
  obtain ⟨hfixable, hfilter⟩ := filter_plan (1 + (i : Int)) diagnostics
  rw [run, getElem?_lines_foldl hfixable, getElem?_amendLines]
  congr 1
  funext line
  rw [amendLine, amendLine, hfilter]

theorem apply_eq (text : Text) (diagnostics : List Diagnostic) :
    apply text diagnostics = Text.joinLines (amendLines diagnostics 1 (Text.lines text)) := by
  rw [apply, lines_run]

/-- Where nothing can be fixed, nothing changes. -/
theorem apply_of_not_fixable {diagnostics : List Diagnostic}
    (h : ∀ diagnostic ∈ diagnostics, diagnostic.isFixable = false) (text : Text) :
    apply text diagnostics = text := by
  have hplan : plan diagnostics = [] := by
    rw [plan, List.filter_eq_nil_iff.mpr fun diagnostic hd => by simp [h diagnostic hd]]
    rfl
  rw [apply, run, hplan]
  exact Text.joinLines_lines text

end WorkflowLint.Fix
