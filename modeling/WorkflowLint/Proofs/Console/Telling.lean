/-
  WorkflowLint/Proofs/Console/Telling.lean
  ========================================
  **Telling things one after the other.**

  Things are told in parts as they are told at once, as long as nothing fails: the later
  part starts with the console as the earlier one leaves it (`tell_append`).  So a run that
  tells what became of its files ends as one that does not, if all of it can be told
  (`lintAll_told`).
-/
import WorkflowLint.LintRun

namespace WorkflowLint

namespace Console

variable {console : Console} {state : console.State} {front back : List Printable}

theorem tell_nil : console.tell state [] = ⟨[], none, state⟩ := rfl

theorem tell_append (h : (console.tell state front).fault = none) (back : List Printable) :
    console.tell state (front ++ back) =
      let first := console.tell state front
      let later := console.tell first.console back
      { later with text := first.text ++ later.text } := by
  induction front generalizing state with
  | nil => rfl
  | cons printable front ih =>
    rw [List.cons_append, tell]
    rw [tell] at h ⊢
    cases hprint : console.print state printable with
    | mk result next =>
      rw [hprint] at h
      cases result with
      | error fault => cases h
      | ok text =>
        simp only [ih h, List.append_assoc]

theorem text_tell_append (h : (console.tell state front).fault = none) (back : List Printable) :
    (console.tell state (front ++ back)).text = (console.tell state front).text
      ++ (console.tell (console.tell state front).console back).text := by
  rw [tell_append h]

/-- All is told if the first part is, and then the rest. -/
theorem fault_tell_append : (console.tell state (front ++ back)).fault = none ↔
    (console.tell state front).fault = none ∧
      (console.tell (console.tell state front).console back).fault = none := by
  by_cases h : (console.tell state front).fault = none
  · rw [tell_append h]
    exact (and_iff_right h).symm
  -- whatever stops the front stops the whole at the same place, so the induction is on the front
  · refine iff_of_false (fun happend => h ?_) (fun hboth => h hboth.1)
    clear h
    induction front generalizing state with
    | nil => rfl
    | cons printable front ih =>
      rw [List.cons_append, tell] at happend
      rw [tell]
      cases hprint : console.print state printable with
      | mk result next =>
        rw [hprint] at happend
        cases result with
        | error fault => cases happend
        | ok text => exact ih happend

end Console

namespace LintRun

variable {console : Console} {describe : FileOutcome → List Console.Printable}

/-- A run that was not stopped, if all that became of files could be told. -/
def told (console : Console) (describe : FileOutcome → List Console.Printable)
    (state : console.State) (outcomes : List FileOutcome) (files : FileSystem) :
    LintRun console.State :=
  let telling := console.tell state (outcomes.flatMap describe)
  ⟨outcomes, telling.text, none, files, telling.console⟩

/-- What becomes of files does not depend on whether it is told. -/
theorem lintAll_told {workspace : Workspace} {fix : Bool} {fs files : FileSystem}
    {paths : List Path} {outcomes : List FileOutcome} {quiet state : console.State}
    (hquiet : lintAll workspace fix console (fun _ => []) quiet fs paths =
      ⟨outcomes, [], none, files, quiet⟩)
    (htell : (console.tell state (outcomes.flatMap describe)).fault = none) :
    lintAll workspace fix console describe state fs paths =
      told console describe state outcomes files := by
  -- the files change from step to step as in the quiet run, and only the console differs
  induction paths generalizing fs outcomes state with
  | nil =>
    cases hquiet
    rfl
  | cons path rest ih =>
    rw [lintAll] at hquiet ⊢
    cases hone : lintOne workspace fix fs path with
    | mk result next =>
      rw [hone] at hquiet
      cases result with
      | error error => cases hquiet
      | ok outcome =>
        simp only [Console.tell_nil, List.nil_append] at hquiet ⊢
        cases hlater : lintAll workspace fix console (fun _ => []) quiet next rest with
        | mk later output stopped files' console' =>
          rw [hlater] at hquiet
          cases hquiet
          rw [List.flatMap_cons] at htell
          obtain ⟨hfirst, hrest⟩ := Console.fault_tell_append.mp htell
          rw [told, List.flatMap_cons, Console.tell_append hfirst]
          cases htelling : console.tell state (describe outcome) with
          | mk text fault after =>
            rw [htelling] at hfirst hrest
            cases hfirst
            simp only [ih hlater hrest]
            rfl

end LintRun

end WorkflowLint
