/-
  WorkflowLint/Proofs/Fix/Fixpoint.lean
  =====================================
  **One pass is enough.**

  After a pass nothing is left to fix: every line is one that the fixing rules
  pass over, and the lines that belong to block scalars are those that belonged
  to them before.  A second pass, and any number of further rounds, leave the
  text as it is.
-/
import WorkflowLint.FixRound
import WorkflowLint.Proofs.Fix.Kept

namespace WorkflowLint

namespace Fix

theorem comesFrom_all (finding : Diagnostic) : finding.comesFrom (fun _ => true) = true := by
  rw [Diagnostic.comesFrom]
  cases finding.ruleId <;> rfl

theorem filter_comesFrom_all (findings : List Diagnostic) :
    findings.filter (Diagnostic.comesFrom fun _ => true) = findings :=
  List.filter_eq_self.mpr fun finding _ => comesFrom_all finding

theorem passLines_eq_kept (strict inBlock : Bool) (lines : List Text) :
    passLines strict inBlock lines =
      changeLines (keptPassLine (fun _ => true) strict) inBlock lines := by
  rw [passLines_eq]
  exact congrArg (changeLines · inBlock lines)
    (funext fun exempt => funext fun line => passLine_eq_kept strict exempt line)

/-- A pass changes each line as `passLine` says. -/
theorem apply_evaluate {text : Text} {document : Document}
    (hload : Document.load text = .ok document) (hblank : Text.allBlank text = false)
    (strict : Bool) :
    apply text (document.evaluate strict Rule.all).diagnostics =
      Text.joinLines (passLines strict false (Text.lines text)) := by
  have hkept := apply_filter_evaluate (fun _ => true) hload hblank strict
  rwa [filter_comesFrom_all, ← passLines_eq_kept] at hkept

/-- The lines of a text after a pass. -/
theorem lines_apply_evaluate {text : Text} {document : Document}
    (hload : Document.load text = .ok document) (hblank : Text.allBlank text = false)
    (strict : Bool) :
    Text.lines (apply text (document.evaluate strict Rule.all).diagnostics) =
      passLines strict false (Text.lines text) := by
  rw [apply_evaluate hload hblank, passLines_eq]
  exact lines_joinLines_changeLines (passed_passLine strict)
    (fun line h => Text.not_mem_of_mem_lines h) (Text.lines_ne_nil text) false

/-- After a pass, nothing can be fixed. -/
theorem not_isFixable_of_pass {text : Text} {strict : Bool} {document passed : Document}
    (hload : Document.load text = .ok document)
    (hpassed : Document.load (apply text (document.evaluate strict Rule.all).diagnostics) =
      .ok passed) {diagnostic : Diagnostic}
    (hd : diagnostic ∈ (passed.evaluate strict Rule.all).diagnostics) :
    diagnostic.isFixable = false := by
  rw [← filter_comesFrom_all (document.evaluate strict Rule.all).diagnostics] at hpassed
  exact not_isFixable_of_keptPass hload hpassed hd (comesFrom_all diagnostic)

end Fix

/-! ### Further rounds -/

/-- Rounds that start from a text with nothing to fix leave it as it is. -/
theorem FixRound.rounds_of_not_fixable {text : Text} {strict : Bool} {document : Document}
    (hload : Document.load text = .ok document)
    (h : ∀ diagnostic ∈ (document.evaluate strict Rule.all).diagnostics,
      diagnostic.isFixable = false) (count : Nat) :
    FixRound.rounds strict count text =
      .ok (List.replicate count
        ⟨(document.evaluate strict Rule.all).diagnostics, text, false⟩) := by
  have hstart : FixRound.start strict text =
      .ok ⟨(document.evaluate strict Rule.all).diagnostics, text, false⟩ := by
    rw [FixRound.start, hload, Except.map]
    simp only [Fix.apply_of_not_fixable h, bne_self_eq_false]
  induction count with
  | zero => rfl
  | succ count ih =>
    rw [FixRound.rounds, hstart, Except.bind, ih]
    rfl

/-- One pass of fixes reaches a fixpoint: on the text it leaves, nothing can be fixed, so a
    second pass changes nothing, and all further rounds are the same. -/
theorem Fix.pass_reaches_fixpoint {text : Text} {strict : Bool} {document passed : Document}
    (hload : Document.load text = .ok document)
    (hpassed : Document.load (Fix.apply text (document.evaluate strict Rule.all).diagnostics) =
      .ok passed) :
    let text' := Fix.apply text (document.evaluate strict Rule.all).diagnostics
    let findings := (passed.evaluate strict Rule.all).diagnostics
    (∀ diagnostic ∈ findings, diagnostic.isFixable = false) ∧
      Fix.apply text' findings = text' ∧
      ∀ count, FixRound.rounds strict count text' =
        .ok (List.replicate count ⟨findings, text', false⟩) := by
  have hfindings : ∀ diagnostic ∈ (passed.evaluate strict Rule.all).diagnostics,
      diagnostic.isFixable = false :=
    fun diagnostic h => Fix.not_isFixable_of_pass hload hpassed h
  refine ⟨hfindings, Fix.apply_of_not_fixable hfindings _, ?_⟩
  exact FixRound.rounds_of_not_fixable hpassed hfindings

/-- The fixpoint of a line with a tab, blanks at the end and an outdated action. -/
theorem Fix.pass_reaches_fixpoint_uses :
    let text : Text := "\tuses: actions/cache@v2  "
    let text' : Text := "  uses: actions/cache@v4"
    let document : Document :=
      ⟨text, [text],
        .mapping [⟨"uses", some 1, .scalar (.str "actions/cache@v2") (some 1)⟩] none, []⟩
    let passed : Document :=
      ⟨text', [text'],
        .mapping [⟨"uses", some 1, .scalar (.str "actions/cache@v4") (some 1)⟩] none, []⟩
    let findings := (passed.evaluate true Rule.all).diagnostics
    Document.load text = .ok document ∧ Document.load text' = .ok passed ∧
      Fix.apply text (document.evaluate true Rule.all).diagnostics = text' ∧
      ∀ count, FixRound.rounds true count text' =
        .ok (List.replicate count ⟨findings, text', false⟩) := by
  intro text text' document passed findings
  have hload : Document.load text = .ok document := rfl
  have happly : Fix.apply text (document.evaluate true Rule.all).diagnostics = text' := by
    decide +kernel
  have hpassed : Document.load text' = .ok passed := rfl
  refine ⟨hload, hpassed, happly, ?_⟩
  have hrounds := (Fix.pass_reaches_fixpoint hload (happly ▸ hpassed)).2.2
  rwa [happly] at hrounds

end WorkflowLint
