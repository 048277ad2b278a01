/-
  WorkflowLint/Proofs/Rule/Runner.lean
  ====================================
  **Runners that are called empty.**

  The rule on empty runners takes `runs-on:` to be empty if the next line with content is
  not deeper.  The outline has one more way to give a key a value, a list in the column
  of the key.  So a runner that has a value in the outline is reported if and only if it
  is such a list (`evaluate_runner`); one that is a mapping never is.
-/
import WorkflowLint.Proofs.Outline.Populated
import WorkflowLint.Proofs.Rule.Found

namespace WorkflowLint

open Outline (Content content?)

namespace Line

theorem nextColumn?_eq_findSome? (following : List Text) :
    nextColumn? following = (following.findSome? content?).map Content.column := by
  induction following with
  | nil => rfl
  | cons line rest ih =>
    rw [nextColumn?] at ih ⊢
    rw [List.find?_cons, List.findSome?_cons, content?]
    cases isIgnorable line with
    | true => exact ih
    | false => rfl

variable {line : Text} {content : Content}

theorem dropDash_eq_runner_iff {text value : Text}
    (hpair : splitPair text = some (Catalog.runnerKey, value)) :
    dropDash text = "runs-on:".toList ↔ text = "runs-on:".toList := by
  constructor
  · intro hdrop
    obtain ⟨dash, hdash, hsplit⟩ := exists_dropDash text
    rw [hdrop] at hsplit
    rcases hdash with rfl | ⟨c, blanks, rfl, -, -⟩
    · exact hsplit
    · rw [hsplit] at hpair
      exact absurd hpair (splitPair_dash_ne (by decide) (by decide))
  · rintro rfl
    exact dropDash_of_ne (by decide) _

/-- On a line whose key is `runs-on`, the rule looks for the key and its colon alone. -/
theorem hasEmptyRunner_iff (hcontent : content? line = some content) {value : Text}
    (hpair : splitPair content.text = some (Catalog.runnerKey, value)) (following : List Text) :
    hasEmptyRunner line following = true ↔ content.text = "runs-on:".toList ∧
      ∀ next, following.findSome? content? = some next → ¬content.column < next.column := by
  obtain ⟨-, rfl⟩ := Outline.content?_eq_some_iff.mp hcontent
  rw [hasEmptyRunner, nextColumn?_eq_findSome?, Bool.and_eq_true, beq_iff_eq,
    dropDash_eq_runner_iff hpair]
  refine and_congr_right fun _ => ?_
  cases following.findSome? content? with
  | none => simp
  | some next => simp

end Line

theorem ContentRule.objections_emptyRunsOn_ne_nil (view : LineView) :
    emptyRunsOn.objections view ≠ [] ↔ Line.hasEmptyRunner view.line view.following = true := by
  rw [objections]
  cases Line.hasEmptyRunner view.line view.following with
  | true => exact iff_of_true (List.cons_ne_nil _ _) rfl
  | false => exact iff_of_false (fun h => h rfl) Bool.false_ne_true

/-- A runner that has a value in the outline, on lines below its key, is reported as empty if and
    only if its key stands alone on its line and the next line with content is a list item in the
    same column; its value is a sequence then. -/
theorem evaluate_runner {text : Text} {document : Document}
    (hload : Document.load text = .ok document) {job : Job} (hjob : job ∈ document.jobs)
    {entry : Entry Node} (hentry : entry ∈ job.entries) (hkey : entry.key = "runs-on".toList)
    (hvalue : entry.value.IsPopulated) (strict : Bool) :
    ∃ (index : Nat) (line : Text) (content next : Content), entry.line = some (index + 1 : Int) ∧
      (Text.lines text)[index]? = some line ∧ content? line = some content ∧
      ((Text.lines text).drop (index + 1)).findSome? content? = some next ∧
      ((∃ finding ∈ (document.evaluate strict Rule.all).diagnostics,
        finding.ruleId = some "jobs/empty-runs-on".toList ∧ finding.line = some (index + 1 : Int)) ↔
          content.text = "runs-on:".toList ∧ next.isItem = true ∧ next.column = content.column) ∧
      (next.isItem = true ∧ next.column = content.column →
        ∃ items listLine, entry.value = .sequence items listLine) := by
  obtain ⟨-, mapLine, hat⟩ :=
    Document.at?_of_mem_jobs (Document.keysRecorded_of_load hload) hjob
  obtain ⟨state, number, hrun, hnumber, hkeyLine, hnode⟩ :=
    Document.exists_run_of_mem hload hat hentry
  have haddress : ∀ list index,
      ([.key Catalog.jobsKey, .key job.name] : Address) ≠ list ++ [.item index] :=
    fun list index => Outline.concat_item_ne list [.key Catalog.jobsKey] index job.name
  obtain ⟨index, line, content, next, rfl, hline, hcontent, -, hpair, hnext, hfollows⟩ :=
    Outline.State.follows_of_run hrun haddress hkeyLine hnode hvalue
  have hlines := Document.lines_of_load hload
  refine ⟨index, line, content, next, hnumber, hlines ▸ hline, hcontent, hlines ▸ hnext, ?_, ?_⟩
  · have hreported := document.exists_mem_diagnostics_iff strict ContentRule.emptyRunsOn.id
      fun finding => finding.line = some (index + 1 : Int)
    rw [hkey] at hpair
    refine hreported.trans ?_
    rw [Document.exists_mem_foundBy_iff (Document.allBlank_eq_false hload hat hentry)
      hline, ContentRule.objections_emptyRunsOn_ne_nil, Line.hasEmptyRunner_iff hcontent hpair]
    refine and_congr_right fun _ => ?_
    rw [hnext]
    constructor
    · intro hnot
      obtain ⟨hdash, hcolumn, -⟩ := hfollows.resolve_left (hnot next rfl)
      exact ⟨hdash, hcolumn⟩
    · rintro ⟨-, hcolumn⟩ other hother
      cases hother
      omega
  · rintro ⟨-, hcolumn⟩
    rcases hfollows with hlt | ⟨-, -, hlist⟩
    · omega
    · exact hlist

/-- Labels below a blank line and a comment, deeper than the key. -/
theorem evaluate_runner_labels :
    let text : Text :=
      "jobs:\n  b:\n    runs-on:\n\n# labels\n      - linux\n    steps:\n    - run: x"
    let labels : Entry Node :=
      ⟨"runs-on", some 3, .sequence [.scalar (.str "linux") (some 6)] (some 6)⟩
    let steps : Entry Node := ⟨"steps", some 7, .sequence
      [.mapping [⟨"run", some 8, .scalar (.str "x") (some 8)⟩] (some 8)] (some 8)⟩
    let document : Document := ⟨text, Text.lines text, .mapping
      [⟨"jobs", some 1, .mapping [⟨"b", some 2, .mapping [labels, steps] (some 2)⟩] (some 1)⟩]
      none, []⟩
    Document.load text = .ok document ∧ labels.value.IsPopulated ∧
      ¬∃ finding ∈ (document.evaluate false Rule.all).diagnostics,
        finding.ruleId = some "jobs/empty-runs-on".toList ∧ finding.line = some 3 := by
  intro text labels steps document
  have hload : Document.load text = .ok document := rfl
  have hjob : (⟨"b", some 2, [labels, steps]⟩ : Job) ∈ document.jobs := List.mem_singleton_self _
  have hvalue : labels.value.IsPopulated := .sequence _ _ _
  refine ⟨hload, hvalue, fun hreported => ?_⟩
  obtain ⟨index, line, content, next, hindex, hline, hcontent, hnext, hiff, -⟩ :=
    evaluate_runner hload hjob (List.mem_cons_self ..) rfl hvalue false
  obtain rfl : index = 2 := by
    have := Option.some_inj.mp hindex
    omega
  obtain rfl : "    runs-on:".toList = line := Option.some_inj.mp hline
  obtain rfl : (⟨4, "runs-on:"⟩ : Content) = content := Option.some_inj.mp hcontent
  obtain rfl : (⟨6, "- linux"⟩ : Content) = next := Option.some_inj.mp hnext
  exact absurd (hiff.mp hreported).2.2 (by decide)

/-- Labels in the column of the key: the runner has a value and is reported as empty. -/
theorem evaluate_runner_indentless :
    let text : Text := "on: push\njobs:\n  b:\n    runs-on:\n    - ubuntu\n    steps:\n    - run: x"
    ∃ document, Document.load text = .ok document ∧ ∃ job ∈ document.jobs, ∃ entry ∈ job.entries,
      entry.key = "runs-on".toList ∧ entry.value.IsPopulated ∧
        ∃ finding ∈ (document.evaluate false Rule.all).diagnostics,
          finding.ruleId = some "jobs/empty-runs-on".toList ∧ finding.line = entry.line := by
  intro text
  refine ⟨_, rfl, _, List.mem_singleton_self _, _, List.mem_cons_self .., rfl,
    .sequence _ _ _, ?_⟩
  decide +kernel

end WorkflowLint
