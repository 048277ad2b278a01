/-
  WorkflowLint/Proofs/Rule/Script.lean
  ====================================
  **Script and the layout rules.**

  The layout stage keeps a flag for block scalars, while the outline is read with
  a stack of frames.  A header that ends in its indicator sets the flag, and the
  flag stays set as long as lines start with a space or a tab.  So a line that the
  outline takes as script is left alone by the rules on the end of a line and on
  double colons, unless a comment follows the indicator of the header or the body
  has a line that is indented by other blanks (`script_unchecked`).
-/
import WorkflowLint.Proofs.Fix.Fixpoint
import WorkflowLint.Proofs.Outline.Script
import WorkflowLint.Proofs.Rule.Ignored

namespace WorkflowLint

/-! ### The flag for block scalars -/

/-- The flag for block scalars after some lines. -/
def inBlockThrough (inBlock : Bool) (lines : List Text) : Bool :=
  lines.foldl
    (fun inBlock line => if Line.isIgnorable line then inBlock else inBlockAfter inBlock line)
    inBlock

/-- While lines are indented by a space or a tab, the flag stays set. -/
theorem inBlockThrough_of_isIndented {lines : List Text}
    (h : ∀ line ∈ lines, Line.isIgnorable line = true ∨ Line.isIndented line = true) :
    inBlockThrough true lines = true := by
  induction lines with
  | nil => rfl
  | cons line rest ih =>
    have hline : (if Line.isIgnorable line then true else inBlockAfter true line) = true := by
      rcases h line (by simp) with hline | hline <;> simp [hline, inBlockAfter]
    rw [inBlockThrough, List.foldl_cons, hline]
    exact ih fun other hother => h other (List.mem_cons_of_mem _ hother)

/-- Whether a line is checked as one outside block scalars is decided by the flag at it. -/
theorem exempt_of_mem_layoutViews {strict inBlock exempt : Bool} {number : Int} {line : Text}
    {front back : List Text} {view : LineView}
    (h : (view, exempt) ∈ layoutViews strict number inBlock (front ++ line :: back))
    (hnumber : view.number = number + front.length) :
    exempt = inBlockAfter (inBlockThrough inBlock front) line := by
  induction front generalizing number inBlock with
  | nil =>
    rw [List.nil_append, layoutViews] at h
    simp only [List.length_nil, Int.natCast_zero, Int.add_zero] at hnumber
    -- the views of later lines have later numbers
    split at h
    · have hle := (isFresh_of_mem_layoutViews h).2
      omega
    · rcases List.mem_cons.mp h with heq | h
      · exact (Prod.mk.inj heq).2
      · have hle := (isFresh_of_mem_layoutViews h).2
        omega
  | cons first rest ih =>
    rw [List.cons_append, layoutViews] at h
    simp only [List.length_cons, Int.natCast_add, Int.natCast_one] at hnumber
    rw [inBlockThrough, List.foldl_cons]
    split at h
    · rename_i hignorable
      rw [if_pos hignorable]
      exact ih h (by omega)
    · rename_i hignorable
      rw [if_neg hignorable]
      rcases List.mem_cons.mp h with heq | h
      · have hfirst : view.number = number := by rw [(Prod.mk.inj heq).1]
        omega
      · exact ih h (by omega)

theorem Fix.changeLines_append (change : Bool → Text → Text) (inBlock : Bool)
    (front back : List Text) :
    Fix.changeLines change inBlock (front ++ back) =
      Fix.changeLines change inBlock front ++
        Fix.changeLines change (inBlockThrough inBlock front) back := by
  induction front generalizing inBlock with
  | nil => rfl
  | cons line rest ih =>
    rw [List.cons_append, Fix.changeLines, Fix.changeLines, inBlockThrough, List.foldl_cons]
    split <;> exact congrArg (List.cons _) (ih _)

/-- A finding of a rule that does not look into block scalars is made on a line outside them. -/
theorem Document.exists_view_outside {document : Document} {kept : Text → Bool} {strict : Bool}
    (hblank : Text.allBlank document.text = false) {diagnostic : Diagnostic}
    (hd : diagnostic ∈ (document.evaluate strict (Rule.selected kept)).diagnostics)
    {rule : LayoutRule} (hrule : diagnostic.ruleId = some rule.id) (houtside : rule.checksBlockBody = false) :
    ∃ view, (view, false) ∈ layoutViews strict 1 false document.lines ∧
      diagnostic.line = some view.number := by
  obtain ⟨view, exempt, hview, hd⟩ := exists_view hblank hd hrule
  have hline := LayoutRule.line_of_mem_checkAll hd
  rcases LayoutRule.mem_checkAll_selected.mp hd with ⟨-, htab⟩ | ⟨rfl, -, -⟩ | ⟨rfl, -, -⟩
  · refine (ruleId_ne_of_mem_check htab hrule ?_).elim
    cases rule with
    | tabIndentation => cases houtside
    | trailingWhitespace => decide
    | doubleColon => decide
  · exact ⟨view, hview, hline⟩
  · exact ⟨view, hview, hline⟩

/-! ### Headers -/

namespace Outline.State

variable {state : State} {before body : List Text} {header line : Text}

/-- A header without a comment ends in its indicator, and it is no blank line. -/
theorem Opened.endsInBlockIndicator (h : state.Opened before header body)
    (hcomment : Line.stripComment (Text.trim header) = Text.trim header) :
    Line.isIgnorable header = false ∧ Line.endsInBlockIndicator (Text.trim header) = true := by
  obtain ⟨opened, content, -, -, -, hcontent, hindicator⟩ := h.header
  obtain ⟨hignorable, rfl⟩ := content?_eq_some_iff.mp hcontent
  rw [hcomment] at hindicator
  exact ⟨hignorable, hindicator.endsInBlockIndicator (Text.tight_trim header)⟩

/-- Behind such a header, the flag is set throughout an indented body. -/
theorem Opened.inBlockThrough (h : state.Opened before header body)
    (hcomment : Line.stripComment (Text.trim header) = Text.trim header)
    (hbody : ∀ other ∈ body, Line.isIgnorable other = true ∨ Line.isIndented other = true)
    (inBlock : Bool) : inBlockThrough inBlock (before ++ header :: body) = true := by
  obtain ⟨hignorable, hends⟩ := h.endsInBlockIndicator hcomment
  have hheader (flag : Bool) : inBlockAfter flag header = true := by simp [inBlockAfter, hends]
  rw [WorkflowLint.inBlockThrough, List.foldl_append, List.foldl_cons, hignorable,
    if_neg Bool.false_ne_true, hheader]
  exact inBlockThrough_of_isIndented hbody

end Outline.State

/-! ### Findings on script -/

open Outline (State)

/-- Behind a line that is read as script stands the header of its block scalar.  If no comment
    follows the indicator of the header, and the lines from there on are indented by a space or a
    tab, then neither the rule on the ends of lines nor that on double colons has a finding on
    the line, and a pass of fixes leaves its end as it is. -/
theorem script_unchecked {text : Text} {document : Document}
    (hload : Document.load text = .ok document) (strict : Bool) {front back : List Text}
    {line : Text} {state : State} (hlines : Text.lines text = front ++ line :: back)
    (hrun : State.initial.run front 1 = .ok state) (hscript : state.takesAsScript line = true) :
    ∃ before header body, front = before ++ header :: body ∧ state.Opened before header body ∧
      (Line.stripComment (Text.trim header) = Text.trim header →
        (∀ other ∈ body ++ [line], Line.isIgnorable other = true ∨ Line.isIndented other = true) →
        let findings := (document.evaluate strict Rule.all).diagnostics
        (∀ finding ∈ findings, finding.line = some (1 + front.length : Int) →
          finding.ruleId ≠ some LayoutRule.trailingWhitespace.id ∧
            finding.ruleId ≠ some LayoutRule.doubleColon.id) ∧
          (Text.lines (Fix.apply text findings))[front.length]? =
            some (Fix.updateLine line (Fix.indentLine line))) := by
  obtain ⟨hinnermost, hexists⟩ := State.exists_opened hrun
  obtain ⟨before, header, body, rfl, hopened⟩ := hexists (hinnermost.inScript hscript)
  refine ⟨before, header, body, rfl, hopened, ?_⟩
  intro hcomment hbody findings
  have hline : Line.isIgnorable line = false := by
    rw [State.takesAsScript, Option.any_eq_true] at hscript
    obtain ⟨content, hcontent, -⟩ := hscript
    rw [Outline.content?] at hcontent
    split at hcontent
    · cases hcontent
    · rename_i hignorable
      exact Bool.eq_false_iff.mpr hignorable
  have hblank : Text.allBlank text = false := by
    rw [← Text.joinLines_lines text, Text.allBlank_joinLines, hlines]
    have hne := Line.trim_ne_nil hline
    simp [Bool.eq_false_iff.mpr (mt Text.trim_eq_nil.mpr hne)]
  have hflag : inBlockAfter (inBlockThrough false (before ++ header :: body)) line = true := by
    have hthrough := hopened.inBlockThrough hcomment
      (fun other hother => hbody other (List.mem_append_left _ hother)) false
    have hindented := (hbody line (by simp)).resolve_left (by simp [hline])
    simp [hthrough, inBlockAfter, hindented]
  constructor
  · obtain ⟨outline, -, rfl⟩ := Document.load_eq_ok_iff.mp hload
    intro finding hfinding hnumber
    have hall : Rule.all = Rule.selected fun _ => true := rfl
    simp only [findings, hall] at hfinding
    -- a finding of either rule would come from a view of the line with the flag unset
    have houtside {rule : LayoutRule} (hchecks : rule.checksBlockBody = false) :
        finding.ruleId ≠ some rule.id := by
      intro hrule
      obtain ⟨view, hview, hfound⟩ :=
        Document.exists_view_outside hblank hfinding hrule hchecks
      rw [hnumber, Option.some_inj] at hfound
      simp only [hlines] at hview
      have hexempt := exempt_of_mem_layoutViews hview hfound.symm
      rw [hflag] at hexempt
      cases hexempt
    exact ⟨houtside rfl, houtside rfl⟩
  · rw [Fix.lines_apply_evaluate hload hblank, hlines, Fix.passLines_eq, Fix.changeLines_append,
      List.getElem?_append_right (Nat.le_of_eq (Fix.length_changeLines ..)),
      Fix.length_changeLines, Nat.sub_self, Fix.changeLines, hline, if_neg Bool.false_ne_true, hflag]
    simp [Fix.passLine, Fix.layoutLine]

/-- A line of script with two colons and blanks at its end. -/
theorem script_unchecked_colons :
    let text : Text := "run: |\n  a::  "
    let tree : Node := .mapping [⟨"run", some 1, .scalar (.str []) (some 1)⟩] none
    let document : Document := ⟨text, ["run: |", "  a::  "], tree, []⟩
    let state : State := ⟨tree, [⟨0, ⟨[], some "run", true⟩⟩], []⟩
    let findings := (document.evaluate true Rule.all).diagnostics
    Document.load text = .ok document ∧ State.initial.run ["run: |"] 1 = .ok state ∧
      state.takesAsScript "  a::  " = true ∧
      (∀ finding ∈ findings, finding.line = some 2 →
        finding.ruleId ≠ some LayoutRule.trailingWhitespace.id ∧
          finding.ruleId ≠ some LayoutRule.doubleColon.id) ∧
      (Text.lines (Fix.apply text findings))[1]? = some "  a::  ".toList := by
  intro text tree document state findings
  have hload : Document.load text = .ok document := rfl
  have hrun : State.initial.run ["run: |"] 1 = .ok state := rfl
  have hscript : state.takesAsScript "  a::  " = true := by decide +kernel
  have hlines : Text.lines text = ("run: |" : Text) :: [] ++ ("  a::  " : Text) :: [] := rfl
  obtain ⟨before, header, body, hfront, -, hfree⟩ :=
    script_unchecked hload true hlines hrun hscript
  have hheader : header = "run: |".toList ∧ body = [] := by
    cases before with
    | nil => simpa [eq_comm] using hfront
    | cons first rest => simp at hfront
  obtain ⟨rfl, rfl⟩ := hheader
  obtain ⟨hnone, hkept⟩ := hfree (by decide +kernel) (by decide +kernel)
  exact ⟨hload, hrun, hscript, hnone, hkept.trans (by decide +kernel)⟩

/-- A line below the header of a script is taken as script, and yet it has a finding about its
    end, which a pass cuts off. -/
def ChecksScript (header line cut : Text) : Prop :=
  let text : Text := header ++ '\n' :: line
  let tree : Node := .mapping [⟨"run", some 1, .scalar (.str []) (some 1)⟩] none
  let document : Document := ⟨text, [header, line], tree, []⟩
  let state : State := ⟨tree, [⟨0, ⟨[], some "run", true⟩⟩], []⟩
  let findings := (document.evaluate true Rule.all).diagnostics
  Document.load text = .ok document ∧ State.initial.run [header] 1 = .ok state ∧
    state.takesAsScript line = true ∧
    (∃ finding ∈ findings, finding.line = some 2 ∧
      finding.ruleId = some LayoutRule.trailingWhitespace.id) ∧
    Fix.apply text findings = header ++ '\n' :: cut

/-- A line of script is checked behind a header with a comment, and where it is indented by other
    blanks than spaces and tabs. -/
theorem script_checked :
    ChecksScript "run: | # note" "  a  " "  a" ∧ ChecksScript "run: |" "\u00a0a  " "\u00a0a" := by
  constructor
  · exact ⟨rfl, rfl, by decide +kernel, by decide +kernel, by decide +kernel⟩
  · exact ⟨rfl, rfl, by decide +kernel, by decide +kernel, by decide +kernel⟩

end WorkflowLint
