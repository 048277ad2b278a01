/-
  WorkflowLint/Proofs/Rule/Translation.lean
  =========================================
  **Blank lines above a text.**

  Putting blank lines above a text moves everything that is read, found and fixed in it down
  by as many lines and changes nothing else (`evaluate_below`).  Each stage goes through the
  lines with a number of its own; blank lines only count this number up, and counting from a
  higher number moves the result (`Scans`).  Structure rules take their lines from the tree,
  which is moved by giving it other labels.
-/
import WorkflowLint.Proofs.Outline.Concat
import WorkflowLint.Proofs.Rule.Content
import WorkflowLint.Proofs.Rule.Selection
import WorkflowLint.Proofs.Rule.Structure

namespace WorkflowLint

open Text (allBlank)

/-! ### Passes over lines -/

/-- A finding further down by `offset` lines; a finding without a line stays as it is. -/
def Diagnostic.shift (offset : Int) : Diagnostic → Diagnostic := Diagnostic.moveLine (· + offset)

/-- A pass over lines with a number: blank lines only count the number up, and counting from a
    higher number moves the result. -/
structure Scans {β : Type} (move : Int → β → β) (scan : Int → List Text → β) : Prop where
  shift : ∀ offset number lines, scan (number + offset) lines = move offset (scan number lines)
  blank : ∀ number line rest, allBlank line = true →
    scan number (line :: rest) = scan (number + 1) rest

/-- A pass whose result are findings. -/
abbrev ScansFindings (scan : Int → List Text → List Diagnostic) : Prop :=
  Scans (fun offset => List.map (Diagnostic.shift offset)) scan

variable {front : List Text} {offset : Int}

/-- Blank lines above move the result of a pass. -/
theorem Scans.append {β : Type} {move : Int → β → β} {scan : Int → List Text → β}
    (h : Scans move scan) (hfront : ∀ line ∈ front, allBlank line = true) (number : Int)
    (lines : List Text) :
    scan number (front ++ lines) = move front.length (scan number lines) := by
  rw [← h.shift]
  induction front generalizing number with
  | nil => rw [List.length_nil, Int.natCast_zero, Int.add_zero, List.nil_append]
  | cons line rest ih =>
    have hnumber : number + ((rest.length + 1 : Nat) : Int) = number + 1 + rest.length := by
      omega
    rw [List.cons_append, h.blank _ _ _ (hfront line (List.mem_cons_self ..)),
      ih fun other hother => hfront other (List.mem_cons_of_mem _ hother), List.length_cons,
      hnumber]

theorem Line.isIgnorable_of_allBlank {line : Text} (h : allBlank line = true) :
    isIgnorable line = true := by
  rw [isIgnorable, Text.trim_eq_nil.mpr h]
  rfl

/-! ### The layout stage -/

namespace LayoutRule

/-- A view of a line further down. -/
theorem check_shift (rule : LayoutRule) (view : LineView) :
    rule.check { view with number := view.number + offset } =
      (rule.check view).map (Diagnostic.shift offset) := by
  have hobjects : rule.objects { view with number := view.number + offset } =
      rule.objects view := by
    cases rule <;> rfl
  have hcorrect : rule.correct? { view with number := view.number + offset } =
      rule.correct? view := by
    rw [correct?, correct?, hobjects]
  rw [check, check, hobjects, hcorrect]
  split <;> rfl

theorem advance_shift (rule : LayoutRule) (view : LineView) :
    rule.advance { view with number := view.number + offset } =
      { rule.advance view with number := (rule.advance view).number + offset } := by
  cases rule <;> rfl

theorem checkAll_shift (rules : List LayoutRule) (view : LineView) :
    checkAll rules { view with number := view.number + offset } =
      (checkAll rules view).map (Diagnostic.shift offset) := by
  induction rules generalizing view with
  | nil => rfl
  | cons rule rest ih => rw [checkAll, checkAll, check_shift, advance_shift, ih, List.map_append]

end LayoutRule

theorem scans_layoutFindings (strict : Bool) (rules : List LayoutRule) (inBlock : Bool) :
    ScansFindings fun number lines => layoutFindings strict rules number inBlock lines where
  shift offset number lines := by
    induction lines generalizing number inBlock with
    | nil => rfl
    | cons line rest ih =>
      have hnumber : number + offset + 1 = number + 1 + offset := by omega
      simp only [layoutFindings, hnumber]
      split
      · exact ih ..
      · rw [List.map_append, ← ih]
        congr 1
        exact LayoutRule.checkAll_shift _ ⟨line, number, rest, strict, line⟩
  blank number line rest h := by
    simp only [layoutFindings, Line.isIgnorable_of_allBlank h, if_true]

/-! ### The content stage -/

namespace ContentRule

theorem check_shift (rule : ContentRule) (view : LineView) :
    rule.check { view with number := view.number + offset } =
      (rule.check view).map (Diagnostic.shift offset) := by
  have hobjections : rule.objections { view with number := view.number + offset } =
      rule.objections view := by
    cases rule <;> rfl
  rw [check, check, hobjections, List.map_map]
  rfl

/-- Content rules find nothing on a blank line. -/
theorem check_of_allBlank (rule : ContentRule) {view : LineView}
    (h : allBlank view.line = true) : rule.check view = [] := by
  have htrim : Text.trim view.line = [] := Text.trim_eq_nil.mpr h
  have hdollar : '$' ∉ view.line := Line.not_mem_of_allBlank h (by decide)
  have hobjections : rule.objections view = [] := by
    cases rule with
    | hardcodedSecret =>
      rw [objections, htrim]
      decide
    | unpinnedAction =>
      rw [objections, Line.usesReference?_of_isIgnorable (Line.isIgnorable_of_allBlank h)]
    | unbalancedParentheses =>
      have hnone := Line.expressions_append hdollar []
      rw [List.append_nil] at hnone
      rw [objections, hnone]
      rfl
    | unclosedExpression =>
      have hopen : Text.hasPart Line.expressionOpen view.line = false := by
        rw [← Bool.not_eq_true, Text.hasPart_iff]
        intro hpart
        exact hdollar (hpart.subset (by decide))
      rw [objections, Line.leavesExpressionOpen, hopen]
      rfl
    | emptyRunsOn =>
      have hempty : Line.hasEmptyRunner view.line view.following = false := by
        rw [Line.hasEmptyRunner, htrim]
        rfl
      rw [objections, hempty]
      rfl
  rw [check, hobjections]
  rfl

end ContentRule

theorem scans_contentFindings (strict : Bool) (rules : List ContentRule) :
    ScansFindings (contentFindings strict rules) where
  shift offset number lines := by
    induction lines generalizing number with
    | nil => rfl
    | cons line rest ih =>
      have hnumber : number + offset + 1 = number + 1 + offset := by omega
      have hline (rule : ContentRule) : rule.check ⟨line, number + offset, rest, strict, line⟩ =
          (rule.check ⟨line, number, rest, strict, line⟩).map (Diagnostic.shift offset) :=
        rule.check_shift ⟨line, number, rest, strict, line⟩
      rw [contentFindings, contentFindings, hnumber, ih, List.map_append, List.map_flatMap]
      simp only [hline]
  blank number line rest h := by
    have hline (rule : ContentRule) : rule.check ⟨line, number, rest, strict, line⟩ = [] :=
      rule.check_of_allBlank h
    rw [contentFindings]
    simp [hline]

/-! ### The document stage -/

theorem StructureRule.scans_deprecationsFrom : ScansFindings StructureRule.deprecationsFrom where
  shift offset number lines := by
    induction lines generalizing number with
    | nil => rfl
    | cons line rest ih =>
      have hnumber : number + offset + 1 = number + 1 + offset := by omega
      rw [deprecationsFrom, deprecationsFrom, hnumber, ih, List.map_append]
      congr 1
      cases deprecationOn? line <;> rfl
  blank number line rest h := by
    rw [deprecationsFrom, Fix.deprecationOn?_of_isIgnorable (Line.isIgnorable_of_allBlank h)]
    rfl

/-- No key stands on a blank line. -/
theorem Document.scans_findKeyLineFrom? (key : Text) :
    Scans (fun offset => Option.map (· + offset)) (Document.findKeyLineFrom? key) where
  shift offset number lines := by
    induction lines generalizing number with
    | nil => rfl
    | cons line rest ih =>
      have hnumber : number + offset + 1 = number + 1 + offset := by omega
      rw [findKeyLineFrom?, findKeyLineFrom?]
      split
      · rfl
      · rw [hnumber, ih]
  blank number line rest h := by
    have hnone : startsWithKey key (Text.trim line) = false := by
      rw [Text.trim_eq_nil.mpr h]
      cases key <;> rfl
    rw [findKeyLineFrom?, hnone, if_neg Bool.false_ne_true]

/-- What structure rules find in a document below blank lines. -/
theorem StructureRule.analyze_below (rule : StructureRule) {document lower : Document}
    (hfront : ∀ line ∈ front, allBlank line = true)
    (hlines : lower.lines = front ++ document.lines)
    (htree : lower.outline.tree = document.outline.tree.shift front.length) :
    rule.analyze lower = (rule.analyze document).map (Diagnostic.shift front.length) := by
  refine rule.analyze_relabel (Node.isRelabelling_shift _) htree (fun key => ?_) ?_
  · rw [Document.findKeyLine?, hlines]
    exact (Document.scans_findKeyLineFrom? key).append hfront 1 document.lines
  · rw [hlines]
    exact scans_deprecationsFrom.append hfront 1 document.lines

/-! ### Fixes -/

namespace Fix

theorem amendLines_append_lines (diagnostics : List Diagnostic) (number : Int)
    (front lines : List Text) :
    amendLines diagnostics number (front ++ lines) =
      amendLines diagnostics number front ++
        amendLines diagnostics (number + front.length) lines := by
  induction front generalizing number with
  | nil => simp [amendLines]
  | cons line rest ih =>
    have hnumber : number + ((rest.length + 1 : Nat) : Int) = number + 1 + rest.length := by
      omega
    rw [List.cons_append, amendLines, amendLines, ih, List.length_cons, hnumber,
      List.cons_append]

/-- Lines above all findings stay as they are. -/
theorem amendLines_of_lt {diagnostics : List Diagnostic} {number : Int} {lines : List Text}
    (h : ∀ diagnostic ∈ diagnostics, diagnostic.isFixable = true →
      ∃ line, diagnostic.line = some line ∧ number + lines.length ≤ line) :
    amendLines diagnostics number lines = lines := by
  induction lines generalizing number with
  | nil => rfl
  | cons line rest ih =>
    have hfirst : amendLine diagnostics number line = line := by
      refine amendLine_of_not_concerns (fun diagnostic hd => ?_) line
      rw [concerns]
      cases hfixable : diagnostic.isFixable with
      | false => rfl
      | true =>
        obtain ⟨found, hfound, hle⟩ := h diagnostic hd hfixable
        rw [List.length_cons, Int.natCast_add] at hle
        rw [hfound, Bool.true_and, beq_eq_false_iff_ne]
        intro heq
        rw [Option.some_inj] at heq
        omega
    rw [amendLines, hfirst, ih]
    intro diagnostic hd hfixable
    obtain ⟨found, hfound, hle⟩ := h diagnostic hd hfixable
    rw [List.length_cons, Int.natCast_add] at hle
    exact ⟨found, hfound, by omega⟩

theorem amendLine_shift (diagnostics : List Diagnostic) (number : Int) (line : Text) :
    amendLine (diagnostics.map (Diagnostic.shift offset)) (number + offset) line =
      amendLine diagnostics number line := by
  have hconcerns (diagnostic : Diagnostic) :
      concerns (number + offset) (diagnostic.shift offset) = concerns number diagnostic := by
    rw [concerns, concerns, Diagnostic.isFixable, Diagnostic.isFixable, Diagnostic.shift,
      Diagnostic.moveLine]
    cases diagnostic.line with
    | none => rfl
    | some found =>
      have hsame : (found + offset == number + offset) = (found == number) := by
        rw [Bool.eq_iff_iff, beq_iff_eq, beq_iff_eq]
        omega
      simp [hsame]
  rw [amendLine, amendLine, List.filter_map, List.foldl_map]
  simp only [Function.comp_def, hconcerns]
  rfl

theorem amendLines_shift (diagnostics : List Diagnostic) (number : Int) (lines : List Text) :
    amendLines (diagnostics.map (Diagnostic.shift offset)) (number + offset) lines =
      amendLines diagnostics number lines := by
  induction lines generalizing number with
  | nil => rfl
  | cons line rest ih =>
    have hnumber : number + offset + 1 = number + 1 + offset := by omega
    rw [amendLines, amendLines, amendLine_shift, hnumber, ih]

/-- Fixes for a text that are moved down with it leave the lines above it as they are. -/
theorem apply_below (hfeed : ∀ line ∈ front, '\n' ∉ line) {diagnostics : List Diagnostic}
    (h : ∀ diagnostic ∈ diagnostics, diagnostic.isFixable = true →
      ∃ line, diagnostic.line = some line ∧ 1 ≤ line) (text : Text) :
    apply (Text.below front text) (diagnostics.map (Diagnostic.shift front.length)) =
      Text.below front (apply text diagnostics) := by
  have habove : amendLines (diagnostics.map (Diagnostic.shift front.length)) 1 front = front := by
    apply amendLines_of_lt
    intro shifted hshifted hfixable
    obtain ⟨diagnostic, hd, rfl⟩ := List.mem_map.mp hshifted
    have hsame : (diagnostic.shift front.length).isFixable = diagnostic.isFixable := by
      rw [Diagnostic.isFixable, Diagnostic.isFixable, Diagnostic.shift, Diagnostic.moveLine,
        Option.isSome_map]
    obtain ⟨line, hline, hle⟩ := h diagnostic hd (hsame ▸ hfixable)
    refine ⟨line + front.length, ?_, by omega⟩
    rw [Diagnostic.shift, Diagnostic.moveLine, hline]
    rfl
  have hne : amendLines diagnostics 1 (Text.lines text) ≠ [] := by
    cases hlines : Text.lines text with
    | nil => exact absurd hlines (Text.lines_ne_nil text)
    | cons line rest => exact List.cons_ne_nil _ _
  rw [apply_eq, apply_eq, Text.lines_below hfeed, amendLines_append_lines, habove,
    amendLines_shift, Text.joinLines_append front hne]

end Fix

/-! ### All findings -/

/-- Findings that can be fixed are on a line of the text. -/
theorem Document.one_le_of_isFixable {document : Document} {strict : Bool} {rules : List Rule}
    (hblank : allBlank document.text = false) {diagnostic : Diagnostic}
    (hd : diagnostic ∈ (document.evaluate strict rules).diagnostics)
    (hfixable : diagnostic.isFixable = true) :
    ∃ line, diagnostic.line = some line ∧ 1 ≤ line := by
  rw [diagnostics_evaluate hblank, List.mem_append, List.mem_append] at hd
  rcases hd with (hd | hd) | hd
  · exact le_of_mem_layoutFindings hd
  · obtain ⟨rule, -, hd⟩ := List.mem_flatMap.mp hd
    by_cases hrule : rule = .deprecatedAction
    · subst hrule
      exact StructureRule.le_of_mem_deprecationsFrom hd
    · rw [StructureRule.not_isFixable_analyze hrule hd] at hfixable
      cases hfixable
  · rw [not_isFixable_contentFindings hd] at hfixable
    cases hfixable

/-- Blank lines above a document move its findings. -/
theorem Document.diagnostics_below {document lower : Document}
    (hfront : ∀ line ∈ front, allBlank line = true)
    (htext : allBlank document.text = false) (hlower : allBlank lower.text = false)
    (hlines : lower.lines = front ++ document.lines)
    (htree : lower.outline.tree = document.outline.tree.shift front.length) (strict : Bool)
    (rules : List Rule) :
    (lower.evaluate strict rules).diagnostics =
      (document.evaluate strict rules).diagnostics.map (Diagnostic.shift front.length) := by
  have hlayout := (scans_layoutFindings strict (rules.filterMap Rule.layout?) false).append hfront 1
    document.lines
  have hcontent := (scans_contentFindings strict (rules.filterMap Rule.content?)).append hfront 1
    document.lines
  have hstructure (rule : StructureRule) := rule.analyze_below hfront hlines htree
  rw [diagnostics_evaluate hlower, diagnostics_evaluate htext, hlines, hcontent, List.map_append,
    List.map_append, List.map_flatMap]
  simp only [hstructure]
  rw [hlayout]

/-- Blank lines above a text that has more than blanks: it is refused for the same reason or read
    as before, the findings are those of the text further down, and so are the fixes. -/
theorem evaluate_below {text : Text} {front : List Text}
    (hfront : ∀ line ∈ front, allBlank line = true ∧ '\n' ∉ line)
    (htext : allBlank text = false) (strict : Bool) (rules : List Rule) :
    (∀ fault, Document.load (Text.below front text) = .error fault ↔
      Document.load text = .error fault) ∧
    ∀ document, Document.load text = .ok document → ∃ lower,
      Document.load (Text.below front text) = .ok lower ∧
      (lower.evaluate strict rules).diagnostics =
        (document.evaluate strict rules).diagnostics.map (Diagnostic.shift front.length) ∧
      Fix.apply (Text.below front text) (lower.evaluate strict rules).diagnostics =
        Text.below front (Fix.apply text (document.evaluate strict rules).diagnostics) := by
  have hblank : ∀ line ∈ front, allBlank line = true := fun line hline => (hfront line hline).1
  have hfeed : ∀ line ∈ front, '\n' ∉ line := fun line hline => (hfront line hline).2
  have hparse := Outline.parse_below
    (fun line hline => Line.isIgnorable_of_allBlank (hblank line hline)) hfeed text
  constructor
  · intro fault
    rw [Document.load, Document.load, hparse]
    cases Outline.parse text with
    | error other => rfl
    | ok outline =>
      constructor
      · intro h
        cases h
      · intro h
        cases h
  · intro document hload
    obtain ⟨outline, houtline, rfl⟩ := Document.load_eq_ok_iff.mp hload
    rw [houtline] at hparse
    have hlower : allBlank (Text.below front text) = false := by
      rw [Text.below, Text.allBlank_append, htext, Bool.and_false]
    let lower : Document :=
      ⟨Text.below front text, Text.lines (Text.below front text), outline.shift front.length⟩
    have hfindings : (lower.evaluate strict rules).diagnostics =
        (Document.evaluate ⟨text, Text.lines text, outline⟩ strict rules).diagnostics.map
          (Diagnostic.shift front.length) :=
      Document.diagnostics_below hblank htext hlower (Text.lines_below hfeed text) rfl strict rules
    refine ⟨lower, Document.load_eq_ok_iff.mpr ⟨_, hparse, rfl⟩, hfindings, ?_⟩
    rw [hfindings]
    exact Fix.apply_below hfeed (fun _ hd => Document.one_le_of_isFixable htext hd) text

/-- Two blank lines above an outdated action behind a tab; the finding about a missing section has
    no line. -/
theorem evaluate_below_uses :
    let text : Text := "on: push\n\tuses: actions/cache@v2"
    let front : List Text := [[], [' ', '\t']]
    let document : Document := ⟨text, Text.lines text,
      .mapping [⟨"on", some 1, .scalar (.str "push") (some 1)⟩,
        ⟨"uses", some 2, .scalar (.str "actions/cache@v2") (some 2)⟩] none, []⟩
    (∀ line ∈ front, allBlank line = true ∧ '\n' ∉ line) ∧ allBlank text = false ∧
      Document.load text = .ok document ∧ ∃ lower,
        Document.load (Text.below front text) = .ok lower ∧
        (lower.evaluate true Rule.all).diagnostics.map Diagnostic.line =
          [some 4, none, some 4, some 4] ∧
        Fix.apply (Text.below front text) (lower.evaluate true Rule.all).diagnostics =
          "\n \t\non: push\n  uses: actions/cache@v4" := by
  intro text front document
  have hfront : ∀ line ∈ front, allBlank line = true ∧ '\n' ∉ line := by decide
  have hblank : allBlank text = false := by decide
  have hload : Document.load text = .ok document := rfl
  obtain ⟨lower, hlower, hfindings, hfixed⟩ :=
    (evaluate_below hfront hblank true Rule.all).2 document hload
  refine ⟨hfront, hblank, hload, lower, hlower, ?_, ?_⟩
  · rw [hfindings]
    decide +kernel
  · rw [hfixed]
    decide +kernel

end WorkflowLint
