/-
  WorkflowLint/Proofs/Fix/Pass.lean
  =================================
  **One pass of fixes.**

  A pass evaluates a text and applies the fixes that were found.  On each line it
  expands the tabs at the start, drops the blanks at the end and replaces an
  outdated reference, in this order and each where it was objected to (`passLine`).
-/
import WorkflowLint.Evaluation
import WorkflowLint.Proofs.Fix.Fold
import WorkflowLint.Proofs.Line.Layout
import WorkflowLint.Proofs.Line.Outdated

namespace WorkflowLint

/-- A document that loads is the text, its lines and the outline that is read from it. -/
theorem Document.load_eq_ok_iff {text : Text} {document : Document} :
    Document.load text = .ok document ↔
      ∃ outline, Outline.parse text = .ok outline ∧
        document = ⟨text, Text.lines text, outline⟩ := by
  rw [Document.load]
  cases Outline.parse text with
  | error error => simp [Except.map]
  | ok outline => simp [Except.map, eq_comm]

theorem Document.text_of_load {text : Text} {document : Document}
    (h : Document.load text = .ok document) : document.text = text := by
  obtain ⟨outline, -, rfl⟩ := Document.load_eq_ok_iff.mp h
  rfl

theorem Document.lines_of_load {text : Text} {document : Document}
    (h : Document.load text = .ok document) : document.lines = Text.lines text := by
  obtain ⟨outline, -, rfl⟩ := Document.load_eq_ok_iff.mp h
  rfl

theorem Document.diagnostics_evaluate {document : Document}
    (hblank : Text.allBlank document.text = false) (strict : Bool)
    (rules : List Rule) :
    (document.evaluate strict rules).diagnostics =
      layoutFindings strict (rules.filterMap Rule.layout?) 1 false document.lines
        ++ (rules.filterMap Rule.document?).flatMap (fun rule => rule.analyze document)
        ++ contentFindings strict (rules.filterMap Rule.content?) 1 document.lines := by
  rw [Document.evaluate, hblank, if_neg Bool.false_ne_true, Evaluation.diagnostics]

/-! ### Where findings are -/

namespace LayoutRule

theorem line_of_mem_check {rule : LayoutRule} {view : LineView} {diagnostic : Diagnostic}
    (h : diagnostic ∈ rule.check view) : diagnostic.line = some view.number := by
  rw [check] at h
  split at h
  · rw [List.mem_singleton] at h
    rw [h]
  · exact absurd h List.not_mem_nil

@[simp] theorem number_advance (rule : LayoutRule) (view : LineView) :
    (rule.advance view).number = view.number := rfl

theorem line_of_mem_checkAll {rules : List LayoutRule} {view : LineView} {diagnostic : Diagnostic}
    (h : diagnostic ∈ checkAll rules view) : diagnostic.line = some view.number := by
  induction rules generalizing view with
  | nil => exact absurd h List.not_mem_nil
  | cons rule rest ih =>
    rw [checkAll, List.mem_append] at h
    rcases h with h | h
    · exact line_of_mem_check h
    · rw [← number_advance rule view]
      exact ih h

theorem advance_eq {rule : LayoutRule} {correct : Text → Text}
    (h : rule.correction? = some correct) (view : LineView) :
    rule.advance view =
      { view with
        current := if rule.objects view then correct view.current else view.current } := by
  rw [advance, correct?, h]
  split <;> rfl

/-- The fix of a rule takes the place of the whole line. -/
theorem amendLine_check (rule : LayoutRule) (view : LineView) (line : Text) :
    Fix.amendLine (rule.check view) view.number line = (rule.correct? view).getD line := by
  rw [check, correct?]
  cases hobjects : rule.objects view with
  | false => rfl
  | true =>
    cases hcorrection : rule.correction? with
    | none =>
      refine Fix.amendLine_of_not_concerns ?_ _
      intro diagnostic hd
      obtain rfl := List.mem_singleton.mp hd
      rfl
    | some correct =>
      simp [Fix.amendLine, Fix.concerns, Diagnostic.isFixable, Fix.amend, Fix.onLine?,
        Fix.target?]

end LayoutRule

/-- The layout rules among all rules. -/
def layoutRules : List LayoutRule := Rule.all.filterMap Rule.layout?

theorem le_of_mem_layoutFindings {strict : Bool} {rules : List LayoutRule} {number : Int}
    {inBlock : Bool} {lines : List Text} {diagnostic : Diagnostic}
    (h : diagnostic ∈ layoutFindings strict rules number inBlock lines) :
    ∃ line, diagnostic.line = some line ∧ number ≤ line := by
  induction lines generalizing number inBlock with
  | nil => exact absurd h List.not_mem_nil
  | cons line rest ih =>
    rw [layoutFindings] at h
    split at h
    · obtain ⟨found, hfound, hle⟩ := ih h
      exact ⟨found, hfound, by omega⟩
    · rcases List.mem_append.mp h with h | h
      · exact ⟨number, LayoutRule.line_of_mem_checkAll h, Int.le_refl _⟩
      · obtain ⟨found, hfound, hle⟩ := ih h
        exact ⟨found, hfound, by omega⟩

namespace StructureRule

theorem exists_of_mem_deprecationsFrom {number : Int} {lines : List Text}
    {diagnostic : Diagnostic} (h : diagnostic ∈ deprecationsFrom number lines) :
    ∃ line entry, number ≤ line ∧ diagnostic = deprecationFinding line entry := by
  induction lines generalizing number with
  | nil => exact absurd h List.not_mem_nil
  | cons line rest ih =>
    rw [deprecationsFrom, List.mem_append, Option.mem_toList] at h
    rcases h with h | h
    · obtain ⟨entry, -, rfl⟩ := Option.map_eq_some_iff.mp h
      exact ⟨number, entry, Int.le_refl _, rfl⟩
    · obtain ⟨found, entry, hle, hfinding⟩ := ih h
      exact ⟨found, entry, by omega, hfinding⟩

theorem le_of_mem_deprecationsFrom {number : Int} {lines : List Text} {diagnostic : Diagnostic}
    (h : diagnostic ∈ deprecationsFrom number lines) :
    ∃ line, diagnostic.line = some line ∧ number ≤ line := by
  obtain ⟨line, entry, hle, rfl⟩ := exists_of_mem_deprecationsFrom h
  exact ⟨line, rfl, hle⟩

/-- Only the finding about an outdated action carries a fix. -/
theorem not_isFixable_analyze {rule : StructureRule} (hrule : rule ≠ .deprecatedAction)
    {document : Document} {diagnostic : Diagnostic} (h : diagnostic ∈ rule.analyze document) :
    diagnostic.isFixable = false := by
  have hfinding {rule : StructureRule} {severity : Severity} {message : Text} {line : Option Int} :
      (rule.finding severity message line).isFixable = false := by
    simp [finding, Diagnostic.isFixable]
  have hsection {rule : StructureRule} {key message : Text}
      (h : diagnostic ∈ rule.missingSection key message document) :
      diagnostic.isFixable = false := by
    rw [missingSection] at h
    split at h
    · exact absurd h List.not_mem_nil
    · rw [List.mem_singleton.mp h]
      exact hfinding
  cases rule with
  | missingTrigger => exact hsection h
  | missingJobs => exact hsection h
  | unknownTopLevelKey =>
    obtain ⟨entry, -, rfl⟩ := List.mem_map.mp h
    exact hfinding
  | deprecatedAction => exact absurd rfl hrule
  | unknownJobKey =>
    obtain ⟨job, -, h⟩ := List.mem_flatMap.mp h
    obtain ⟨entry, -, rfl⟩ := List.mem_map.mp h
    exact hfinding
  | missingRunsOn =>
    obtain ⟨job, -, h⟩ := List.mem_flatMap.mp h
    rw [runnerFindings] at h
    split at h
    · exact absurd h List.not_mem_nil
    · rw [List.mem_singleton.mp h]
      exact hfinding
  | unknownStepKey =>
    obtain ⟨job, -, h⟩ := List.mem_flatMap.mp h
    obtain ⟨step, -, h⟩ := List.mem_flatMap.mp h
    obtain ⟨entry, -, rfl⟩ := List.mem_map.mp h
    exact hfinding

end StructureRule

theorem not_isFixable_contentFindings {strict : Bool} {rules : List ContentRule} {number : Int}
    {lines : List Text} {diagnostic : Diagnostic}
    (h : diagnostic ∈ contentFindings strict rules number lines) :
    diagnostic.isFixable = false := by
  induction lines generalizing number with
  | nil => exact absurd h List.not_mem_nil
  | cons line rest ih =>
    rcases List.mem_append.mp h with h | h
    · obtain ⟨rule, -, h⟩ := List.mem_flatMap.mp h
      obtain ⟨message, -, rfl⟩ := List.mem_map.mp h
      rfl
    · exact ih h

namespace Fix

/-! ### Findings on other lines -/

theorem not_concerns_of_not_isFixable {diagnostic : Diagnostic}
    (h : diagnostic.isFixable = false) (number : Int) : concerns number diagnostic = false := by
  rw [concerns, h, Bool.false_and]

theorem not_concerns_of_line {diagnostic : Diagnostic} {line number : Int}
    (h : diagnostic.line = some line) (hne : line ≠ number) :
    concerns number diagnostic = false := by
  rw [concerns, h, Bool.and_eq_false_iff, beq_eq_false_iff_ne]
  exact Or.inr fun heq => hne (Option.some_inj.mp heq)

theorem amendLines_congr {front back : List Diagnostic} {number : Int} {lines : List Text}
    (h : ∀ line, number ≤ line → amendLine front line = amendLine back line) :
    amendLines front number lines = amendLines back number lines := by
  induction lines generalizing number with
  | nil => rfl
  | cons line rest ih =>
    rw [amendLines, amendLines, h number (Int.le_refl _), ih fun next hnext => h next (by omega)]

theorem amendLines_append (front back : List Diagnostic) (number : Int) (lines : List Text) :
    amendLines (front ++ back) number lines =
      amendLines back number (amendLines front number lines) := by
  induction lines generalizing number with
  | nil => rfl
  | cons line rest ih => rw [amendLines, amendLines, amendLines, amendLine_append, ih]

/-- Findings on one line, and findings on later lines. -/
theorem amendLines_cons {here later : List Diagnostic} {number : Int}
    (hhere : ∀ diagnostic ∈ here, diagnostic.line = some number)
    (hlater : ∀ diagnostic ∈ later, ∃ line, diagnostic.line = some line ∧ number + 1 ≤ line)
    (line : Text) (rest : List Text) :
    amendLines (here ++ later) number (line :: rest) =
      amendLine here number line :: amendLines later (number + 1) rest := by
  have hfirst : amendLine (here ++ later) number line = amendLine here number line := by
    rw [amendLine_append]
    refine amendLine_of_not_concerns (fun diagnostic hd => ?_) _
    obtain ⟨found, hfound, hle⟩ := hlater diagnostic hd
    exact not_concerns_of_line hfound (by omega)
  rw [amendLines, hfirst]
  congr 1
  refine amendLines_congr fun next hnext => ?_
  funext text
  rw [amendLine_append]
  congr 1
  refine amendLine_of_not_concerns (fun diagnostic hd => ?_) _
  exact not_concerns_of_line (hhere diagnostic hd) (by omega)

/-! ### The layout of lines -/

/-- A line with the tabs at its start expanded, if it starts with a tab. -/
def indentLine (line : Text) : Text :=
  if Line.startsWithTab line then Line.expandLeadingTabs line else line

/-- A line as the layout rules correct it; on an exempt line, one that belongs to a block
    scalar, blanks at the end stay. -/
def layoutLine (strict exempt : Bool) (line : Text) : Text :=
  if strict && !exempt && Line.endsInIndent line then Line.trimTrailing (indentLine line)
  else indentLine line

/-! ### References on lines -/

/-- A line with its reference replaced, if it is outdated on the line as it was. -/
def updateLine (original line : Text) : Text :=
  match StructureRule.deprecationOn? original with
  | none => line
  | some entry =>
    if Text.hasPart entry.outdated line then
      Text.replaceFirst entry.outdated entry.replacement line
    else line

theorem amendLine_deprecation {entry : Catalog.Deprecation} (h : entry.outdated ≠ [])
    (number : Int) (line : Text) :
    amendLine [StructureRule.deprecationFinding number entry] number line =
      if Text.hasPart entry.outdated line then
        Text.replaceFirst entry.outdated entry.replacement line
      else line := by
  have htarget : target? (StructureRule.deprecationFinding number entry) = some entry.outdated := by
    cases hentry : entry.outdated with
    | nil => exact absurd hentry h
    | cons c rest => simp [target?, StructureRule.deprecationFinding, hentry]
  have hconcerns : concerns number (StructureRule.deprecationFinding number entry) = true := by
    simp [concerns, Diagnostic.isFixable, StructureRule.deprecationFinding]
  rw [amendLine, List.filter_cons_of_pos hconcerns, List.filter_nil, List.foldl_cons,
    List.foldl_nil]
  show (onLine? _ entry.replacement line).getD line = _
  rw [onLine?, htarget]
  simp only
  split <;> rfl

theorem amendLines_deprecationsFrom (number : Int) (originals lines : List Text)
    (hlength : lines.length = originals.length) :
    amendLines (StructureRule.deprecationsFrom number originals) number lines =
      List.zipWith updateLine originals lines := by
  induction originals generalizing number lines with
  | nil =>
    rw [List.length_nil, List.length_eq_zero_iff] at hlength
    rw [hlength]
    rfl
  | cons original originals ih =>
    cases lines with
    | nil => exact absurd hlength (by simp)
    | cons line rest =>
      rw [List.length_cons, List.length_cons, Nat.add_right_cancel_iff] at hlength
      have hhere : ∀ diagnostic ∈ ((StructureRule.deprecationOn? original).map
          (StructureRule.deprecationFinding number)).toList, diagnostic.line = some number := by
        intro diagnostic h
        obtain ⟨entry, -, rfl⟩ := Option.map_eq_some_iff.mp (Option.mem_toList.mp h)
        rfl
      rw [StructureRule.deprecationsFrom, amendLines_cons hhere
        (fun diagnostic h => StructureRule.le_of_mem_deprecationsFrom h), ih _ _ hlength,
        List.zipWith_cons_cons, updateLine]
      congr 1
      cases hentry : StructureRule.deprecationOn? original with
      | none => rfl
      | some entry =>
        obtain ⟨reference, -, hfound⟩ := Option.bind_eq_some_iff.mp hentry
        have hknown := Catalog.known_of_mem (Catalog.eq_of_deprecation? hfound).1
        exact amendLine_deprecation hknown.isWord_outdated.ne_nil number line

theorem deprecationOn?_of_isIgnorable {line : Text} (h : Line.isIgnorable line = true) :
    StructureRule.deprecationOn? line = none := by
  rw [StructureRule.deprecationOn?, Line.usesReference?_of_isIgnorable h]
  rfl

/-! ### All lines -/

/-- A line after a pass. -/
def passLine (strict exempt : Bool) (line : Text) : Text :=
  updateLine line (layoutLine strict exempt line)

/-- Lines after a pass, given whether the line before them belongs to a block scalar. -/
def passLines (strict inBlock : Bool) : List Text → List Text
  | [] => []
  | line :: rest =>
    if Line.isIgnorable line then line :: passLines strict inBlock rest
    else
      passLine strict (inBlockAfter inBlock line) line
        :: passLines strict (inBlockAfter inBlock line) rest

/-- Lines of which each one that is not ignorable is changed, depending on whether it belongs to
    a block scalar. -/
def changeLines (change : Bool → Text → Text) (inBlock : Bool) : List Text → List Text
  | [] => []
  | line :: rest =>
    if Line.isIgnorable line then line :: changeLines change inBlock rest
    else
      change (inBlockAfter inBlock line) line
        :: changeLines change (inBlockAfter inBlock line) rest

theorem passLines_eq (strict inBlock : Bool) (lines : List Text) :
    passLines strict inBlock lines = changeLines (passLine strict) inBlock lines := by
  induction lines generalizing inBlock with
  | nil => rfl
  | cons line rest ih => simp only [passLines, changeLines, ih]

theorem length_changeLines (change : Bool → Text → Text) (inBlock : Bool) (lines : List Text) :
    (changeLines change inBlock lines).length = lines.length := by
  induction lines generalizing inBlock with
  | nil => rfl
  | cons line rest ih =>
    rw [changeLines]
    split <;> rw [List.length_cons, ih, List.length_cons]

theorem zipWith_updateLine (change : Bool → Text → Text) (inBlock : Bool) (lines : List Text) :
    List.zipWith updateLine lines (changeLines change inBlock lines) =
      changeLines (fun exempt line => updateLine line (change exempt line)) inBlock lines := by
  induction lines generalizing inBlock with
  | nil => rfl
  | cons line rest ih =>
    rw [changeLines, changeLines]
    split
    · rename_i hline
      rw [List.zipWith_cons_cons, ih, updateLine, deprecationOn?_of_isIgnorable hline]
    · rw [List.zipWith_cons_cons, ih]

end Fix

end WorkflowLint
