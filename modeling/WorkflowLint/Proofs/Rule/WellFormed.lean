/-
  WorkflowLint/Proofs/Rule/WellFormed.lean
  ========================================
  **Findings are well formed.**

  Whatever rules run, a finding is an error or a warning, its line is one of the
  text, and what it replaces stands there.  Only three rules offer fixes, and a fix
  changes the line that it is for and makes no second line of it (`Amends`).

  Most findings are made while a rule looks at a line (`FitsLines`).  The others take
  their lines from the outline, where each key is traced back to a line of the text
  (`KeysTraced.inRange_of_mem`).
-/
import WorkflowLint.Proofs.Outline.Trace
import WorkflowLint.Proofs.Rule.Selection

namespace WorkflowLint

/-! ### Well-formed findings -/

/-- Whether a number is that of one of the lines. -/
def InRange (lines : List Text) (number : Int) : Prop := 1 ≤ number ∧ number ≤ lines.length

/-- The identifiers of the rules that offer fixes. -/
def fixingIds : List Text :=
  [LayoutRule.tabIndentation.id, LayoutRule.trailingWhitespace.id,
   StructureRule.deprecatedAction.id]

namespace Diagnostic

/-- A finding whose fix changes a line of a text and nothing else. -/
structure Amends (text : Text) (finding : Diagnostic) (fix : Text) : Prop where
  ruleId : ∃ ruleId ∈ fixingIds, finding.ruleId = some ruleId
  fix_line : '\n' ∉ fix
  changes : ∃ (index : Nat) (line changed : Text), finding.line = some (index + 1) ∧
    (Text.lines text)[index]? = some line ∧ changed ≠ line ∧
      Fix.apply text [finding] = Text.joinLines ((Text.lines text).set index changed)

/-- What is promised of every finding about a text. -/
structure WellFormed (text : Text) (finding : Diagnostic) : Prop where
  severity : finding.severity = .error ∨ finding.severity = .warning
  line : ∀ number, finding.line = some number → InRange (Text.lines text) number
  fix : ∀ fix, finding.fix = some fix → finding.Amends text fix
  target : ∀ target, finding.target = some target → ∃ (index : Nat) (line : Text),
    finding.line = some (index + 1) ∧ (Text.lines text)[index]? = some line ∧ target <:+: line

/-- What holds of a finding that a rule makes while it looks at line `number`. -/
structure FitsLine (number : Int) (line : Text) (finding : Diagnostic) : Prop where
  severity : finding.severity = .error ∨ finding.severity = .warning
  line_eq : finding.line = some number
  fix : ∀ fix, finding.fix = some fix → (∃ ruleId ∈ fixingIds, finding.ruleId = some ruleId) ∧
    '\n' ∉ fix ∧ Fix.amend line finding ≠ line
  target : ∀ target, finding.target = some target → target <:+: line

/-- What holds of a finding that a rule makes while it goes through lines, the first of which has
    number `first`. -/
def FitsLines (first : Int) (lines : List Text) (finding : Diagnostic) : Prop :=
  ∃ (index : Nat) (line : Text), lines[index]? = some line ∧
    finding.FitsLine (first + index) line

variable {text line : Text} {rest : List Text} {finding : Diagnostic} {number : Int}

theorem FitsLine.fitsLines (h : finding.FitsLine number line) :
    finding.FitsLines number (line :: rest) := by
  refine ⟨0, line, rfl, ?_⟩
  rwa [Int.natCast_zero, Int.add_zero]

theorem FitsLines.cons (h : finding.FitsLines (number + 1) rest) :
    finding.FitsLines number (line :: rest) := by
  obtain ⟨index, found, hline, hfits⟩ := h
  refine ⟨index + 1, found, hline, ?_⟩
  rwa [Int.natCast_add, Int.natCast_one, Int.add_comm (index : Int) 1, ← Int.add_assoc]

/-- A finding that offers no fix fits every line. -/
theorem fitsLine_of_fix_eq_none
    (hseverity : finding.severity = .error ∨ finding.severity = .warning)
    (hline : finding.line = some number) (hfix : finding.fix = none)
    (htarget : finding.target = none) : finding.FitsLine number line := by
  refine ⟨hseverity, hline, fun fix h => ?_, fun target h => ?_⟩
  · rw [hfix] at h
    cases h
  · rw [htarget] at h
    cases h

/-- One fix changes one line. -/
theorem amendLines_singleton (hfix : finding.isFixable = true) {index : Nat}
    (hnumber : finding.line = some ((index : Int) + 1)) {lines : List Text}
    (hline : lines[index]? = some line) :
    Fix.amendLines [finding] 1 lines = lines.set index (Fix.amend line finding) := by
  obtain ⟨hindex, rfl⟩ := List.getElem?_eq_some_iff.mp hline
  refine List.ext_getElem? fun i => ?_
  rw [Fix.getElem?_amendLines, List.getElem?_set]
  by_cases hi : index = i
  · subst hi
    have hconcerns : Fix.concerns (1 + (index : Int)) finding = true := by
      rw [Fix.concerns, hfix, hnumber, Bool.true_and, beq_iff_eq, Option.some_inj]
      omega
    rw [if_pos rfl, if_pos hindex, List.getElem?_eq_getElem hindex, Option.map_some,
      Fix.amendLine, List.filter_cons_of_pos hconcerns]
    rfl
  · have hconcerns : ¬Fix.concerns (1 + (i : Int)) finding = true := by
      rw [Fix.concerns, hfix, hnumber, Bool.true_and, beq_iff_eq, Option.some_inj]
      omega
    have hsame : Fix.amendLine [finding] (1 + (i : Int)) = id := by
      funext line
      rw [Fix.amendLine, List.filter_cons_of_neg hconcerns]
      rfl
    rw [if_neg hi, hsame, Option.map_id]
    rfl

/-- A finding that fits a line of a text is well formed. -/
theorem FitsLines.wellFormed (h : finding.FitsLines 1 (Text.lines text)) :
    finding.WellFormed text := by
  obtain ⟨index, line, hline, hfits⟩ := h
  rw [Int.add_comm] at hfits
  refine ⟨hfits.severity, fun number hnumber => ?_, fun fix hfix => ?_, fun target htarget => ?_⟩
  · rw [hfits.line_eq, Option.some_inj] at hnumber
    have hlt := (List.getElem?_eq_some_iff.mp hline).1
    exact ⟨by omega, by omega⟩
  · obtain ⟨hid, hfeed, hne⟩ := hfits.fix fix hfix
    have hfixable : finding.isFixable = true := by
      rw [isFixable, hfits.line_eq, hfix]
      rfl
    refine ⟨hid, hfeed, index, line, Fix.amend line finding, hfits.line_eq, hline, hne, ?_⟩
    rw [Fix.apply_eq, amendLines_singleton hfixable hfits.line_eq hline]
  · exact ⟨index, line, hfits.line_eq, hline, hfits.target target htarget⟩

end Diagnostic

/-! ### Rules on the layout of lines -/

namespace LayoutRule

variable {rule : LayoutRule} {correct : Text → Text}

/-- A correction puts nothing but spaces into a text. -/
theorem not_mem_correction (hcorrect : rule.correction? = some correct) {c : Char} (hc : c ≠ ' ')
    {text : Text} (h : c ∉ text) : c ∉ correct text := by
  cases rule with
  | tabIndentation =>
    cases hcorrect
    obtain ⟨front, spaces, back, -, hspaces, -, rfl, hexpand⟩ := Line.exists_expandLeadingTabs text
    rw [List.mem_append, not_or] at h
    rw [hexpand, List.mem_append, not_or]
    exact ⟨fun hmem => hc (hspaces _ hmem), h.2⟩
  | trailingWhitespace =>
    cases hcorrect
    obtain ⟨back, -, hsplit⟩ := Line.exists_trimTrailing text
    rw [hsplit, List.mem_append, not_or] at h
    exact h.1
  | doubleColon => cases hcorrect

/-- A corrected text shows nothing that the rule objects to. -/
theorem correction_ne (hcorrect : rule.correction? = some correct) {view : LineView}
    (hobjects : rule.objects view = true) (text : Text) : correct text ≠ view.line := by
  intro heq
  cases rule with
  | tabIndentation =>
    cases hcorrect
    rw [objects, ← heq, Line.startsWithTab_expandLeadingTabs] at hobjects
    cases hobjects
  | trailingWhitespace =>
    cases hcorrect
    rw [objects, ← heq, Line.endsInIndent_trimTrailing, Bool.and_false] at hobjects
    cases hobjects
  | doubleColon => cases hcorrect

theorem id_mem_fixingIds (hcorrect : rule.correction? = some correct) : rule.id ∈ fixingIds := by
  cases rule with
  | tabIndentation => decide
  | trailingWhitespace => decide
  | doubleColon => cases hcorrect

theorem fitsLine_of_mem_check {view : LineView} (hfeed : '\n' ∉ view.current)
    {finding : Diagnostic} (h : finding ∈ rule.check view) :
    finding.FitsLine view.number view.line := by
  have hid := ruleId_of_mem_check h
  obtain ⟨hobjects, hfix⟩ := objects_of_mem_check h
  rw [check, if_pos hobjects, List.mem_singleton] at h
  have htarget : finding.target = none := by rw [h]
  refine ⟨?_, by rw [h], fun fix hfixed => ?_, fun target hsome => ?_⟩
  · rw [h]
    cases rule with
    | tabIndentation => exact Or.inl rfl
    | trailingWhitespace => exact Or.inr rfl
    | doubleColon => exact Or.inl rfl
  · rw [hfix, Option.map_eq_some_iff] at hfixed
    obtain ⟨correct, hcorrect, rfl⟩ := hfixed
    refine ⟨⟨rule.id, id_mem_fixingIds hcorrect, hid⟩,
      not_mem_correction hcorrect (by decide) hfeed, ?_⟩
    have hamend : Fix.amend view.line finding = correct view.current := by
      rw [Fix.amend, hfix, hcorrect, Option.map_some]
      simp only [Fix.onLine?, Fix.target?, htarget, Option.filter_none, Option.getD_some]
    rw [hamend]
    exact correction_ne hcorrect hobjects view.current
  · rw [htarget] at hsome
    cases hsome

theorem not_mem_current_advance (rule : LayoutRule) {view : LineView}
    (hfeed : '\n' ∉ view.current) : '\n' ∉ (rule.advance view).current := by
  rw [advance]
  cases hcorrected : rule.correct? view with
  | none => exact hfeed
  | some corrected =>
    rw [correct?] at hcorrected
    split at hcorrected
    · obtain ⟨correct, hcorrect, rfl⟩ := Option.map_eq_some_iff.mp hcorrected
      exact not_mem_correction hcorrect (by decide) hfeed
    · cases hcorrected

/-- Later rules are handed a line without a line feed as well. -/
theorem fitsLine_of_mem_checkAll {rules : List LayoutRule} {view : LineView}
    (hfeed : '\n' ∉ view.current) {finding : Diagnostic} (h : finding ∈ checkAll rules view) :
    finding.FitsLine view.number view.line := by
  induction rules generalizing view with
  | nil => exact absurd h List.not_mem_nil
  | cons rule rest ih =>
    rw [checkAll, List.mem_append] at h
    rcases h with h | h
    · exact fitsLine_of_mem_check hfeed h
    · exact @ih (rule.advance view) (not_mem_current_advance rule hfeed) h

end LayoutRule

theorem exists_line_of_mem_layoutViews {strict inBlock exempt : Bool} {number : Int}
    {lines : List Text} {view : LineView}
    (h : (view, exempt) ∈ layoutViews strict number inBlock lines) :
    ∃ index : Nat, view.number = number + index ∧ lines[index]? = some view.line := by
  induction lines generalizing number inBlock with
  | nil => exact absurd h List.not_mem_nil
  | cons line rest ih =>
    have hlater {inBlock : Bool}
        (h : (view, exempt) ∈ layoutViews strict (number + 1) inBlock rest) :
        ∃ index : Nat, view.number = number + index ∧ (line :: rest)[index]? = some view.line := by
      obtain ⟨index, hnumber, hline⟩ := ih h
      exact ⟨index + 1, by omega, hline⟩
    rw [layoutViews] at h
    split at h
    · exact hlater h
    · rcases List.mem_cons.mp h with heq | h
      · obtain ⟨rfl, rfl⟩ := Prod.mk.inj heq
        exact ⟨0, (Int.add_zero number).symm, rfl⟩
      · exact hlater h

theorem fitsLines_of_mem_layoutFindings {strict inBlock : Bool} {rules : List LayoutRule}
    {number : Int} {lines : List Text} (hfeed : ∀ line ∈ lines, '\n' ∉ line)
    {finding : Diagnostic} (h : finding ∈ layoutFindings strict rules number inBlock lines) :
    finding.FitsLines number lines := by
  rw [layoutFindings_eq_flatMap, List.mem_flatMap] at h
  obtain ⟨⟨view, exempt⟩, hview, h⟩ := h
  obtain ⟨index, hnumber, hline⟩ := exists_line_of_mem_layoutViews hview
  have hcurrent : '\n' ∉ view.current := by
    rw [(isFresh_of_mem_layoutViews hview).1.current_eq]
    exact hfeed _ (List.mem_of_getElem? hline)
  exact ⟨index, view.line, hline, hnumber ▸ LayoutRule.fitsLine_of_mem_checkAll hcurrent h⟩

/-! ### References and content -/

namespace StructureRule

theorem fitsLine_deprecationFinding {line : Text} (hfeed : '\n' ∉ line)
    {entry : Catalog.Deprecation} (h : deprecationOn? line = some entry) (number : Int) :
    (deprecationFinding number entry).FitsLine number line := by
  obtain ⟨hknown, uses, rfl⟩ := exists_of_deprecationOn? hfeed h
  refine ⟨Or.inr rfl, rfl, fun fix hfix => ?_, fun target htarget => ?_⟩
  · cases hfix
    refine ⟨⟨deprecatedAction.id, by decide, rfl⟩,
      hknown.isWord_replacement.not_mem (by decide), fun heq => ?_⟩
    have hamend := Fix.amendLine_deprecation hknown.isWord_outdated.ne_nil number
      (uses.line entry.outdated)
    rw [if_pos (uses.hasPart_line entry.outdated), uses.replaceFirst_line hknown, Fix.amendLine,
      List.filter_cons_of_pos (by simp [Fix.concerns, Diagnostic.isFixable, deprecationFinding]),
      List.filter_nil, List.foldl_cons, List.foldl_nil, heq] at hamend
    -- the line as it was calls for a replacement, the line after it does not
    rw [hamend, deprecationOn?_replacement uses hknown] at h
    cases h
  · cases htarget
    exact ⟨uses.before, uses.after, by rw [Line.UsesLine.line, List.append_assoc]⟩

theorem fitsLines_of_mem_deprecationsFrom {number : Int} {lines : List Text}
    (hfeed : ∀ line ∈ lines, '\n' ∉ line) {finding : Diagnostic}
    (h : finding ∈ deprecationsFrom number lines) : finding.FitsLines number lines := by
  induction lines generalizing number with
  | nil => exact absurd h List.not_mem_nil
  | cons line rest ih =>
    rw [deprecationsFrom, List.mem_append, Option.mem_toList] at h
    rcases h with h | h
    · obtain ⟨entry, hentry, rfl⟩ := Option.map_eq_some_iff.mp h
      exact (fitsLine_deprecationFinding (hfeed line (List.mem_cons_self ..)) hentry
        number).fitsLines
    · exact (ih (fun other hother => hfeed other (List.mem_cons_of_mem _ hother)) h).cons

end StructureRule

theorem fitsLines_of_mem_contentFindings {strict : Bool} {rules : List ContentRule}
    {number : Int} {lines : List Text} {finding : Diagnostic}
    (h : finding ∈ contentFindings strict rules number lines) :
    finding.FitsLines number lines := by
  induction lines generalizing number with
  | nil => exact absurd h List.not_mem_nil
  | cons line rest ih =>
    rcases List.mem_append.mp h with h | h
    · obtain ⟨rule, -, h⟩ := List.mem_flatMap.mp h
      obtain ⟨message, -, rfl⟩ := List.mem_map.mp h
      exact (Diagnostic.fitsLine_of_fix_eq_none (Or.inl rfl) rfl rfl rfl).fitsLines
    · exact (ih h).cons

/-! ### Lines that the outline records -/

open Outline (KeysTraced) in
/-- The key of an entry of a mapping stands on a line of the text. -/
theorem Outline.KeysTraced.inRange_of_mem {lines : List Text} {tree : Node}
    (h : KeysTraced lines (1 + lines.length) tree) {address : Address}
    {entries : List (Entry Node)} {mapLine : Option Int}
    (hat : tree.at? address = some (.mapping entries mapLine)) {entry : Entry Node}
    (hentry : entry ∈ entries) {number : Int} (hnumber : entry.line = some number) :
    InRange lines number := by
  obtain ⟨hkeyLine, -⟩ := h.keyLine?_of_mem hat hentry
  obtain ⟨hlt, -, -, -, ⟨index, -, -, rfl, -⟩, -⟩ := h.traced (hkeyLine.trans hnumber)
  exact ⟨by omega, by omega⟩

theorem Job.exists_getElem?_of_mem_stepsFrom {number first : Nat} {items : List Node}
    {entries : List (Entry Node)} (h : (number, entries) ∈ Job.stepsFrom first items) :
    ∃ (index : Nat) (line : Option Int), items[index]? = some (.mapping entries line) := by
  induction items generalizing first with
  | nil => exact absurd h List.not_mem_nil
  | cons item rest ih =>
    have hlater {first : Nat} (h : (number, entries) ∈ Job.stepsFrom first rest) :
        ∃ (index : Nat) (line : Option Int),
          (item :: rest)[index]? = some (.mapping entries line) := by
      obtain ⟨index, line, hitem⟩ := ih h
      exact ⟨index + 1, line, hitem⟩
    rw [Job.stepsFrom.eq_def] at h
    cases item with
    | scalar value line => exact hlater h
    | sequence items line => exact hlater h
    | mapping others line =>
      rcases List.mem_cons.mp h with heq | h
      · obtain ⟨rfl, rfl⟩ := Prod.mk.inj heq
        exact ⟨0, line, rfl⟩
      · exact hlater h

/-- Where a step of a job stands in a tree. -/
theorem Job.exists_at?_of_mem_steps {job : Job} {tree : Node} {address : Address}
    {line : Option Int} (hat : tree.at? address = some (.mapping job.entries line))
    {number : Nat} {entries : List (Entry Node)} (h : (number, entries) ∈ job.steps) :
    ∃ address line, tree.at? address = some (.mapping entries line) := by
  rw [Job.steps] at h
  split at h
  · rename_i items itemsLine hget
    obtain ⟨index, stepLine, hitem⟩ := Job.exists_getElem?_of_mem_stepsFrom h
    refine ⟨address ++ [.key Catalog.stepsKey, .item index], stepLine, ?_⟩
    rw [Node.at?_append, hat, Option.bind_some, Node.at?_cons, Node.child?, hget,
      Option.bind_some, Node.at?_cons, Node.child?, hitem, Option.bind_some, Node.at?_nil]
  · exact absurd h List.not_mem_nil

namespace Document

theorem inRange_of_findKeyLineFrom? {key : Text} {first number : Int} {lines : List Text}
    (h : findKeyLineFrom? key first lines = some number) :
    first ≤ number ∧ number < first + lines.length := by
  induction lines generalizing first with
  | nil => cases h
  | cons line rest ih =>
    rw [List.length_cons]
    rw [findKeyLineFrom?] at h
    split at h
    · cases h
      exact ⟨Int.le_refl _, by omega⟩
    · obtain ⟨hle, hlt⟩ := ih h
      exact ⟨by omega, by omega⟩

/-- A document whose keys are traced back to its lines. -/
def KeysRecorded (document : Document) : Prop :=
  Outline.KeysTraced document.lines (1 + document.lines.length) document.outline.tree

theorem exists_run_of_load {text : Text} {document : Document}
    (h : load text = .ok document) : ∃ state,
      Outline.State.initial.run document.lines 1 = .ok state ∧
        state.tree = document.outline.tree := by
  obtain ⟨outline, hparse, rfl⟩ := load_eq_ok_iff.mp h
  rw [Outline.parse] at hparse
  cases hrun : Outline.State.initial.run (Text.lines text) 1 with
  | error fault => simp [hrun, Except.map] at hparse
  | ok state =>
    rw [hrun] at hparse
    cases hparse
    exact ⟨state, rfl, rfl⟩

theorem keysRecorded_of_load {text : Text} {document : Document}
    (h : load text = .ok document) : document.KeysRecorded := by
  obtain ⟨state, hrun, htree⟩ := exists_run_of_load h
  rw [KeysRecorded, ← htree]
  exact (Outline.traced_of_run hrun).keys

/-- The line and the value of an entry are those that a pass over the lines has recorded. -/
theorem exists_run_of_mem {text : Text} {document : Document} (h : load text = .ok document)
    {address : Address} {entries : List (Entry Node)} {mapLine : Option Int}
    (hat : document.outline.tree.at? address = some (.mapping entries mapLine))
    {entry : Entry Node} (hentry : entry ∈ entries) : ∃ state number,
      Outline.State.initial.run document.lines 1 = .ok state ∧ entry.line = some number ∧
        state.tree.keyLine? address entry.key = some number ∧
        state.tree.at? (address ++ [.key entry.key]) = some entry.value := by
  have hkeys := keysRecorded_of_load h
  obtain ⟨state, hrun, htree⟩ := exists_run_of_load h
  obtain ⟨number, -, hnumber, -⟩ := hkeys.exists_hasPair hat hentry
  obtain ⟨hline, hvalue⟩ := hkeys.keyLine?_of_mem hat hentry
  exact ⟨state, number, hrun, hnumber, htree ▸ hline.trans hnumber, htree ▸ hvalue⟩

/-- The value of a key of the root mapping. -/
theorem at?_of_get? {document : Document} {key : Text} {node : Node}
    (h : Entries.get? key document.entries = some node) :
    document.outline.tree.at? [.key key] = some node := by
  rw [entries] at h
  rw [Node.at?_cons]
  cases htree : document.outline.tree with
  | scalar value line =>
    rw [htree] at h
    cases h
  | sequence items line =>
    rw [htree] at h
    cases h
  | mapping entries line =>
    rw [htree] at h
    rw [Node.child?, show Entries.get? key entries = some node from h, Option.bind_some,
      Node.at?_nil]

/-- Where a job stands in the outline. -/
theorem at?_of_mem_jobs {document : Document} (hkeys : document.KeysRecorded) {job : Job}
    (h : job ∈ document.jobs) :
    (∀ number, job.line = some number → InRange document.lines number) ∧
      ∃ line, document.outline.tree.at? [.key Catalog.jobsKey, .key job.name] =
        some (.mapping job.entries line) := by
  rw [jobs] at h
  split at h
  · rename_i entries line hget
    obtain ⟨entry, hentry, hjob⟩ := List.mem_filterMap.mp h
    have hat := at?_of_get? hget
    rw [Job.ofEntry?] at hjob
    split at hjob
    · rename_i inner innerLine hvalue
      cases hjob
      have hvalueAt := (hkeys.keyLine?_of_mem hat hentry).2
      rw [hvalue] at hvalueAt
      exact ⟨fun number => hkeys.inRange_of_mem hat hentry, innerLine, hvalueAt⟩
    · cases hjob
  · exact absurd h List.not_mem_nil

end Document

namespace StructureRule

variable {text : Text} {document : Document} {finding : Diagnostic}

/-- A finding of a structure rule has nothing that could be wrong but its line. -/
theorem wellFormed_finding {rule : StructureRule} {severity : Severity} {message : Text}
    {line : Option Int} (hseverity : severity = .error ∨ severity = .warning)
    (hline : ∀ number, line = some number → InRange (Text.lines text) number) :
    (rule.finding severity message line).WellFormed text where
  severity := hseverity
  line := hline
  fix fix h := by cases h
  target target h := by cases h

theorem wellFormed_of_mem_missingSection {rule : StructureRule} {key message : Text}
    (h : finding ∈ rule.missingSection key message document) : finding.WellFormed text := by
  rw [missingSection] at h
  split at h
  · exact absurd h List.not_mem_nil
  · rw [List.mem_singleton.mp h]
    refine wellFormed_finding (Or.inl rfl) fun number hnone => ?_
    cases hnone

/-- The findings about unknown keys of a mapping are on the lines of these keys. -/
theorem wellFormed_unknown {rule : StructureRule} (hkeys : document.KeysRecorded)
    (hlines : document.lines = Text.lines text) {address : Address}
    {entries : List (Entry Node)} {mapLine : Option Int}
    (hat : document.outline.tree.at? address = some (.mapping entries mapLine))
    {known : List Text} {message : Entry Node → Text}
    (h : finding ∈ (unknownEntries known entries).map fun entry =>
      rule.finding .warning (message entry) entry.line) : finding.WellFormed text := by
  obtain ⟨entry, hentry, rfl⟩ := List.mem_map.mp h
  refine wellFormed_finding (Or.inr rfl) fun number hnumber => ?_
  rw [← hlines]
  exact hkeys.inRange_of_mem hat (List.mem_filter.mp hentry).1 hnumber

/-- The findings of structure rules are well formed: their lines are recorded for keys, or come
    from a scan of the lines. -/
theorem wellFormed_of_mem_analyze {rule : StructureRule} (hload : Document.load text = .ok document)
    (h : finding ∈ rule.analyze document) : finding.WellFormed text := by
  have hkeys := Document.keysRecorded_of_load hload
  have hlines := Document.lines_of_load hload
  cases rule with
  | missingTrigger => exact wellFormed_of_mem_missingSection h
  | missingJobs => exact wellFormed_of_mem_missingSection h
  | unknownTopLevelKey =>
    obtain ⟨entry, -, rfl⟩ := List.mem_map.mp h
    refine wellFormed_finding (Or.inr rfl) fun number hnumber => ?_
    rw [Document.findKeyLine?, hlines] at hnumber
    obtain ⟨hone, hle⟩ := Document.inRange_of_findKeyLineFrom? hnumber
    exact ⟨hone, by omega⟩
  | deprecatedAction =>
    rw [analyze, hlines] at h
    exact (fitsLines_of_mem_deprecationsFrom (fun _ => Text.not_mem_of_mem_lines) h).wellFormed
  | unknownJobKey =>
    obtain ⟨job, hjob, h⟩ := List.mem_flatMap.mp h
    obtain ⟨-, mapLine, hat⟩ := Document.at?_of_mem_jobs hkeys hjob
    exact wellFormed_unknown hkeys hlines hat h
  | missingRunsOn =>
    obtain ⟨job, hjob, h⟩ := List.mem_flatMap.mp h
    rw [runnerFindings] at h
    split at h
    · exact absurd h List.not_mem_nil
    · rw [List.mem_singleton.mp h]
      refine wellFormed_finding (Or.inl rfl) fun number hnumber => ?_
      rw [← hlines]
      exact (Document.at?_of_mem_jobs hkeys hjob).1 number hnumber
  | unknownStepKey =>
    obtain ⟨job, hjob, h⟩ := List.mem_flatMap.mp h
    obtain ⟨⟨number, entries⟩, hstep, h⟩ := List.mem_flatMap.mp h
    obtain ⟨-, mapLine, hat⟩ := Document.at?_of_mem_jobs hkeys hjob
    obtain ⟨address, mapLine, hat⟩ := Job.exists_at?_of_mem_steps hat hstep
    exact wellFormed_unknown hkeys hlines hat h

end StructureRule

/-! ### Evaluations and reports -/

theorem Evaluation.wellFormed_emptyFinding (text : Text) :
    emptyFinding.WellFormed text where
  severity := Or.inl rfl
  line number hnumber := by
    cases hnumber
    have hpos := List.length_pos_iff.mpr (Text.lines_ne_nil text)
    exact ⟨Int.le_refl 1, by omega⟩
  fix fix h := by cases h
  target target h := by cases h

theorem Document.wellFormed_of_mem_evaluate {text : Text} {document : Document}
    (hload : load text = .ok document) {strict : Bool} {rules : List Rule} {finding : Diagnostic}
    (h : finding ∈ (document.evaluate strict rules).diagnostics) : finding.WellFormed text := by
  cases hblank : Text.allBlank document.text with
  | true =>
    rw [evaluate, hblank, if_pos rfl, Evaluation.diagnostics, List.mem_singleton] at h
    rw [h]
    exact Evaluation.wellFormed_emptyFinding text
  | false =>
    rw [diagnostics_evaluate hblank, lines_of_load hload, List.mem_append, List.mem_append] at h
    rcases h with (h | h) | h
    · exact (fitsLines_of_mem_layoutFindings (fun _ => Text.not_mem_of_mem_lines) h).wellFormed
    · obtain ⟨rule, -, h⟩ := List.mem_flatMap.mp h
      exact StructureRule.wellFormed_of_mem_analyze hload h
    · exact (fitsLines_of_mem_contentFindings h).wellFormed

/-- Where all findings are errors or warnings, the two counts add up. -/
theorem Report.count_add_count {findings : List Diagnostic}
    (h : ∀ finding ∈ findings, finding.severity = .error ∨ finding.severity = .warning) :
    count .error findings + count .warning findings = findings.length := by
  have hwarnings : count .warning findings = findings.countP fun finding =>
      ¬decide (finding.severity = .error) = true := by
    refine List.countP_congr fun finding hfinding => ?_
    rcases h finding hfinding with hseverity | hseverity <;> simp [hseverity]
  rw [hwarnings]
  exact (List.length_eq_countP_add_countP _).symm

theorem Report.isClean_ofDiagnostics {path : Text} {findings : List Diagnostic} {fixed : Bool}
    (h : count .error findings + count .warning findings = findings.length) :
    (ofDiagnostics path findings fixed).isClean = true ↔ findings = [] := by
  rw [isClean, Bool.and_eq_true, beq_iff_eq, beq_iff_eq, ← List.length_eq_zero_iff]
  simp only [ofDiagnostics]
  omega

/-- Running any rules on a text that loads gives a report of well-formed findings.  It counts the
    errors and the warnings, and each finding is one of them, so a clean report is one without
    findings. -/
theorem lint_wellFormed {text : Text} {document : Document}
    (hload : Document.load text = .ok document) (strict : Bool) (rules : List Rule) (path : Text)
    (fixed : Bool) :
    ∃ report, lint strict rules text path fixed = .ok report ∧
      report.diagnostics = (document.evaluate strict rules).diagnostics ∧
      (∀ finding ∈ report.diagnostics, finding.WellFormed text) ∧
      report.errors = Report.count .error report.diagnostics ∧
      report.warnings = Report.count .warning report.diagnostics ∧
      report.errors + report.warnings = report.diagnostics.length ∧
      (report.isClean = true ↔ report.diagnostics = []) := by
  have hwell : ∀ finding ∈ (document.evaluate strict rules).diagnostics,
      finding.WellFormed text := fun _ => Document.wellFormed_of_mem_evaluate hload
  have hcount := Report.count_add_count fun finding hfinding => (hwell finding hfinding).severity
  have hadd : (Report.count .error (document.evaluate strict rules).diagnostics : Int)
      + Report.count .warning (document.evaluate strict rules).diagnostics =
        (document.evaluate strict rules).diagnostics.length := by
    rw [← Int.natCast_add, hcount]
  refine ⟨.ofDiagnostics path (document.evaluate strict rules).diagnostics fixed, ?_, rfl, hwell,
    rfl, rfl, hadd, Report.isClean_ofDiagnostics hcount⟩
  rw [lint, hload, Except.map]

/-- Findings from all stages, with lines from all places that lines come from. -/
theorem lint_wellFormed_workflow :
    let text : Text := "run-name: a \n\tuses: actions/cache@v2\njobs:\n  b:\n    color: 1"
    let document : Document :=
      ⟨text, Text.lines text,
        .mapping
          [⟨"run-name", some 1, .scalar (.str "a") (some 1)⟩,
            ⟨"uses", some 2, .scalar (.str "actions/cache@v2") (some 2)⟩,
            ⟨"jobs", some 3, .mapping
              [⟨"b", some 4, .mapping [⟨"color", some 5, .scalar (.int 1) (some 5)⟩] (some 4)⟩]
              (some 3)⟩] none, []⟩
    Document.load text = .ok document ∧
      ∃ report, lint true Rule.all text "ci.yml" false = .ok report ∧
        report.diagnostics.map Diagnostic.line =
          [some 1, some 2, none, some 2, some 2, some 5, some 4] ∧
        ∀ finding ∈ report.diagnostics, finding.WellFormed text := by
  intro text document
  have hload : Document.load text = .ok document := rfl
  obtain ⟨report, hreport, hdiagnostics, hwell, -⟩ :=
    lint_wellFormed hload true Rule.all "ci.yml" false
  refine ⟨hload, report, hreport, ?_, hwell⟩
  rw [hdiagnostics]
  decide +kernel

end WorkflowLint
