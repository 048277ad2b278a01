/-
  WorkflowLint/Proofs/Rule/Exempt.lean
  ====================================
  **Which lines the layout rules look at, in closed form.**

  The layout stage goes through the lines with a flag for block scalars.  The flag is
  set at a line if and only if a line above ends in a block indicator and all lines with
  text from there on are indented (`inBlockThrough_iff`), blank lines and comments left
  aside.  So what the stage finds about a line can be said of the line and the lines above
  it, without the flag (`evaluate_layout`).
-/
import WorkflowLint.Proofs.Rule.Script

namespace WorkflowLint

open Text (isBlank)

namespace Line

/-! ### Openers -/

/-- A bar or an angle bracket, then at most one sign and at most one digit from one to nine. -/
def IsIndicator (text : Text) : Prop :=
  ∃ style sign digit, (style = '|' ∨ style = '>') ∧ (sign = [] ∨ sign = ['+'] ∨ sign = ['-']) ∧
    (digit = [] ∨ ∃ d, digit = [d] ∧ '1' ≤ d ∧ d ≤ '9') ∧
    (text = style :: (sign ++ digit) ∨ text = style :: (digit ++ sign))

/-- A line whose trimmed text ends in a block indicator with a blank or nothing before it. -/
def IsOpener (line : Text) : Prop :=
  ∃ front mark, Text.trim line = front ++ mark ∧ IsIndicator mark ∧
    ∀ c, front.getLast? = some c → isBlank c = true

theorem isChompSign_iff {c : Char} : isChompSign c = true ↔ c = '+' ∨ c = '-' := by
  simp [isChompSign]

theorem isIndentDigit_iff {c : Char} : isIndentDigit c = true ↔ '1' ≤ c ∧ c ≤ '9' := by
  simp [isIndentDigit]

theorem isBlockIndicator_iff {text : Text} : isBlockIndicator text = true ↔ IsIndicator text := by
  constructor
  · intro h
    rcases text with _ | ⟨style, header⟩
    · cases h
    · simp only [isBlockIndicator, Bool.and_eq_true, Bool.or_eq_true, beq_iff_eq] at h
      obtain ⟨hstyle, hheader⟩ := h
      rcases header with _ | ⟨c, _ | ⟨d, _ | ⟨e, rest⟩⟩⟩
      · exact ⟨style, [], [], hstyle, Or.inl rfl, Or.inl rfl, Or.inl rfl⟩
      · simp only [isBlockHeader, Bool.or_eq_true, isChompSign_iff, isIndentDigit_iff] at hheader
        rcases hheader with hsign | hdigit
        · refine ⟨style, [c], [], hstyle, ?_, Or.inl rfl, Or.inl rfl⟩
          rcases hsign with rfl | rfl <;> simp
        · exact ⟨style, [], [c], hstyle, Or.inl rfl, Or.inr ⟨c, rfl, hdigit⟩, Or.inl rfl⟩
      · simp only [isBlockHeader, Bool.or_eq_true, Bool.and_eq_true, isChompSign_iff,
          isIndentDigit_iff] at hheader
        rcases hheader with ⟨hsign, hdigit⟩ | ⟨hdigit, hsign⟩
        · refine ⟨style, [c], [d], hstyle, ?_, Or.inr ⟨d, rfl, hdigit⟩, Or.inl rfl⟩
          rcases hsign with rfl | rfl <;> simp
        · refine ⟨style, [d], [c], hstyle, ?_, Or.inr ⟨c, rfl, hdigit⟩, Or.inr rfl⟩
          rcases hsign with rfl | rfl <;> simp
      · cases hheader
  · rintro ⟨style, sign, digit, hstyle, hsign, hdigit, htext⟩
    have hheader : isBlockHeader (sign ++ digit) = true ∧ isBlockHeader (digit ++ sign) = true := by
      rcases hdigit with rfl | ⟨d, rfl, hd⟩
      · rcases hsign with rfl | rfl | rfl <;> decide
      · have hd := isIndentDigit_iff.mpr hd
        rcases hsign with rfl | rfl | rfl <;> simp [isBlockHeader, isChompSign, hd]
    have hbar : (style == '|' || style == '>') = true := by simpa using hstyle
    rcases htext with rfl | rfl
    · rw [isBlockIndicator, hbar, hheader.1]
      rfl
    · rw [isBlockIndicator, hbar, hheader.2]
      rfl

theorem endsInBlockIndicator_iff {line : Text} :
    endsInBlockIndicator (Text.trim line) = true ↔ IsOpener line := by
  rw [endsInBlockIndicator]
  constructor
  · intro h
    refine ⟨((Text.trim line).reverse.dropWhile fun c => !isBlank c).reverse, _, ?_,
      isBlockIndicator_iff.mp h, ?_⟩
    · rw [← List.reverse_append, List.takeWhile_append_dropWhile, List.reverse_reverse]
    · intro c hc
      rw [List.getLast?_reverse] at hc
      have hnot := List.head?_dropWhile_not (fun c => !isBlank c) (Text.trim line).reverse
      rw [hc] at hnot
      simpa using hnot
  · rintro ⟨front, mark, htrim, hmark, hfront⟩
    rw [← isBlockIndicator_iff] at hmark
    have hword : ∀ c ∈ mark.reverse, (!isBlank c) = true := by
      intro c hc
      rw [(of_mem_isBlockIndicator hmark c (List.mem_reverse.mp hc)).1]
      rfl
    have hrest : front.reverse.takeWhile (fun c => !isBlank c) = [] := by
      cases hreverse : front.reverse with
      | nil => rfl
      | cons c rest =>
        have hlast : front.getLast? = some c := by
          rw [List.getLast?_eq_head?_reverse, hreverse]
          rfl
        rw [List.takeWhile_cons_of_neg (by simp [hfront c hlast])]
    rw [htrim, List.reverse_append, List.takeWhile_append_of_pos hword, hrest, List.append_nil,
      List.reverse_reverse]
    exact hmark

instance : DecidablePred IsOpener := fun _ => decidable_of_iff _ endsInBlockIndicator_iff

/-! ### Two colons -/

/-- A line that is a bare key with two colons behind it, and then no further colon. -/
def HasTwoColons (line : Text) : Prop :=
  ∃ key rest, Text.trim line = key ++ ':' :: ':' :: rest ∧ key ≠ [] ∧
    (∀ c ∈ key, isKeyChar c = true) ∧ ':' ∉ rest

theorem not_mem_key {key : Text} (h : ∀ c ∈ key, isKeyChar c = true) : ':' ∉ key :=
  fun hmem => absurd (h ':' hmem) (by decide)

theorem hasDoubleColon_iff {line : Text} :
    hasDoubleColon (Text.trim line) = true ↔ HasTwoColons line := by
  simp only [hasDoubleColon, Bool.and_eq_true, beq_iff_eq]
  constructor
  · rintro ⟨⟨hhead, hcolons⟩, hcount⟩
    obtain ⟨rest, hrest⟩ := List.isPrefixOf_iff_prefix.mp hcolons
    have htext := List.takeWhile_append_dropWhile (p := isKeyChar) (l := Text.trim line)
    rw [← hrest] at htext
    have hkey : ∀ c ∈ (Text.trim line).takeWhile isKeyChar, isKeyChar c = true :=
      List.all_eq_true.mp List.all_takeWhile
    refine ⟨_, rest, htext.symm, ?_, hkey, ?_⟩
    · cases hline : Text.trim line with
      | nil =>
        rw [hline] at hhead
        cases hhead
      | cons c more =>
        rw [hline] at hhead
        rw [List.takeWhile_cons_of_pos (by simpa using hhead)]
        exact List.cons_ne_nil _ _
    · rw [← htext, List.count_append, List.count_eq_zero.mpr (not_mem_key hkey)] at hcount
      simp only [List.cons_append, List.nil_append, List.count_cons_self] at hcount
      exact List.count_eq_zero.mp (by omega)
  · rintro ⟨key, rest, htext, hne, hkey, hrest⟩
    have hcolon : isKeyChar ':' = false := by decide
    rw [htext, List.dropWhile_append_of_pos hkey,
      List.dropWhile_cons_of_neg (by rw [hcolon]; exact Bool.false_ne_true), List.count_append,
      List.count_eq_zero.mpr (not_mem_key hkey), List.count_cons_self, List.count_cons_self,
      List.count_eq_zero.mpr hrest]
    refine ⟨⟨?_, by simp [List.isPrefixOf]⟩, rfl⟩
    cases key with
    | nil => exact absurd rfl hne
    | cons c more => exact hkey c (List.mem_cons_self ..)

instance : DecidablePred HasTwoColons := fun _ => decidable_of_iff _ hasDoubleColon_iff

end Line

/-! ### The flag for block scalars in closed form -/

/-- The line with `index` lines above it. -/
def lineAt (lines : List Text) (index : Nat) : Text := lines.getD index []

/-- Of the lines above `index`, one with text is an opener, and all lines with text below it are
    indented. -/
def BlockOpen (lines : List Text) (index : Nat) : Prop :=
  ∃ opener < index, Line.isIgnorable (lineAt lines opener) = false ∧
    Line.IsOpener (lineAt lines opener) ∧ ∀ between < index, opener < between →
      Line.isIgnorable (lineAt lines between) = false →
        Line.isIndented (lineAt lines between) = true

/-- A line that belongs to a block scalar, as its opener or below it. -/
def Exempt (lines : List Text) (index : Nat) : Prop :=
  Line.IsOpener (lineAt lines index) ∨
    Line.isIndented (lineAt lines index) = true ∧ BlockOpen lines index

instance (lines : List Text) (index : Nat) : Decidable (BlockOpen lines index) :=
  inferInstanceAs (Decidable (∃ _ < _, _))

instance (lines : List Text) (index : Nat) : Decidable (Exempt lines index) :=
  inferInstanceAs (Decidable (_ ∨ _))

variable {lines : List Text} {index : Nat}

theorem blockOpen_succ_of_isIgnorable (h : Line.isIgnorable (lineAt lines index) = true) :
    BlockOpen lines (index + 1) ↔ BlockOpen lines index := by
  constructor
  · rintro ⟨opener, hlt, htext, hopener, hbetween⟩
    have hne : opener ≠ index := by
      rintro rfl
      rw [h] at htext
      cases htext
    exact ⟨opener, by omega, htext, hopener,
      fun between hlt => hbetween between (Nat.lt_succ_of_lt hlt)⟩
  · rintro ⟨opener, hlt, htext, hopener, hbetween⟩
    refine ⟨opener, Nat.lt_succ_of_lt hlt, htext, hopener, fun between hle hafter hother => ?_⟩
    have hne : between ≠ index := by
      rintro rfl
      rw [h] at hother
      cases hother
    exact hbetween between (by omega) hafter hother

/-- Below a line with text, a block scalar is open that this line opens, or one that was open
    above it if the line is indented. -/
theorem blockOpen_succ (h : Line.isIgnorable (lineAt lines index) = false) :
    BlockOpen lines (index + 1) ↔ Exempt lines index := by
  constructor
  · rintro ⟨opener, hlt, htext, hopener, hbetween⟩
    by_cases heq : opener = index
    · subst heq
      exact Or.inl hopener
    · have hlt : opener < index := by omega
      refine Or.inr ⟨hbetween index (Nat.lt_succ_self index) hlt h, opener, hlt, htext, hopener, ?_⟩
      exact fun between hlt => hbetween between (Nat.lt_succ_of_lt hlt)
  · rintro (hopener | ⟨hindented, opener, hlt, htext, hopener, hbetween⟩)
    · exact ⟨index, Nat.lt_succ_self index, h, hopener, fun between hle hafter => by omega⟩
    · refine ⟨opener, Nat.lt_succ_of_lt hlt, htext, hopener, fun between hle hafter hother => ?_⟩
      by_cases heq : between = index
      · rw [heq]
        exact hindented
      · exact hbetween between (by omega) hafter hother

theorem take_succ_lineAt (h : index < lines.length) :
    lines.take (index + 1) = lines.take index ++ [lineAt lines index] := by
  rw [List.take_add_one, List.getElem?_eq_getElem h, lineAt, List.getD_eq_getElem?_getD,
    List.getElem?_eq_getElem h]
  rfl

/-- The flag at a line, if it is right about the lines above. -/
theorem inBlockAfter_iff {inBlock : Bool} (h : inBlock = true ↔ BlockOpen lines index) :
    inBlockAfter inBlock (lineAt lines index) = true ↔ Exempt lines index := by
  rw [inBlockAfter, Bool.or_eq_true, Bool.and_eq_true, Line.endsInBlockIndicator_iff, h, Exempt]
  tauto

theorem inBlockThrough_iff (h : index ≤ lines.length) :
    inBlockThrough false (lines.take index) = true ↔ BlockOpen lines index := by
  induction index with
  | zero =>
    constructor
    · intro hflag
      cases hflag
    · rintro ⟨opener, hlt, -⟩
      omega
  | succ index ih =>
    have ih := ih (Nat.le_of_succ_le h)
    rw [take_succ_lineAt h, inBlockThrough, List.foldl_append, List.foldl_cons, List.foldl_nil]
    rw [inBlockThrough] at ih
    cases hignorable : Line.isIgnorable (lineAt lines index) with
    | true =>
      rw [if_pos rfl, ih, blockOpen_succ_of_isIgnorable hignorable]
    | false =>
      rw [if_neg Bool.false_ne_true, inBlockAfter_iff ih, blockOpen_succ hignorable]

/-! ### The findings of the layout stage -/

/-- The finding about a tab at the start of a line. -/
def tabFinding (number : Int) (line : Text) : Diagnostic :=
  { severity := .error, message := "Tab indentation detected. YAML requires spaces.",
    line := some number, fix := some (Line.expandLeadingTabs line),
    ruleId := some "syntax/tab-indentation" }

/-- The finding about the end of a line; its fix expands the tabs at the start as well. -/
def endFinding (number : Int) (line : Text) : Diagnostic :=
  { severity := .warning, message := "Trailing whitespace", line := some number,
    fix := some (Line.trimTrailing
      (if line.head? = some '\t' then Line.expandLeadingTabs line else line)),
    ruleId := some "style/trailing-whitespace" }

/-- The finding about two colons behind a key. -/
def colonFinding (number : Int) : Diagnostic :=
  { severity := .error, message := "Double colon detected, likely a typo", line := some number,
    ruleId := some "syntax/double-colon" }

/-- What the layout stage finds about the line with `index` lines above it, if it has text. -/
def lineFindings (strict : Bool) (lines : List Text) (index : Nat) : List Diagnostic :=
  let line := lineAt lines index
  (if line.head? = some '\t' then [tabFinding (index + 1) line] else []) ++
    if Exempt lines index then []
    else
      (if strict = true ∧ (line.getLast? = some ' ' ∨ line.getLast? = some '\t') then
        [endFinding (index + 1) line]
      else []) ++
        if Line.HasTwoColons line then [colonFinding (index + 1)] else []

/-- The indices of the lines that are neither blank nor comments. -/
def textIndices (lines : List Text) : List Nat :=
  (List.range lines.length).filter fun index => !Line.isIgnorable (lineAt lines index)

theorem layoutFindings_eq_indices (strict : Bool) (rules : List LayoutRule) (number : Int)
    (inBlock : Bool) (lines : List Text) :
    layoutFindings strict rules number inBlock lines = (textIndices lines).flatMap fun index =>
      LayoutRule.checkAll
        (layoutRulesFor rules
          (inBlockAfter (inBlockThrough inBlock (lines.take index)) (lineAt lines index)))
        ⟨lineAt lines index, number + index, lines.drop (index + 1), strict,
          lineAt lines index⟩ := by
  induction lines generalizing number inBlock with
  | nil => rfl
  | cons line rest ih =>
    have hnumber (index : Nat) : number + ((index + 1 : Nat) : Int) = number + 1 + index := by
      omega
    have hrest : (textIndices (line :: rest)) =
        (if Line.isIgnorable line then [] else [0]) ++ (textIndices rest).map Nat.succ := by
      rw [textIndices, List.length_cons, List.range_succ_eq_map, List.filter_cons, List.filter_map]
      cases hline : Line.isIgnorable line with
      | true => simp [lineAt, hline, textIndices, Function.comp_def]
      | false => simp [lineAt, hline, textIndices, Function.comp_def]
    -- the lines behind the first one are looked at with the flag that it leaves
    have hflag (index : Nat) : inBlockThrough inBlock ((line :: rest).take (index + 1)) =
        inBlockThrough (if Line.isIgnorable line then inBlock else inBlockAfter inBlock line)
          (rest.take index) := rfl
    have hat (index : Nat) : lineAt (line :: rest) (index + 1) = lineAt rest index := rfl
    rw [layoutFindings, hrest, List.flatMap_append, List.flatMap_map]
    simp only [Nat.succ_eq_add_one, hnumber, hflag, hat, List.drop_succ_cons]
    rw [← ih]
    cases hline : Line.isIgnorable line with
    | true => rfl
    | false =>
      simp only [Bool.false_eq_true, if_false, List.flatMap_cons, List.flatMap_nil,
        List.append_nil, Int.natCast_zero, Int.add_zero]
      rfl

namespace LayoutRule

theorem check_eq {rule : LayoutRule} {view : LineView} {p : Prop} [Decidable p]
    (h : rule.objects view = true ↔ p) : rule.check view =
      if p then
        [{ severity := rule.finding.1, message := rule.finding.2, line := some view.number,
           fix := rule.correction?.map fun correct => correct view.current,
           ruleId := some rule.id }]
      else [] := by
  by_cases hp : p
  · rw [check, correct?, if_pos (h.mpr hp), if_pos (h.mpr hp), if_pos hp]
  · rw [check, if_neg (mt h.mp hp), if_neg hp]

variable (view : LineView)

theorem check_tabIndentation : tabIndentation.check view =
    if view.line.head? = some '\t' then [tabFinding view.number view.current] else [] := by
  apply check_eq
  rw [objects, Line.startsWithTab, beq_iff_eq]

theorem check_trailingWhitespace (hcurrent : view.current = view.line) :
    trailingWhitespace.check (tabIndentation.advance view) =
      if view.strict = true ∧
          (view.line.getLast? = some ' ' ∨ view.line.getLast? = some '\t') then
        [endFinding view.number view.line]
      else [] := by
  have htab : Fix.indentLine view.line =
      if view.line.head? = some '\t' then Line.expandLeadingTabs view.line else view.line := by
    simp only [Fix.indentLine, Line.startsWithTab, beq_iff_eq]
  rw [advance_tabIndentation hcurrent, hcurrent, htab]
  apply check_eq
  rw [objects, Bool.and_eq_true, Line.endsInIndent]
  cases view.line.getLast? with
  | none => simp
  | some c => simp [Text.isIndent]

theorem check_doubleColon : doubleColon.check view =
    if Line.HasTwoColons view.line then [colonFinding view.number] else [] := by
  apply check_eq
  exact Line.hasDoubleColon_iff

end LayoutRule

theorem lineFindings_eq {exempt : Bool} (hexempt : exempt = true ↔ Exempt lines index)
    (strict : Bool) (following : List Text) :
    LayoutRule.checkAll (layoutRulesFor layoutRules exempt)
        ⟨lineAt lines index, 1 + index, following, strict, lineAt lines index⟩ =
      lineFindings strict lines index := by
  rw [LayoutRule.checkAll_layoutRules, LayoutRule.check_tabIndentation,
    LayoutRule.check_trailingWhitespace _ rfl, LayoutRule.check_doubleColon, lineFindings,
    Int.add_comm 1]
  congr 1
  by_cases h : Exempt lines index
  · rw [if_pos (hexempt.mpr h), if_pos h]
  · rw [if_neg (mt hexempt.mp h), if_neg h]

/-- The findings of the layout stage. -/
theorem evaluate_layout {text : Text} {document : Document}
    (hload : Document.load text = .ok document) (hblank : Text.allBlank text = false)
    (strict : Bool) : ∃ found content, document.evaluate strict Rule.all =
      .staged ((textIndices (Text.lines text)).flatMap (lineFindings strict (Text.lines text)))
        found content := by
  obtain ⟨outline, -, rfl⟩ := Document.load_eq_ok_iff.mp hload
  rw [Document.evaluate, hblank, if_neg Bool.false_ne_true]
  have hlayout : layoutFindings strict layoutRules 1 false (Text.lines text) =
      (textIndices (Text.lines text)).flatMap (lineFindings strict (Text.lines text)) := by
    rw [layoutFindings_eq_indices]
    refine congrArg List.flatten (List.map_congr_left fun index hindex => ?_)
    have hlt : index < (Text.lines text).length :=
      List.mem_range.mp (List.mem_filter.mp hindex).1
    exact lineFindings_eq (inBlockAfter_iff (inBlockThrough_iff (Nat.le_of_lt hlt))) strict _
  rw [← hlayout]
  exact ⟨_, _, rfl⟩

/-- A block scalar goes on behind a comment, and tabs are found in it; the first line that is not
    indented ends it. -/
theorem evaluate_layout_script :
    let text : Text := "run: |\n  a:: \n# note\n\tb \nname:: "
    let document : Document := ⟨text, Text.lines text,
      .mapping [⟨"run", some 1, .scalar (.str []) (some 1)⟩,
        ⟨"name:", some 5, .mapping [] (some 5)⟩] none, []⟩
    Document.load text = .ok document ∧ Text.allBlank text = false ∧
      ∃ found content, document.evaluate true Rule.all =
        .staged [tabFinding 4 "\tb ", endFinding 5 "name:: ", colonFinding 5] found content := by
  intro text document
  have hload : Document.load text = .ok document := rfl
  have hblank : Text.allBlank text = false := by decide
  have hfindings : (textIndices (Text.lines text)).flatMap (lineFindings true (Text.lines text)) =
      [tabFinding 4 "\tb ", endFinding 5 "name:: ", colonFinding 5] := by decide +kernel
  refine ⟨hload, hblank, ?_⟩
  rw [← hfindings]
  exact evaluate_layout hload hblank true

end WorkflowLint
