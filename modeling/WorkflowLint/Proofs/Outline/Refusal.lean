/-
  WorkflowLint/Proofs/Outline/Refusal.lean
  ========================================
  **Which texts are refused.**

  Reading fails for one reason only: a line is reached outside the bodies of block scalars,
  it is handled as a pair, and the value of the pair is a number of too many digits
  (`LongNumberAt`).  The lines behind it are not reached, so there is at most one such line.
  Every other text is read as a mapping, whatever stands on its lines.
-/
import WorkflowLint.Proofs.Line.Uses
import WorkflowLint.Proofs.Outline.Body
import WorkflowLint.Proofs.Outline.Script
import WorkflowLint.Proofs.Text.Lines

namespace WorkflowLint

open Text (isDigit)

namespace Line

/-! ### Values that are refused -/

/-- A row of too many decimal digits, in quotes or not, between blanks. -/
def IsLongNumber (text : Text) (digits : Nat) : Prop :=
  ∃ quote number, IsQuoting quote ∧ Text.trim text = quote ++ number ++ quote ∧
    (∀ c ∈ number, isDigit c = true) ∧ number.length = digits ∧ digitLimit < digits

variable {text : Text} {digits : Nat}

theorem isQuote_of_isDigit {c : Char} (h : isDigit c = true) : isQuote c = false := by
  cases hquote : isQuote c with
  | false => rfl
  | true =>
    simp only [isQuote, Bool.or_eq_true, beq_iff_eq] at hquote
    rcases hquote with rfl | rfl
    · exact absurd h (by decide)
    · exact absurd h (by decide)

theorem stripQuotes_digits {quote number : Text} (hquote : IsQuoting quote)
    (h : ∀ c ∈ number, isDigit c = true) : stripQuotes (quote ++ number ++ quote) = number := by
  rcases hquote with rfl | rfl | rfl
  · rw [List.nil_append, List.append_nil]
    apply stripQuotes_of_head
    intro c hc
    exact isQuote_of_isDigit (h c (List.mem_of_head? hc))
  · exact stripQuotes_quoted rfl number
  · exact stripQuotes_quoted rfl number

/-- It is enough to look at what is left of a text without blanks and quotes around it. -/
theorem isLongNumber_iff : IsLongNumber text digits ↔
    (∀ c ∈ stripQuotes (Text.trim text), isDigit c = true) ∧
      (stripQuotes (Text.trim text)).length = digits ∧ digitLimit < digits := by
  constructor
  · rintro ⟨quote, number, hquote, htrim, hdigits, hlength, hlong⟩
    rw [htrim, stripQuotes_digits hquote hdigits]
    exact ⟨hdigits, hlength, hlong⟩
  · rintro ⟨hdigits, hlength, hlong⟩
    obtain ⟨quote, hquote, htrim⟩ := exists_quoting (show stripQuotes (Text.trim text) = _ from rfl)
    exact ⟨quote, _, hquote, htrim, hdigits, hlength, hlong⟩

theorem readScalar_eq_error_iff (hfeed : '\n' ∉ text) :
    readScalar text = .error (.tooManyDigits digits) ↔ IsLongNumber text digits := by
  have hfeed : '\n' ∉ stripQuotes (Text.trim text) := fun hmem =>
    hfeed (((stripQuotes_sublist _).trans (Text.trim_sublist text)).subset hmem)
  rw [isLongNumber_iff, readScalar]
  generalize stripQuotes (Text.trim text) = value at hfeed ⊢
  by_cases hdigits : ∀ c ∈ value, isDigit c = true
  · by_cases hne : value = []
    · subst hne
      constructor
      · intro h
        cases h
      · rintro ⟨-, rfl, hlong⟩
        cases hlong
    · obtain ⟨values, hvalues, hlength⟩ := exists_mapM_digitValue? hdigits
      have htrue : value ≠ "true" := by
        rintro rfl
        exact absurd (hdigits 't' (by decide)) (by decide)
      have hfalse : value ≠ "false" := by
        rintro rfl
        exact absurd (hdigits 'f' (by decide)) (by decide)
      simp only [if_neg htrue, if_neg hfalse, digits?_eq_some hne hfeed hvalues, hlength]
      constructor
      · intro h
        split at h
        · cases h
        · rename_i hlong
          cases h
          exact ⟨hdigits, rfl, Nat.not_le.mp hlong⟩
      · rintro ⟨-, rfl, hlong⟩
        rw [if_neg (Nat.not_le.mpr hlong)]
  · have hsome : ∃ c ∈ value, isDigit c = false := by simpa using hdigits
    simp only [digits?_eq_none hfeed hsome]
    constructor
    · intro h
      split at h
      · cases h
      · split at h <;> cases h
    · rintro ⟨hall, -⟩
      exact absurd hall hdigits

/-- A number that is refused is neither missing nor a block indicator. -/
theorem IsLongNumber.readValue_eq (h : IsLongNumber text digits) :
    readValue text = (readScalar text).map .scalar := by
  obtain ⟨quote, number, hquote, htrim, hdigits, hlength, hlong⟩ := h
  have hmem : ∀ c ∈ Text.trim text, isDigit c = true ∨ isQuote c = true := by
    intro c hc
    rw [htrim, List.mem_append, List.mem_append] at hc
    have hquoted (hc : c ∈ quote) : isQuote c = true := by
      rcases hquote with rfl | rfl | rfl
      · cases hc
      · rw [List.mem_singleton.mp hc]
        rfl
      · rw [List.mem_singleton.mp hc]
        rfl
    rcases hc with (hc | hc) | hc
    · exact Or.inr (hquoted hc)
    · exact Or.inl (hdigits c hc)
    · exact Or.inr (hquoted hc)
  have hempty : text.isEmpty = false := by
    cases text with
    | nil =>
      have hnil : number = [] := by
        have hlengths := congrArg List.length htrim
        apply List.eq_nil_of_length_eq_zero
        simp only [List.length_append] at hlengths
        change 0 = _ at hlengths
        omega
      rw [hnil] at hlength
      rw [← hlength] at hlong
      cases hlong
    | cons c rest => rfl
  have hindicator : isBlockIndicator text = false := by
    rw [← Bool.not_eq_true]
    intro hindicator
    rw [(isContent_of_isBlockIndicator hindicator).tight.trim_eq] at hmem
    cases text with
    | nil => cases hempty
    | cons c rest =>
      simp only [isBlockIndicator, Bool.and_eq_true, Bool.or_eq_true, beq_iff_eq] at hindicator
      have hc := hmem c (List.mem_cons_self ..)
      rcases hindicator.1 with rfl | rfl
      · exact absurd hc (by decide)
      · exact absurd hc (by decide)
  rw [readValue, hempty, if_neg Bool.false_ne_true, hindicator, if_neg Bool.false_ne_true]

theorem readValue_eq_error_iff (hfeed : '\n' ∉ text) :
    readValue text = .error (.tooManyDigits digits) ↔ IsLongNumber text digits := by
  rw [← readScalar_eq_error_iff hfeed]
  constructor
  · intro h
    rw [readValue] at h
    split at h
    · cases h
    · split at h
      · cases h
      · cases hread : readScalar text with
        | error fault =>
          rw [hread] at h
          cases h
          rfl
        | ok scalar =>
          rw [hread] at h
          cases h
  · intro h
    rw [((readScalar_eq_error_iff hfeed).mp h).readValue_eq, h]
    rfl

end Line

namespace Outline

theorem Content.field_sublist (content : Content) : content.field.Sublist content.text := by
  rw [Content.field]
  split
  · exact (Text.trim_sublist _).trans (List.drop_sublist _ _)
  · exact List.Sublist.refl _

namespace State

variable {state next : State} {content : Content} {line key text : Text} {column : Nat}
  {fault : ParseError}

theorem Assigns.sublist (h : state.Assigns line column key text) : text.Sublist line := by
  obtain ⟨content, hcontent, -, hpair, -⟩ := h
  obtain ⟨-, rfl⟩ := content?_eq_some_iff.mp hcontent
  have hfield := Content.field_sublist ⟨Text.blankWidth line, Line.stripComment (Text.trim line)⟩
  exact (Line.sublist_of_splitPair hpair).trans
    (hfield.trans ((Line.stripComment_sublist _).trans (Text.trim_sublist line)))

/-! ### Lines at which a pass stops -/

theorem map_eq_error_iff {α β : Type} {f : α → β} {result : Except ParseError α} :
    result.map f = .error fault ↔ result = .error fault := by
  cases result with
  | error other => simp [Except.map]
  | ok value => simp [Except.map]

theorem of_addPair_eq_error {scope : Scope} {number : Int}
    (h : state.addPair scope content number = .error fault) :
    ∃ key text entries mapLine, Line.splitPair content.text = some (key, text) ∧
      state.tree.at? scope.target = some (.mapping entries mapLine) ∧
      Line.readValue text = .error fault := by
  unfold addPair at h
  split at h
  · rename_i key text entries mapLine hpair hat
    exact ⟨key, text, entries, mapLine, hpair, hat, map_eq_error_iff.mp h⟩
  · cases h

theorem of_addItem_eq_error {scope : Scope} {number : Int}
    (h : state.addItem scope content number = .error fault) :
    ∃ listKey key text, scope.key = some listKey ∧ (∀ entry entries line,
        state.tree.at? (scope.owner ++ [.key listKey]) ≠
          some (.mapping (entry :: entries) line)) ∧
      Line.splitPair (Text.trim (content.text.drop 1)) = some (key, text) ∧
      Line.readValue text = .error fault := by
  unfold addItem at h
  split at h
  · cases h
  · rename_i listKey hkey
    cases hopen : state.openSequence? scope.owner listKey number with
    | none =>
      rw [hopen] at h
      cases h
    | some opened =>
      have hlist : ∀ entry entries line, state.tree.at? (scope.owner ++ [.key listKey]) ≠
          some (.mapping (entry :: entries) line) := by
        intro entry entries line hat
        rw [openSequence?, hat] at hopen
        cases hopen
      rw [hopen] at h
      simp only at h
      split at h
      · cases h
      · split at h
        · cases h
        · rename_i key text hpair
          exact ⟨listKey, key, text, hkey, hlist, hpair, map_eq_error_iff.mp h⟩

/-- A line stops the pass if and only if it is handled as a pair whose value cannot be read. -/
theorem step_eq_error_iff (number : Int) : state.step line number = .error fault ↔
    ∃ column key text, state.Assigns line column key text ∧ Line.readValue text = .error fault := by
  constructor
  · intro h
    unfold step at h
    cases hcontent : content? line with
    | none =>
      rw [hcontent] at h
      cases h
    | some content =>
      rw [hcontent] at h
      simp only [place] at h
      split at h
      · cases h
      · rename_i hscript
        rw [Bool.not_eq_true] at hscript
        split at h
        · rename_i hitem
          obtain ⟨listKey, key, text, hkey, hlist, hpair, hread⟩ := of_addItem_eq_error h
          refine ⟨content.fieldColumn, key, text, ⟨content, hcontent, ⟨hscript, ?_⟩, ?_, rfl⟩, hread⟩
          · rw [if_pos hitem]
            exact ⟨listKey, hkey, hlist⟩
          · rw [Content.field, if_pos hitem]
            exact hpair
        · rename_i hitem
          obtain ⟨key, text, entries, mapLine, hpair, hat, hread⟩ := of_addPair_eq_error h
          refine ⟨content.fieldColumn, key, text, ⟨content, hcontent, ⟨hscript, ?_⟩, ?_, rfl⟩, hread⟩
          · rw [if_neg hitem]
            exact ⟨entries, mapLine, hat⟩
          · rw [Content.field, if_neg hitem]
            exact hpair
  · rintro ⟨column, key, text, hassigns, hread⟩
    obtain ⟨target, opened, hstep⟩ := hassigns.exists_step number
    rw [hstep, hread]
    rfl

/-- A pass fails at the first line that stops it. -/
theorem run_eq_error_iff {lines : List Text} {number : Int} :
    state.run lines number = .error fault ↔ ∃ index line last, lines[index]? = some line ∧
      state.run (lines.take index) number = .ok last ∧
      last.step line (number + index) = .error fault := by
  induction lines generalizing state number with
  | nil =>
    constructor
    · intro h
      cases h
    · rintro ⟨index, line, last, hline, -⟩
      cases hline
  | cons first rest ih =>
    rw [run]
    cases hfirst : state.step first number with
    | error other =>
      constructor
      · intro h
        cases h
        exact ⟨0, first, state, rfl, rfl, by rwa [Int.natCast_zero, Int.add_zero]⟩
      · rintro ⟨index, line, last, hline, hrun, hstep⟩
        cases index with
        | zero =>
          cases hline
          cases hrun
          rw [Int.natCast_zero, Int.add_zero, hfirst] at hstep
          exact hstep
        | succ index =>
          rw [List.take_succ_cons, run, hfirst] at hrun
          cases hrun
    | ok next =>
      have hshift (index : Nat) :
          number + 1 + (index : Int) = number + ((index + 1 : Nat) : Int) := by
        omega
      simp only [Except.bind, ih]
      constructor
      · rintro ⟨index, line, last, hline, hrun, hstep⟩
        refine ⟨index + 1, line, last, hline, ?_, hshift index ▸ hstep⟩
        rw [List.take_succ_cons, run, hfirst]
        exact hrun
      · rintro ⟨index, line, last, hline, hrun, hstep⟩
        cases index with
        | zero =>
          cases hline
          cases hrun
          rw [Int.natCast_zero, Int.add_zero, hfirst] at hstep
          cases hstep
        | succ index =>
          rw [List.take_succ_cons, run, hfirst] at hrun
          exact ⟨index, line, last, hline, hrun, (hshift index).symm ▸ hstep⟩

end State

/-! ### Texts that are refused -/

theorem message_tooManyDigits (digits : Nat) : (ParseError.tooManyDigits digits).message =
    "Exceeds the limit (4300 digits) for integer string conversion: value has " ++
      Text.ofNat digits ++ " digits; use sys.set_int_max_str_digits() to increase the limit" := by
  have hfront : digitLimitText ++ (": value has " : Text) =
      "Exceeds the limit (4300 digits) for integer string conversion: value has " := by decide
  have hback : (" digits" : Text) ++ digitLimitAdvice =
      " digits; use sys.set_int_max_str_digits() to increase the limit" := by decide
  rw [ParseError.message, tooManyDigitsText, hfront, List.append_assoc, hback]

/-- The line with `index` lines before it is reached outside the bodies of block scalars and
    handled as a pair, and the value of the pair is a number of too many digits. -/
def LongNumberAt (lines : List Text) (index digits : Nat) : Prop :=
  ∃ line state column key value, lines[index]? = some line ∧
    State.initial.run (lines.take index) 1 = .ok state ∧
    state.Assigns line column key value ∧ Line.IsLongNumber value digits

variable {text : Text} {index digits : Nat} {fault : ParseError}

theorem run_eq_error_iff_longNumberAt {lines : List Text} (hlines : ∀ line ∈ lines, '\n' ∉ line) :
    State.initial.run lines 1 = .error fault ↔
      ∃ index digits, LongNumberAt lines index digits ∧ fault = .tooManyDigits digits := by
  have hfeed {index : Nat} {line value key : Text} {state : State} {column : Nat}
      (hline : lines[index]? = some line) (hassigns : state.Assigns line column key value) :
      '\n' ∉ value :=
    fun hmem => hlines line (List.mem_of_getElem? hline) (hassigns.sublist.subset hmem)
  rw [State.run_eq_error_iff]
  constructor
  · rintro ⟨index, line, state, hline, hrun, hstep⟩
    obtain ⟨column, key, value, hassigns, hread⟩ := (State.step_eq_error_iff _).mp hstep
    cases fault with
    | tooManyDigits digits =>
      have hlong := (Line.readValue_eq_error_iff (hfeed hline hassigns)).mp hread
      exact ⟨index, digits, ⟨line, state, column, key, value, hline, hrun, hassigns, hlong⟩, rfl⟩
  · rintro ⟨index, digits, ⟨line, state, column, key, value, hline, hrun, hassigns, hlong⟩, rfl⟩
    have hread := (Line.readValue_eq_error_iff (hfeed hline hassigns)).mpr hlong
    exact ⟨index, line, state, hline, hrun,
      (State.step_eq_error_iff _).mpr ⟨column, key, value, hassigns, hread⟩⟩

theorem parse_eq_error_iff : parse text = .error fault ↔
    ∃ index digits, LongNumberAt (Text.lines text) index digits ∧
      fault = .tooManyDigits digits := by
  rw [← run_eq_error_iff_longNumberAt fun _ hline => Text.not_mem_of_mem_lines hline, parse]
  exact State.map_eq_error_iff

theorem LongNumberAt.take {lines : List Text} (h : LongNumberAt lines index digits) {count : Nat}
    (hlt : index < count) : LongNumberAt (lines.take count) index digits := by
  obtain ⟨line, state, column, key, value, hline, hrun, hlong⟩ := h
  refine ⟨line, state, column, key, value, ?_, ?_, hlong⟩
  · rw [List.getElem?_take_of_lt hlt]
    exact hline
  · rw [List.take_take, Nat.min_eq_left (Nat.le_of_lt hlt)]
    exact hrun

/-- The lines behind such a line are not reached. -/
theorem LongNumberAt.le {lines : List Text} (hlines : ∀ line ∈ lines, '\n' ∉ line)
    (h : LongNumberAt lines index digits) {other count : Nat}
    (hother : LongNumberAt lines other count) : other ≤ index := by
  rw [← Nat.not_lt]
  intro hlt
  obtain ⟨line, state, column, key, value, -, hrun, -⟩ := hother
  have hfail : State.initial.run (lines.take other) 1 = .error (.tooManyDigits digits) := by
    rw [run_eq_error_iff_longNumberAt fun line hline => hlines line (List.mem_of_mem_take hline)]
    exact ⟨index, digits, h.take hlt, rfl⟩
  rw [hrun] at hfail
  cases hfail

/-- There is at most one such line in a text. -/
theorem LongNumberAt.unique (h : LongNumberAt (Text.lines text) index digits) {other count : Nat}
    (hother : LongNumberAt (Text.lines text) other count) : other = index ∧ count = digits := by
  have hlines : ∀ line ∈ Text.lines text, '\n' ∉ line :=
    fun line hline => Text.not_mem_of_mem_lines hline
  refine ⟨Nat.le_antisymm (h.le hlines hother) (hother.le hlines h), ?_⟩
  have hfirst := parse_eq_error_iff.mpr ⟨index, digits, h, rfl⟩
  rw [parse_eq_error_iff.mpr ⟨other, count, hother, rfl⟩] at hfirst
  cases hfirst
  rfl

/-- What is read is a mapping. -/
theorem exists_mapping_of_parse {outline : Outline} (h : parse text = .ok outline) :
    ∃ entries, outline.tree = .mapping entries none := by
  rw [parse] at h
  cases hrun : State.initial.run (Text.lines text) 1 with
  | error fault =>
    rw [hrun] at h
    cases h
  | ok state =>
    rw [hrun] at h
    cases h
    exact (State.sound_of_run hrun).root

/-- In the body of a block scalar a number may have any number of digits, as a value it may not;
    leading zeros count. -/
theorem longNumberAt_port {number : Text} (h : Line.IsDigits number)
    (hlong : digitLimit < number.length) :
    LongNumberAt ["run: |", indent 2 (Line.pairText "port" number),
      indent 0 (Line.pairText "port" number)] 2 number.length := by
  have hkey : Line.IsKey "port" := by decide
  have hpair : Line.IsContent (Line.pairText "port" number) :=
    Line.isContent_pairText hkey (Or.inr h.isContent)
  have hfirst : State.initial.step "run: |" 1 =
      .ok ⟨.mapping [⟨"run", some 1, .scalar (.str []) (some 1)⟩] none,
        [⟨0, ⟨[], some "run", true⟩⟩], []⟩ := rfl
  have hrun : State.initial.run ["run: |", indent 2 (Line.pairText "port" number)] 1 =
      .ok ⟨.mapping [⟨"run", some 1, .scalar (.str []) (some 1)⟩] none,
        [⟨0, ⟨[], some "run", true⟩⟩], []⟩ := by
    have hdeep : 0 < Text.blankWidth (indent 2 (Line.pairText "port" number)) := by
      rw [indent, Text.blankWidth_append_left (Text.allBlank_replicate 2)]
      exact Nat.lt_of_lt_of_le Nat.zero_lt_two (Nat.le_add_right 2 _)
    rw [State.run, hfirst]
    simp only [Except.bind]
    rw [State.run, State.step_script rfl rfl (Or.inr hdeep)]
    rfl
  have hitem := isItem_pairText hkey 0 number
  refine ⟨_, _, 0, "port", number, rfl, hrun, ⟨_, content?_indent hpair 0, ⟨?_, ?_⟩, ?_, ?_⟩, ?_⟩
  · simp only [State.scopeFor, State.framesFor, hitem]
    rfl
  · simp only [State.scopeFor, State.framesFor, hitem]
    exact ⟨_, _, rfl⟩
  · rw [Content.field, hitem, if_neg Bool.false_ne_true]
    exact Line.splitPair_pairText hkey (Or.inr h.isContent)
  · rw [Content.fieldColumn, hitem, if_neg Bool.false_ne_true]
  · have hquotes := Line.stripQuotes_digits (Or.inl rfl) fun _ hc => h.isDigit hc
    rw [List.nil_append, List.append_nil] at hquotes
    rw [Line.isLongNumber_iff, h.isContent.tight.trim_eq, hquotes]
    exact ⟨fun _ hc => h.isDigit hc, rfl, hlong⟩

/-- A text is refused if and only if a line is reached as a pair with a number of too many digits
    as its value, and the error tells how many they are; all other texts are read as mappings. -/
theorem parse_refusal (text : Text) :
    (∀ fault, parse text = .error fault ↔ ∃ index digits,
      LongNumberAt (Text.lines text) index digits ∧
        (∀ other count, LongNumberAt (Text.lines text) other count →
          other = index ∧ count = digits) ∧
        fault = .tooManyDigits digits ∧
        fault.message = "Exceeds the limit (4300 digits) for integer string conversion: value has "
          ++ Text.ofNat digits ++
          " digits; use sys.set_int_max_str_digits() to increase the limit") ∧
    ((∃ outline entries, parse text = .ok outline ∧ outline.tree = .mapping entries none) ↔
      ¬∃ index digits, LongNumberAt (Text.lines text) index digits) := by
  refine ⟨fun fault => ?_, ?_⟩
  · rw [parse_eq_error_iff]
    constructor
    · rintro ⟨index, digits, hlong, rfl⟩
      exact ⟨index, digits, hlong, fun _ _ hother => hlong.unique hother, rfl,
        message_tooManyDigits digits⟩
    · rintro ⟨index, digits, hlong, -, rfl, -⟩
      exact ⟨index, digits, hlong, rfl⟩
  · constructor
    · rintro ⟨outline, entries, hparse, -⟩ ⟨index, digits, hlong⟩
      rw [parse_eq_error_iff.mpr ⟨index, digits, hlong, rfl⟩] at hparse
      cases hparse
    · intro hnone
      cases hparse : parse text with
      | error fault =>
        obtain ⟨index, digits, hlong, -⟩ := parse_eq_error_iff.mp hparse
        exact absurd ⟨index, digits, hlong⟩ hnone
      | ok outline =>
        obtain ⟨entries, htree⟩ := exists_mapping_of_parse hparse
        exact ⟨outline, entries, rfl, htree⟩

/-- Zero may be written in too many digits. -/
theorem parse_refusal_zeros :
    let port : Text := Line.pairText "port" (List.replicate 4301 '0')
    parse (Text.joinLines ["run: |", indent 2 port, indent 0 port]) =
      .error (.tooManyDigits 4301) := by
  intro port
  have hzeros : Line.IsDigits (List.replicate 4301 '0') := by
    refine ⟨List.cons_ne_nil _ _, fun c hc => ?_⟩
    rw [List.eq_of_mem_replicate hc]
    rfl
  have hlong := longNumberAt_port hzeros (by rw [List.length_replicate]; decide)
  have hlines : Text.lines (Text.joinLines ["run: |", indent 2 port, indent 0 port]) =
      ([("run: |" : Text), indent 2 port, indent 0 port] : List Text) := by
    have hkey : Line.IsKey "port" := by decide
    have hport := (Line.isContent_pairText hkey (Or.inr hzeros.isContent)).feed
    apply Text.lines_joinLines (List.cons_ne_nil _ _)
    intro line hline
    simp only [List.mem_cons, List.not_mem_nil, or_false] at hline
    rcases hline with rfl | rfl | rfl
    · decide
    · rw [indent, List.mem_append, not_or]
      exact ⟨by decide, hport⟩
    · exact hport
  rw [List.length_replicate, ← hlines] at hlong
  exact ((parse_refusal _).1 _).mpr ⟨2, 4301, hlong, fun _ _ hother => hlong.unique hother, rfl,
    message_tooManyDigits 4301⟩

/-- A text without very long lines can be read. -/
theorem exists_parse_of_length_le (h : ∀ line ∈ Text.lines text, line.length ≤ digitLimit) :
    ∃ outline, parse text = .ok outline := by
  cases hparse : parse text with
  | ok outline => exact ⟨outline, rfl⟩
  | error fault =>
    obtain ⟨index, digits, hlong, -⟩ := parse_eq_error_iff.mp hparse
    obtain ⟨line, state, column, key, value, hline, -, hassigns, hnumber⟩ := hlong
    rw [Line.isLongNumber_iff] at hnumber
    have hlength := h line (List.mem_of_getElem? hline)
    have hpart := ((Line.stripQuotes_sublist _).trans
      ((Text.trim_sublist value).trans hassigns.sublist)).length_le
    omega

end Outline

end WorkflowLint
