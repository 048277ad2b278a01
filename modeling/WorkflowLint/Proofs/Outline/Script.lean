/-
  WorkflowLint/Proofs/Outline/Script.lean
  =======================================
  **Which lines are script.**

  The reader of an outline takes a line as script if the innermost frame that is
  left open for it belongs to a block scalar.  Only the innermost frame can
  belong to one (`State.ScriptInnermost`): while it is open, lines that are deep
  enough go nowhere.  So behind every line of script stands the header that opened
  its block scalar, with nothing but script, blank lines and comments in between
  (`exists_opened`), and the header holds a block indicator as its value.
-/
import WorkflowLint.Proofs.Outline.Handling

namespace WorkflowLint

open Text (isBlank allBlank)

namespace Line

/-! ### Values at the end of a text -/

/-- A text that ends in a block indicator, blanks aside, with a blank before it. -/
def HoldsIndicator (text : Text) : Prop :=
  ∃ front after, text = front ++ after ∧ startsBlank after = true ∧
    isBlockIndicator (Text.trim after) = true

/-- The value of a pair is what stands at the end of the text, behind a blank. -/
theorem exists_of_splitPair {text key value : Text} (h : splitPair text = some (key, value)) :
    ∃ front after, text = front ++ after ∧ startsBlank after = true ∧ Text.trim after = value := by
  obtain ⟨margin, quote, blanks, after, -, -, -, rfl, hafter, hvalue⟩ := eq_append_of_splitPair h
  exact ⟨margin ++ (quote ++ key ++ quote) ++ blanks ++ [':'], after, by simp, hafter, hvalue⟩

theorem sublist_of_splitPair {text key value : Text} (h : splitPair text = some (key, value)) :
    value.Sublist text := by
  obtain ⟨front, after, rfl, -, rfl⟩ := exists_of_splitPair h
  exact (Text.trim_sublist after).trans (List.sublist_append_right _ _)

theorem holdsIndicator_of_splitPair {text key value : Text}
    (hpair : splitPair text = some (key, value)) (hvalue : readValue value = .ok .block) :
    HoldsIndicator text := by
  obtain ⟨front, after, htext, hblank, htrim⟩ := exists_of_splitPair hpair
  refine ⟨front, after, htext, hblank, ?_⟩
  rw [htrim]
  rw [readValue] at hvalue
  split at hvalue
  · cases hvalue
  · split at hvalue
    · assumption
    · cases hscalar : readScalar value <;> simp [hscalar, Except.map] at hvalue

/-- Trimming a text, or cutting something off before it, keeps the indicator at its end. -/
theorem HoldsIndicator.of_trim {text : Text} (h : HoldsIndicator (Text.trim text))
    (front : Text) : HoldsIndicator (front ++ text) := by
  obtain ⟨before, after, htrim, hblank, hindicator⟩ := h
  obtain ⟨back, hback, htext⟩ := Text.exists_trim text
  refine ⟨front ++ text.takeWhile isBlank ++ before, after ++ back, ?_, ?_, ?_⟩
  · conv => lhs; rw [htext, htrim]
    simp
  · cases after with
    | nil => cases hindicator
    | cons c rest => exact hblank
  · rwa [Text.trim_append after hback]

/-- In a text without blanks at its end, the last word is the indicator. -/
theorem HoldsIndicator.endsInBlockIndicator {text : Text} (h : HoldsIndicator text)
    (htight : Text.Tight text) : endsInBlockIndicator text = true := by
  obtain ⟨front, after, rfl, hblank, hindicator⟩ := h
  obtain ⟨back, hback, hafter⟩ := Text.exists_trim after
  have hword := of_mem_isBlockIndicator hindicator
  have hnil : back = [] := by
    cases hc : back.getLast? with
    | none => exact List.getLast?_eq_none_iff.mp hc
    | some c =>
      have hlast : (front ++ after).getLast? = some c := by
        rw [hafter, List.getLast?_append, List.getLast?_append, hc]
        rfl
      have hblankLast := Text.allBlank_iff.mp hback c (List.mem_of_getLast? hc)
      rw [htight.2 c hlast] at hblankLast
      cases hblankLast
  have hspace : after.takeWhile isBlank ≠ [] := by
    cases after with
    | nil => cases hindicator
    | cons c rest =>
      have hc : isBlank c = true := hblank
      simp [hc]
  rw [hnil, List.append_nil] at hafter
  have hreverse : (front ++ after).reverse =
      (Text.trim after).reverse ++ ((after.takeWhile isBlank).reverse ++ front.reverse) := by
    conv => lhs; rw [hafter]
    simp
  have hstop : (((after.takeWhile isBlank).reverse ++ front.reverse).takeWhile
      fun c => !isBlank c) = [] := by
    cases hspaces : (after.takeWhile isBlank).reverse with
    | nil => exact absurd (List.reverse_eq_nil_iff.mp hspaces) hspace
    | cons c rest =>
      have hmem : c ∈ after.takeWhile isBlank := by
        rw [← List.mem_reverse, hspaces]
        exact List.mem_cons_self ..
      have hc := Text.allBlank_iff.mp (Text.allBlank_takeWhile after) c hmem
      simp [hc]
  rw [Line.endsInBlockIndicator, hreverse, List.takeWhile_append_of_pos, hstop, List.append_nil,
    List.reverse_reverse]
  · exact hindicator
  · intro c hc
    simp [(hword c (List.mem_reverse.mp hc)).1]

end Line

namespace Outline

namespace State

variable {state next : State} {content : Content} {line : Text} {number : Int}

/-! ### What a step does to the frames -/

/-- Whether the innermost frame belongs to a block scalar. -/
def inScript (state : State) : Bool := (currentScope state.frames).isBlock

/-- No frame but the innermost belongs to a block scalar. -/
def ScriptInnermost (state : State) : Prop :=
  ∀ frame ∈ state.frames.tail, frame.scope.isBlock = false

/-- No frame belongs to a block scalar. -/
def Scriptless (state : State) : Prop := ∀ frame ∈ state.frames, frame.scope.isBlock = false

/-- The frames after a line in a state without script: none is script, or the header of a block
    scalar has just opened one. -/
def Settles (content : Content) (next : State) : Prop :=
  next.Scriptless ∨
    Line.HoldsIndicator content.text ∧ next.inScript = true ∧ next.ScriptInnermost

theorem Scriptless.not_inScript (h : state.Scriptless) : state.inScript = false := by
  rw [inScript]
  cases hframes : state.frames with
  | nil => rfl
  | cons frame rest => exact h frame (by simp [hframes])

/-- Frames for a value above frames without script are script only if the value is a block
    scalar. -/
theorem settles_framesBelow {base : List Frame}
    (hbase : ∀ frame ∈ base, frame.scope.isBlock = false) {value : LineValue}
    (hvalue : value = .block → Line.HoldsIndicator content.text) {address : Address} {key : Text}
    {column : Nat} (hframes : next.frames = framesBelow address key column value ++ base) :
    Settles content next := by
  cases value with
  | block =>
    refine Or.inr ⟨hvalue rfl, ?_, ?_⟩
    · rw [inScript, hframes]
      rfl
    · rw [ScriptInnermost, hframes]
      exact hbase
  | scalar scalar =>
    left
    rw [Scriptless, hframes]
    exact hbase
  | nested =>
    left
    rw [Scriptless, hframes]
    intro frame hframe
    rcases List.mem_cons.mp hframe with rfl | hframe
    · rfl
    · exact hbase frame hframe

theorem holdsIndicator_of_field (h : Line.HoldsIndicator content.field) :
    Line.HoldsIndicator content.text := by
  rw [Content.field] at h
  split at h
  · have hrest := h.of_trim (content.text.take 1)
    rwa [List.take_append_drop] at hrest
  · exact h

/-- Closing frames leaves all of them, or some of which none is script. -/
theorem ScriptInnermost.unwind_cases (h : state.ScriptInnermost) (column : Nat) (isItem : Bool) :
    unwind state.tree column isItem state.frames = state.frames ∨
      ∀ frame ∈ unwind state.tree column isItem state.frames, frame.scope.isBlock = false := by
  have hsuffix : unwind state.tree column isItem state.frames <:+ state.frames :=
    List.dropWhile_suffix _
  obtain ⟨closed, hframes⟩ := hsuffix
  cases closed with
  | nil => exact Or.inl hframes
  | cons first rest =>
    right
    intro frame hframe
    apply h
    rw [← hframes]
    exact List.mem_append_right _ hframe

/-- A line that is taken as script closes no frame. -/
theorem ScriptInnermost.unwind_eq (h : state.ScriptInnermost) {column : Nat} {isItem : Bool}
    (hscript : (currentScope (unwind state.tree column isItem state.frames)).isBlock = true) :
    unwind state.tree column isItem state.frames = state.frames := by
  rcases h.unwind_cases column isItem with hframes | hnone
  · exact hframes
  · have hnot : (currentScope (unwind state.tree column isItem state.frames)).isBlock = false :=
      Scriptless.not_inScript (show Scriptless ⟨state.tree, _, state.skipped⟩ from hnone)
    rw [hscript] at hnot
    cases hnot

theorem ScriptInnermost.inScript (h : state.ScriptInnermost)
    (hscript : state.takesAsScript line = true) : state.inScript = true := by
  rw [takesAsScript, Option.any_eq_true] at hscript
  obtain ⟨content, -, hblock⟩ := hscript
  rwa [h.unwind_eq hblock] at hblock

theorem ScriptInnermost.scriptless_framesFor (h : state.ScriptInnermost)
    (hscript : (state.scopeFor content).isBlock = false) :
    ∀ frame ∈ state.framesFor content, frame.scope.isBlock = false := by
  rcases h.unwind_cases content.column content.isItem with hframes | hnone
  · rw [scopeFor, framesFor, hframes] at hscript
    rw [framesFor, hframes]
    intro frame hframe
    cases hall : state.frames with
    | nil => simp [hall] at hframe
    | cons first rest =>
      rw [hall] at hframe hscript
      rcases List.mem_cons.mp hframe with rfl | hframe
      · exact hscript
      · exact h frame (by rw [hall]; exact hframe)
  · exact hnone

/-- A line is blank, a comment or script and changes nothing, or it is placed in a state without
    script. -/
theorem step_cases (h : state.ScriptInnermost) (hhandles : state.Handles line number next) :
    next = state ∧ (Line.isIgnorable line = true ∨ state.takesAsScript line = true) ∨
      ∃ content, content? line = some content ∧ state.takesAsScript line = false ∧
        Settles content next := by
  cases hhandles with
  | ignored hcontent => exact Or.inl ⟨rfl, Or.inl (content?_eq_none_iff.mp hcontent)⟩
  | script hcontent hscript =>
    left
    rw [framesFor, h.unwind_eq hscript]
    exact ⟨rfl, Or.inr ((takesAsScript_eq hcontent).trans hscript)⟩
  | skipped hcontent hscript =>
    exact Or.inr ⟨_, hcontent, (takesAsScript_eq hcontent).trans hscript,
      Or.inl (h.scriptless_framesFor hscript)⟩
  | pair hcontent hscript hpair hread hat =>
    refine Or.inr ⟨_, hcontent, (takesAsScript_eq hcontent).trans hscript,
      settles_framesBelow (h.scriptless_framesFor hscript) ?_ rfl⟩
    rintro rfl
    exact holdsIndicator_of_field (Line.holdsIndicator_of_splitPair hpair hread)
  | item hcontent hitem hscope hat hopens hbecomes =>
    rename_i content owner listKey node item items listLine opened
    have hscript : (state.scopeFor content).isBlock = false := by rw [hscope]
    have hbase := h.scriptless_framesFor hscript
    -- the frame of an item that is a mapping is not one of a block scalar
    have hmapping {address : Address} : ∀ frame ∈ (⟨content.column, ⟨address, none, false⟩⟩ : Frame) ::
        state.framesFor content, frame.scope.isBlock = false := by
      intro frame hframe
      rcases List.mem_cons.mp hframe with rfl | hframe
      · rfl
      · exact hbase frame hframe
    refine Or.inr ⟨content, hcontent, (takesAsScript_eq hcontent).trans hscript, ?_⟩
    cases hbecomes with
    | bare => exact Or.inl hmapping
    | text => exact Or.inl hbase
    | pair hpair hread =>
      refine settles_framesBelow hmapping ?_ (List.append_assoc ..)
      rintro rfl
      exact holdsIndicator_of_field (Line.holdsIndicator_of_splitPair hpair hread)

/-! ### The header behind the script -/

/-- The pass stands in the body of a block scalar: its header stands behind some lines, and only
    script, blank lines and comments have followed. -/
structure Opened (state : State) (before : List Text) (header : Text) (body : List Text) :
    Prop where
  inScript : state.inScript = true
  header : ∃ opened content, initial.run before 1 = .ok opened ∧
    opened.takesAsScript header = false ∧ opened.step header (1 + before.length) = .ok state ∧
      content? header = some content ∧ Line.HoldsIndicator content.text
  body : ∀ line ∈ body, Line.isIgnorable line = true ∨ state.takesAsScript line = true

theorem exists_opened {lines : List Text} (h : initial.run lines 1 = .ok state) :
    state.ScriptInnermost ∧ (state.inScript = true →
      ∃ before header body, lines = before ++ header :: body ∧
        state.Opened before header body) := by
  refine run_induction (motive := fun lines state => state.ScriptInnermost ∧
    (state.inScript = true → ∃ before header body, lines = before ++ header :: body ∧
      state.Opened before header body))
    ⟨fun frame hframe => absurd hframe List.not_mem_nil, fun hscript => by cases hscript⟩ ?_ h
  intro lines last state line hlast hrun hstep
  obtain ⟨hinnermost, hbefore⟩ := hlast
  have hhandles := handles_of_step (sound_of_run hrun) hstep
  rcases step_cases hinnermost hhandles with ⟨rfl, hline⟩ | ⟨content, hcontent, hnot, hsettles⟩
  · refine ⟨hinnermost, fun hscript => ?_⟩
    obtain ⟨before, header, body, rfl, hopened⟩ := hbefore hscript
    refine ⟨before, header, body ++ [line], by simp, hscript, hopened.header, ?_⟩
    intro other hother
    rcases List.mem_append.mp hother with hbody | hlast
    · exact hopened.body other hbody
    · rwa [List.mem_singleton.mp hlast]
  · rcases hsettles with hnone | ⟨hindicator, hscript, hinnermost⟩
    · refine ⟨fun frame hframe => hnone frame (List.mem_of_mem_tail hframe), fun hscript => ?_⟩
      rw [hnone.not_inScript] at hscript
      cases hscript
    · exact ⟨hinnermost, fun _ => ⟨lines, line, [], rfl, hscript,
        ⟨last, content, hrun, hnot, hstep, hcontent, hindicator⟩,
        fun other hother => absurd hother List.not_mem_nil⟩⟩

end State

end Outline

end WorkflowLint
