/-
  WorkflowLint/Proofs/Outline/Reindent.lean
  =========================================
  **Only the order of columns counts.**

  The reader of an outline compares columns with columns and does nothing else with
  them.  So a pass over lines that are indented in another way goes as the pass over
  the lines themselves, with a function applied to the columns of all frames
  (`State.run_recolumn`), if that function keeps the order of the columns that occur.
  Such a function is there whenever the columns of two texts, taken position by
  position, are ordered the same way (`exists_recolumning`).
-/
import Mathlib.Data.List.Forall2
import WorkflowLint.Proofs.Outline.Nesting
import WorkflowLint.Proofs.Text.Lines

namespace WorkflowLint.Outline

open Line (isIgnorable)

/-! ### The columns of a text -/

/-- The columns that a line brings: the column of its text, and, if it is a list item with
    something behind the dash, the column of that. -/
def Content.columns (content : Content) : List Nat :=
  content.column :: if content.isItem && !content.field.isEmpty then [content.fieldColumn] else []

/-- The columns of a line, none if it is blank or a comment. -/
def lineColumns (line : Text) : List Nat := ((content? line).map Content.columns).getD []

/-- The columns of the lines of a text, in order. -/
def columns (text : Text) : List Nat := (Text.lines text).flatMap lineColumns

/-- Two lists of columns are ordered the same way: at any two positions, both have the lesser
    column first, or the same column twice, or the greater column first. -/
def SameOrder (columns others : List Nat) : Prop :=
  ∀ here ∈ columns.zip others, ∀ there ∈ columns.zip others,
    compare here.1 there.1 = compare here.2 there.2

instance (columns others : List Nat) : Decidable (SameOrder columns others) :=
  inferInstanceAs (Decidable (∀ _ ∈ _, _))

/-- Two lines say the same: both are blank or comments, or they differ in nothing but the blanks
    around their text. -/
def SaysSame (line other : Text) : Prop :=
  isIgnorable line = true ∧ isIgnorable other = true ∨ Text.trim line = Text.trim other

instance : DecidableRel SaysSame := fun _ _ => inferInstanceAs (Decidable (_ ∨ _))

theorem Content.isItem_congr {content other : Content} (h : other.text = content.text) :
    other.isItem = content.isItem := by
  rw [Content.isItem, Content.isItem, h]

theorem Content.field_congr {content other : Content} (h : other.text = content.text) :
    other.field = content.field := by
  rw [Content.field, Content.field, Content.isItem_congr h, h]

/-! ### Functions on columns -/

/-- A function that keeps the order of some columns. -/
def KeepsOrder (f : Nat → Nat) (columns : List Nat) : Prop :=
  ∀ a ∈ columns, ∀ b ∈ columns, a < b ↔ f a < f b

/-- A frame with a function applied to its column. -/
def Frame.recolumn (f : Nat → Nat) (frame : Frame) : Frame :=
  { frame with column := f frame.column }

/-- A state with a function applied to the columns of its frames. -/
def State.recolumn (f : Nat → Nat) (state : State) : State :=
  { state with frames := state.frames.map (Frame.recolumn f) }

variable {f : Nat → Nat} {all : List Nat} {tree : Node} {frame : Frame} {column : Nat}
  {isItem : Bool}

theorem KeepsOrder.eq_iff (h : KeepsOrder f all) {a b : Nat} (ha : a ∈ all) (hb : b ∈ all) :
    a = b ↔ f a = f b := by
  constructor
  · rintro rfl
    rfl
  · intro heq
    have hlt := h a ha b hb
    have hgt := h b hb a ha
    omega

theorem holds_recolumn (h : KeepsOrder f all) (hframe : frame.column ∈ all)
    (hcolumn : column ∈ all) :
    (frame.recolumn f).holds tree (f column) isItem = frame.holds tree column isItem := by
  have hlt := h _ hframe _ hcolumn
  have heq := h.eq_iff hcolumn hframe
  have hawaits : (frame.recolumn f).AwaitsItems tree ↔ frame.AwaitsItems tree := Iff.rfl
  rw [Bool.eq_iff_iff, Frame.holds_iff, Frame.holds_iff, hawaits, hlt, heq]
  rfl

theorem unwind_recolumn (h : KeepsOrder f all) (hcolumn : column ∈ all) {frames : List Frame}
    (hframes : ∀ frame ∈ frames, frame.column ∈ all) :
    unwind tree (f column) isItem (frames.map (Frame.recolumn f)) =
      (unwind tree column isItem frames).map (Frame.recolumn f) := by
  induction frames with
  | nil => rfl
  | cons frame rest ih =>
    have hholds :
        (frame.recolumn f).holds tree (f column) isItem = frame.holds tree column isItem :=
      holds_recolumn h (hframes frame (List.mem_cons_self ..)) hcolumn
    have hrest := ih fun other hother => hframes other (List.mem_cons_of_mem _ hother)
    simp only [unwind, List.map_cons, List.dropWhile_cons, hholds] at hrest ⊢
    split
    · exact hrest
    · rfl

theorem currentScope_recolumn (f : Nat → Nat) (frames : List Frame) :
    currentScope (frames.map (Frame.recolumn f)) = currentScope frames := by
  cases frames <;> rfl

/-! ### Steps of two passes -/

namespace State

variable {state next : State} {scope : Scope} {content content' : Content} {number : Int}
  {line other : Text} {lines others : List Text}

@[simp] theorem tree_recolumn (f : Nat → Nat) (state : State) :
    (state.recolumn f).tree = state.tree := rfl

@[simp] theorem push_recolumn (f : Nat → Nat) (state : State) (column : Nat) (scope : Scope) :
    (state.recolumn f).push (f column) scope = (state.push column scope).recolumn f := rfl

@[simp] theorem appendItem_recolumn (f : Nat → Nat) (state : State) (owner : Address) (key : Text)
    (item : Node) : (state.recolumn f).appendItem owner key item =
      (state.appendItem owner key item).recolumn f := rfl

@[simp] theorem assign_recolumn (f : Nat → Nat) (state : State) (target : Address) (key : Text)
    (value : LineValue) (column : Nat) (number : Int) :
    (state.recolumn f).assign target key value (f column) number =
      (state.assign target key value column number).recolumn f := by
  cases value <;> rfl

theorem skip_recolumn (state : State) (htext : content'.text = content.text) (number : Int) :
    (state.recolumn f).skip number content' = (state.skip number content).recolumn f := by
  simp only [skip, htext]
  rfl

theorem addPair_recolumn (state : State) (scope : Scope) (htext : content'.text = content.text)
    (hcolumn : content'.column = f content.column) (number : Int) :
    (state.recolumn f).addPair scope content' number =
      (state.addPair scope content number).map (recolumn f) := by
  rw [addPair, addPair, htext, tree_recolumn]
  split
  · rename_i key text _ _ _ _
    cases Line.readValue text with
    | error fault => rfl
    | ok value => simp only [Except.map, hcolumn, assign_recolumn]
  · exact congrArg Except.ok (skip_recolumn state htext number)

theorem openSequence?_recolumn (f : Nat → Nat) (state : State) (owner : Address) (key : Text)
    (number : Int) : (state.recolumn f).openSequence? owner key number =
      (state.openSequence? owner key number).map fun opened => (opened.1.recolumn f, opened.2) := by
  rw [openSequence?, openSequence?, tree_recolumn]
  split <;> rfl

/-- What stands behind a dash has a column of its own. -/
theorem inlineColumn_eq (htext : content'.text = content.text)
    (hcolumns : content'.columns = content.columns.map f) (hitem : content.isItem = true)
    (hfield : content.field.isEmpty = false) :
    f content.column + 1 + Text.blankWidth (content.text.drop 1) =
      f (content.column + 1 + Text.blankWidth (content.text.drop 1)) := by
  have hitem' : content'.isItem = true := (Content.isItem_congr htext).trans hitem
  have hfield' : content'.field = content.field := Content.field_congr htext
  obtain ⟨hcolumn, hinline⟩ := List.cons.inj hcolumns
  rw [← hcolumn]
  simpa [Content.fieldColumn, hitem, hitem', hfield', hfield, htext] using hinline

theorem addItem_recolumn (state : State) (scope : Scope) (htext : content'.text = content.text)
    (hitem : content.isItem = true) (hcolumns : content'.columns = content.columns.map f)
    (number : Int) : (state.recolumn f).addItem scope content' number =
      (state.addItem scope content number).map (recolumn f) := by
  have hcolumn : content'.column = f content.column := (List.cons.inj hcolumns).1
  have hfield : Text.trim (content.text.drop 1) = content.field := by
    rw [Content.field, if_pos hitem]
  rw [addItem, addItem, htext]
  cases scope.key with
  | none => exact congrArg Except.ok (skip_recolumn state htext number)
  | some listKey =>
    simp only [openSequence?_recolumn, hfield]
    cases state.openSequence? scope.owner listKey number with
    | none => exact congrArg Except.ok (skip_recolumn state htext number)
    | some opened =>
      cases hempty : content.field.isEmpty with
      | true => simp [Except.map, hcolumn]
      | false =>
        have hinline := inlineColumn_eq htext hcolumns hitem hempty
        cases Line.splitPair content.field with
        | none => simp [Except.map]
        | some pair =>
          cases hread : Line.readValue pair.2 with
          | error fault => simp [Except.map, hread]
          | ok value =>
            simp only [Option.map_some, Bool.false_eq_true, if_false, hread, Except.map, hcolumn,
              hinline, appendItem_recolumn, push_recolumn, assign_recolumn]

/-- A content in another column is placed as the content itself is, with a function applied to all
    columns. -/
theorem place_recolumn (h : KeepsOrder f all) (hframes : ∀ frame ∈ state.frames, frame.column ∈ all)
    (hall : content.column ∈ all) (htext : content'.text = content.text)
    (hcolumns : content'.columns = content.columns.map f) (number : Int) :
    (state.recolumn f).place content' number = (state.place content number).map (recolumn f) := by
  have hcolumn : content'.column = f content.column := (List.cons.inj hcolumns).1
  have hunwind : unwind (state.recolumn f).tree content'.column content'.isItem
      (state.recolumn f).frames =
        (unwind state.tree content.column content.isItem state.frames).map (Frame.recolumn f) := by
    rw [hcolumn, Content.isItem_congr htext]
    exact unwind_recolumn h hall hframes
  let closed : State := { state with frames := state.framesFor content }
  rw [place, place]
  simp only [hunwind, currentScope_recolumn]
  split
  · rfl
  · rw [Content.isItem_congr htext]
    split
    · rename_i hitem
      exact addItem_recolumn closed _ htext hitem hcolumns number
    · exact addPair_recolumn closed _ htext hcolumn number

theorem fieldColumn_mem_columns {pair : Text × Text}
    (hpair : Line.splitPair content.field = some pair) :
    content.fieldColumn ∈ content.columns := by
  cases hitem : content.isItem with
  | false => simp [Content.columns, Content.fieldColumn, hitem]
  | true =>
    have hne : content.field.isEmpty = false := by
      cases hfield : content.field with
      | nil =>
        rw [hfield] at hpair
        cases hpair
      | cons c rest => rfl
    simp [Content.columns, hitem, hne]

/-- The frames that a line opens stand in its columns. -/
theorem Handles.column_mem (h : state.Handles line number next)
    (hcontent : content? line = some content) (hframe : frame ∈ next.frames) :
    frame ∈ state.frames ∨ frame.column ∈ content.columns := by
  obtain ⟨below, self, hframes, hbelow, hself⟩ := h.exists_opened hcontent
  rw [hframes, List.append_assoc, List.mem_append, List.mem_append] at hframe
  rcases hframe with hframe | hframe | hframe
  · right
    cases hbelow with
    | nothing => exact absurd hframe List.not_mem_nil
    | pair address hpair =>
      rw [column_framesBelow hframe]
      exact fieldColumn_mem_columns hpair
  · right
    cases hself with
    | nothing => exact absurd hframe List.not_mem_nil
    | item =>
      rw [List.mem_singleton.mp hframe]
      exact List.mem_cons_self ..
  · exact .inl ((state.framesFor_suffix content).mem hframe)

end State

/-- The other line says the same, and its columns are those of the line with a function applied to
    them. -/
def Recolumned (f : Nat → Nat) (line other : Text) : Prop :=
  content? line = none ∧ content? other = none ∨
    ∃ content content', content? line = some content ∧ content? other = some content' ∧
      content'.text = content.text ∧ content'.columns = content.columns.map f

namespace State

variable {state next : State} {number : Int} {line other : Text} {lines others : List Text}

theorem run_recolumn (h : KeepsOrder f all) (hlines : List.Forall₂ (Recolumned f) lines others)
    (hall : ∀ line ∈ lines, ∀ column ∈ lineColumns line, column ∈ all) (hsound : state.Sound)
    (hframes : ∀ frame ∈ state.frames, frame.column ∈ all) (number : Int) :
    (state.recolumn f).run others number = (state.run lines number).map (recolumn f) := by
  induction hlines generalizing state number with
  | nil => rfl
  | cons hline hrest ih =>
    rename_i line other lines others
    have hhere := hall line (List.mem_cons_self ..)
    have hlater : ∀ line ∈ lines, ∀ column ∈ lineColumns line, column ∈ all :=
      fun line hline => hall line (List.mem_cons_of_mem _ hline)
    rw [run, run]
    rcases hline with ⟨hnone, hnone'⟩ | ⟨content, content', hcontent, hcontent', htext, hcolumns⟩
    · simp only [step, hnone, hnone', Except.bind]
      exact ih hlater hsound hframes (number + 1)
    · rw [lineColumns, hcontent, Option.map_some, Option.getD_some] at hhere
      have hcolumn := hhere content.column (List.mem_cons_self ..)
      have hstep : (state.recolumn f).step other number =
          (state.step line number).map (recolumn f) := by
        simp only [step, hcontent, hcontent']
        exact place_recolumn h hframes hcolumn htext hcolumns number
      rw [hstep]
      cases hnext : state.step line number with
      | error fault => rfl
      | ok next =>
        refine ih hlater (hsound.step hnext) ?_ (number + 1)
        intro frame hframe
        have hhandles := handles_of_step hsound hnext
        rcases hhandles.column_mem hcontent hframe with hbefore | hopened
        · exact hframes frame hbefore
        · exact hhere _ hopened

end State

/-! ### From the order of columns to a function -/

theorem content?_congr {line other : Text} (h : SaysSame line other) :
    content? line = none ∧ content? other = none ∨
      ∃ content content', content? line = some content ∧ content? other = some content' ∧
        content'.text = content.text := by
  rcases h with ⟨hline, hother⟩ | htrim
  · left
    exact ⟨State.content?_eq_none_iff.mpr hline, State.content?_eq_none_iff.mpr hother⟩
  · have hignorable : isIgnorable line = isIgnorable other := by
      rw [isIgnorable, isIgnorable, htrim]
    rw [content?, content?, hignorable]
    split
    · exact .inl ⟨rfl, rfl⟩
    · exact .inr ⟨_, _, rfl, rfl, by rw [htrim]⟩

theorem length_columns_congr {content content' : Content} (htext : content'.text = content.text) :
    content'.columns.length = content.columns.length := by
  rw [Content.columns, Content.columns, Content.isItem_congr htext, Content.field_congr htext]
  split <;> rfl

theorem length_lineColumns {line other : Text} (h : SaysSame line other) :
    (lineColumns line).length = (lineColumns other).length := by
  rcases content?_congr h with ⟨hnone, hnone'⟩ | ⟨content, content', hcontent, hcontent', htext⟩
  · rw [lineColumns, lineColumns, hnone, hnone']
  · simp only [lineColumns, hcontent, hcontent', Option.map_some, Option.getD_some,
      length_columns_congr htext]

/-- A list is the image of another one if the function leads from each element to its partner. -/
theorem eq_map_of_forall_zip {columns others : List Nat} (hlength : columns.length = others.length)
    (h : ∀ pair ∈ columns.zip others, f pair.1 = pair.2) : others = columns.map f := by
  calc others = (columns.zip others).map Prod.snd := (List.map_snd_zip (by omega)).symm
    _ = (columns.zip others).map (f ∘ Prod.fst) :=
      List.map_congr_left fun pair hpair => (h pair hpair).symm
    _ = ((columns.zip others).map Prod.fst).map f := by rw [List.map_map]
    _ = columns.map f := by rw [List.map_fst_zip (by omega)]

theorem recolumned_of_saysSame {line other : Text} (h : SaysSame line other)
    (hf : ∀ pair ∈ (lineColumns line).zip (lineColumns other), f pair.1 = pair.2) :
    Recolumned f line other := by
  have hlength := length_lineColumns h
  have hcolumns := eq_map_of_forall_zip hlength hf
  rcases content?_congr h with hnone | ⟨content, content', hcontent, hcontent', htext⟩
  · exact .inl hnone
  · simp only [lineColumns, hcontent, hcontent', Option.map_some, Option.getD_some] at hcolumns
    exact .inr ⟨content, content', hcontent, hcontent', htext, hcolumns⟩

theorem forall₂_recolumned {lines others : List Text} (h : List.Forall₂ SaysSame lines others)
    (hf : ∀ pair ∈ (lines.flatMap lineColumns).zip (others.flatMap lineColumns),
      f pair.1 = pair.2) : List.Forall₂ (Recolumned f) lines others := by
  induction h with
  | nil => exact .nil
  | cons hline _ ih =>
    rw [List.flatMap_cons, List.flatMap_cons, List.zip_append (length_lineColumns hline)] at hf
    constructor
    · apply recolumned_of_saysSame hline
      intro pair hpair
      exact hf pair (List.mem_append_left _ hpair)
    · apply ih
      intro pair hpair
      exact hf pair (List.mem_append_right _ hpair)

/-- Columns that are ordered the same way are the images of each other under a function that keeps
    their order. -/
theorem exists_recolumning {columns others : List Nat} (h : SameOrder columns others) : ∃ f,
    (∀ pair ∈ columns.zip others, f pair.1 = pair.2) ∧
      KeepsOrder f ((columns.zip others).map Prod.fst) := by
  let pairs := columns.zip others
  let f (column : Nat) : Nat := ((pairs.find? (·.1 == column)).map Prod.snd).getD 0
  have hf : ∀ pair ∈ pairs, f pair.1 = pair.2 := by
    intro pair hpair
    have hsome : (pairs.find? (·.1 == pair.1)).isSome = true :=
      List.find?_isSome.mpr ⟨pair, hpair, beq_self_eq_true _⟩
    obtain ⟨found, hfound⟩ := Option.isSome_iff_exists.mp hsome
    have heq : found.1 = pair.1 := by simpa using List.find?_some hfound
    have horder := h found (List.mem_of_find?_eq_some hfound) pair hpair
    rw [heq, Nat.compare_eq_eq.mpr rfl] at horder
    simp only [f, hfound, Option.map_some, Option.getD_some]
    exact Nat.compare_eq_eq.mp horder.symm
  refine ⟨f, hf, ?_⟩
  intro a ha b hb
  obtain ⟨here, hhere, rfl⟩ := List.mem_map.mp ha
  obtain ⟨there, hthere, rfl⟩ := List.mem_map.mp hb
  rw [hf here hhere, hf there hthere, ← Nat.compare_eq_lt, ← Nat.compare_eq_lt,
    h here hhere there hthere]

theorem parse_congr_of_sameOrder {text other : Text}
    (hlines : List.Forall₂ SaysSame (Text.lines text) (Text.lines other))
    (horder : SameOrder (columns text) (columns other)) : parse other = parse text := by
  obtain ⟨f, hf, hkeeps⟩ := exists_recolumning horder
  have hlength : (columns text).length = (columns other).length := by
    rw [columns, columns, List.length_flatMap, List.length_flatMap]
    have hlengths : List.Forall₂ Eq ((Text.lines text).map fun line => (lineColumns line).length)
        ((Text.lines other).map fun line => (lineColumns line).length) := by
      rw [List.forall₂_map_left_iff, List.forall₂_map_right_iff]
      exact hlines.imp fun line other => length_lineColumns
    rw [List.forall₂_eq_eq_eq] at hlengths
    rw [hlengths]
  have hall : ∀ line ∈ Text.lines text, ∀ column ∈ lineColumns line,
      column ∈ ((columns text).zip (columns other)).map Prod.fst := by
    intro line hline column hcolumn
    rw [List.map_fst_zip (by omega)]
    exact List.mem_flatMap.mpr ⟨line, hline, hcolumn⟩
  have hrun : State.initial.run (Text.lines other) 1 =
      (State.initial.run (Text.lines text) 1).map (State.recolumn f) :=
    State.run_recolumn hkeeps (forall₂_recolumned hlines hf) hall State.sound_initial
      (fun frame hframe => absurd hframe List.not_mem_nil) 1
  rw [parse, parse, hrun]
  cases State.initial.run (Text.lines text) 1 <;> rfl

/-! ### Blanks before all lines -/

theorem saysSame_append {blanks : Text} (h : Text.allBlank blanks = true) (line : Text) :
    SaysSame line (blanks ++ line) :=
  .inr (Text.trim_append_left h line).symm

theorem columns_shift (content : Content) (width : Nat) :
    (⟨width + content.column, content.text⟩ : Content).columns =
      content.columns.map (width + ·) := by
  have hitem : (⟨width + content.column, content.text⟩ : Content).isItem = content.isItem := rfl
  have hfield : (⟨width + content.column, content.text⟩ : Content).field = content.field := rfl
  rw [Content.columns, Content.columns, Content.fieldColumn, Content.fieldColumn, hitem, hfield]
  cases content.isItem with
  | false => rfl
  | true =>
    cases content.field.isEmpty with
    | true => rfl
    | false => simp [Nat.add_assoc]

theorem lineColumns_append {blanks : Text} (h : Text.allBlank blanks = true) (line : Text) :
    lineColumns (blanks ++ line) = (lineColumns line).map (blanks.length + ·) := by
  have htrim := Text.trim_append_left h line
  have hignorable : isIgnorable (blanks ++ line) = isIgnorable line := by
    rw [isIgnorable, isIgnorable, htrim]
  rw [lineColumns, lineColumns, content?, content?, hignorable, htrim,
    Text.blankWidth_append_left h]
  split
  · rfl
  · exact columns_shift ⟨Text.blankWidth line, Line.stripComment (Text.trim line)⟩ blanks.length

theorem sameOrder_map_add (columns : List Nat) (width : Nat) :
    SameOrder columns (columns.map (width + ·)) := by
  have hpair : ∀ pair ∈ columns.zip (columns.map (width + ·)), pair.2 = width + pair.1 := by
    intro pair hpair
    rw [← List.map_prod_left_eq_zip] at hpair
    obtain ⟨column, -, rfl⟩ := List.mem_map.mp hpair
    rfl
  intro here hhere there hthere
  rw [hpair here hhere, hpair there hthere]
  rcases Nat.lt_trichotomy here.1 there.1 with hlt | heq | hgt
  · rw [Nat.compare_eq_lt.mpr hlt, Nat.compare_eq_lt.mpr (by omega)]
  · rw [heq]
    simp
  · rw [Nat.compare_eq_gt.mpr hgt, Nat.compare_eq_gt.mpr (by omega)]

/-- Texts whose lines say the same and whose columns are ordered the same way are read as the same
    outline, with the same lines and the same skipped lines, or fail alike.  So blanks, as long as
    they are no line feeds, may be put before all lines. -/
theorem parse_eq_of_sameOrder :
    (∀ text other : Text, List.Forall₂ SaysSame (Text.lines text) (Text.lines other) →
      SameOrder (columns text) (columns other) → parse other = parse text) ∧
    ∀ text blanks : Text, Text.allBlank blanks = true → '\n' ∉ blanks →
      parse (Text.joinLines ((Text.lines text).map (blanks ++ ·))) = parse text := by
  refine ⟨fun text other => parse_congr_of_sameOrder, ?_⟩
  intro text blanks hblanks hfeed
  have hlines : Text.lines (Text.joinLines ((Text.lines text).map (blanks ++ ·))) =
      (Text.lines text).map (blanks ++ ·) := by
    apply Text.lines_joinLines
    · simpa using Text.lines_ne_nil text
    · intro line hline
      obtain ⟨before, hbefore, rfl⟩ := List.mem_map.mp hline
      rw [List.mem_append, not_or]
      exact ⟨hfeed, Text.not_mem_of_mem_lines hbefore⟩
  apply parse_congr_of_sameOrder
  · rw [hlines, List.forall₂_map_right_iff, List.forall₂_same]
    exact fun line _ => saysSame_append hblanks line
  · have hcolumns : columns (Text.joinLines ((Text.lines text).map (blanks ++ ·))) =
        (columns text).map (blanks.length + ·) := by
      rw [columns, columns, hlines, List.flatMap_map, List.map_flatMap]
      simp only [lineColumns_append hblanks]
    rw [hcolumns]
    exact sameOrder_map_add _ _

/-- Tabs and spaces, a list in the column of its key and a block scalar behind a dash: what was in
    one column stays in one, and the body of the block scalar stays deeper than its key. -/
theorem parse_eq_of_sameOrder_tabs :
    let text := Text.joinLines ["on:", "- a", "jobs:", "  ci:", "      steps:", "      # c",
      "      - run: |", "           b: 1", "        if: d"]
    let other := Text.joinLines [" on:", " - a", " jobs:", "\t\t ci:", "    steps:", "",
      "    - run: | ", "\t\t\t\t\t\t\tb: 1", "      if: d"]
    columns text = [0, 0, 2, 0, 2, 6, 6, 8, 11, 8] ∧
      columns other = [1, 1, 3, 1, 3, 4, 4, 6, 7, 6] ∧ parse other = parse text ∧
      parse "\t on:\n\t - a" = parse "on:\n- a" := by
  intro text other
  obtain ⟨hsame, hmoved⟩ := parse_eq_of_sameOrder
  refine ⟨by decide, by decide, ?_, ?_⟩
  · apply hsame
    · decide
    · decide
  · exact hmoved "on:\n- a" "\t " (by decide) (by decide)

end WorkflowLint.Outline
