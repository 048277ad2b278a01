/-
  WorkflowLint/Proofs/Outline/Place.lean
  ======================================
  **Where a line is placed.**

  One lemma for each kind of line: what the step on it does when the open frames
  are some that close for the line, followed by those that take it.  A pair goes
  into the mapping of the innermost remaining frame (`step_pairText`), a dash into
  the sequence of the key that the frame belongs to (`step_textItem`,
  `step_mappingItem`), and a line in the body of a block scalar goes nowhere
  (`step_script`).
-/
import Mathlib.Data.List.Induction
import WorkflowLint.Proofs.Outline.Draft
import WorkflowLint.Proofs.Outline.Uses
import WorkflowLint.Proofs.Tree.Address

namespace WorkflowLint.Outline

open Line (IsPlainText HoldsNoPair IsKey IsContent pairText isIgnorable)

/-! ### The content of a line -/

theorem content?_eq_some_iff {line : Text} {content : Content} :
    content? line = some content ↔ isIgnorable line = false ∧
      ⟨Text.blankWidth line, Line.stripComment (Text.trim line)⟩ = content := by
  rw [content?]
  split
  · simp [*]
  · simp [*]

theorem content?_indent {text : Text} (h : IsContent text) (column : Nat) :
    content? (indent column text) = some ⟨column, text⟩ := by
  have htrim : Text.trim (indent column text) = text :=
    (Text.trim_append_left (Text.allBlank_replicate column) text).trans h.tight.trim_eq
  have hcomment : Line.stripComment (Text.trim (indent column text)) = text := by
    rw [htrim, Line.stripComment_of_not_mem h.hash]
  have hne : Line.stripComment (Text.trim (indent column text)) ≠ [] := by
    rw [hcomment]
    exact h.ne_nil
  rw [content?, Line.isIgnorable_of_stripComment_ne_nil hne, if_neg Bool.false_ne_true, hcomment,
    indent, Text.blankWidth_append (Text.allBlank_replicate column) h.tight.1,
    List.length_replicate]

theorem isItem_pairText {key : Text} (hkey : IsKey key) (column : Nat) (value : Text) :
    (⟨column, pairText key value⟩ : Content).isItem = false := by
  obtain ⟨hne, hplain⟩ := hkey
  match key, hne, hplain with
  | [c], _, _ => simp [Content.isItem, pairText, List.isPrefixOf]
  | c :: d :: rest, _, hplain =>
    have hd : d ≠ ' ' := by
      rintro rfl
      exact absurd (hplain ' ' (by simp)).1 (by decide)
    simp [Content.isItem, pairText, List.isPrefixOf, hd.symm]

theorem isItem_dash (column : Nat) (text : Text) :
    (⟨column, '-' :: ' ' :: text⟩ : Content).isItem = true := by
  simp [Content.isItem, List.isPrefixOf]

/-! ### Frames that close -/

variable {tree : Node} {column : Nat} {isItem : Bool} {above base : List Frame}

theorem unwind_append (habove : ∀ frame ∈ above, frame.holds tree column isItem = false)
    (hbase : ∀ frame, base.head? = some frame → frame.holds tree column isItem = true) :
    unwind tree column isItem (above ++ base) = base := by
  rw [unwind, List.dropWhile_append_of_pos (fun frame hframe => by simp [habove frame hframe])]
  cases base with
  | nil => rfl
  | cons frame rest =>
    exact List.dropWhile_cons_of_neg (by simp [hbase frame rfl])

/-- A frame that closes for every pair in a column. -/
def Frame.ClosesForPair (column : Nat) (frame : Frame) : Prop := column ≤ frame.column

/-- A frame that closes for every list item in a column. -/
def Frame.ClosesForItem (column : Nat) (frame : Frame) : Prop :=
  column < frame.column ∨ column = frame.column ∧ frame.scope.key = none

theorem Frame.ClosesForPair.holds_eq {frame : Frame} (h : frame.ClosesForPair column)
    (tree : Node) : frame.holds tree column false = false := by
  have hle : ¬frame.column < column := Nat.not_lt.mpr h
  simp [Frame.holds, hle]

theorem Frame.ClosesForItem.holds_eq {frame : Frame} (h : frame.ClosesForItem column)
    (tree : Node) : frame.holds tree column true = false := by
  rcases h with hlt | ⟨heq, hkey⟩
  · have hne : frame.column ≠ column := Nat.ne_of_gt hlt
    simp [Frame.holds, Nat.le_of_lt hlt, hne]
  · simp [Frame.holds, Frame.takesItems, hkey, heq]

theorem Frame.ClosesForItem.closesForPair {frame : Frame} (h : frame.ClosesForItem column) :
    frame.ClosesForPair column := by
  rcases h with hlt | ⟨heq, -⟩
  · exact Nat.le_of_lt hlt
  · exact Nat.le_of_eq heq

/-! ### The last entry and the last item -/

section

variable {address : Address} {entries : List (Entry Node)} {line : Option Int} {key : Text}

theorem at?_assigned (hat : tree.at? address = some (.mapping entries line))
    (hkey : key ∉ Entries.keys entries) (keyLine : Option Int) (value : Node) :
    (tree.put address (.mapping (entries ++ [⟨key, keyLine, value⟩]) line)).at?
      (address ++ [.key key]) = some value := by
  rw [Node.at?_put_append hat, Node.at?_key hkey]

theorem put_assigned (hkey : key ∉ Entries.keys entries) (keyLine : Option Int)
    (value other : Node) :
    (tree.put address (.mapping (entries ++ [⟨key, keyLine, value⟩]) line)).put
        (address ++ [.key key]) other =
      tree.put address (.mapping (entries ++ [⟨key, keyLine, other⟩]) line) := by
  rw [Node.put_append, Node.put_key hkey]

theorem at?_appended {owner : Address} {node : Node}
    (hat : tree.at? (owner ++ [.key key]) = some node) (items : List Node) (item : Node)
    (line : Option Int) :
    (tree.put (owner ++ [.key key]) (.sequence (items ++ [item]) line)).at?
      (owner ++ [.key key, .item items.length]) = some item := by
  rw [List.append_cons owner (.key key) [.item items.length], Node.at?_put_append hat,
    Node.at?_item]

theorem put_appended (owner : Address) (items : List Node) (item other : Node)
    (line : Option Int) :
    (tree.put (owner ++ [.key key]) (.sequence (items ++ [item]) line)).put
        (owner ++ [.key key, .item items.length]) other =
      tree.put (owner ++ [.key key]) (.sequence (items ++ [other]) line) := by
  rw [List.append_cons owner (.key key) [.item items.length], Node.put_append, Node.put_item]

end

/-! ### Pairs -/

/-- Frames that take the pairs in a column into the mapping at an address. -/
structure Encloses (base : List Frame) (column : Nat) (address : Address) : Prop where
  deeper : ∀ frame, base.head? = some frame → frame.column < column
  not_block : (currentScope base).isBlock = false
  target : (currentScope base).target = address

namespace State

variable {state : State} {address : Address} {number : Int} {key text : Text} {value : LineValue}

/-- The frames that a value opens for the lines below it. -/
def framesBelow (address : Address) (key : Text) (column : Nat) : LineValue → List Frame
  | .nested => [⟨column, ⟨address, some key, false⟩⟩]
  | .block => [⟨column, ⟨address, some key, true⟩⟩]
  | .scalar _ => []

/-- What a value is as long as no line below it has been read. -/
def nodeOfReading (number : Int) : LineValue → Node
  | .nested => .mapping [] (some number)
  | .block => .scalar (.str []) (some number)
  | .scalar scalar => .scalar scalar (some number)

/-- Assigning a key sets it in its mapping and opens the frames of its value. -/
theorem assign_eq_put {entries : List (Entry Node)} {line : Option Int}
    (hat : state.tree.at? address = some (.mapping entries line)) (key : Text)
    (value : LineValue) (column : Nat) (number : Int) :
    state.assign address key value column number =
      ⟨state.tree.put address
        (.mapping (Entries.set key (nodeOfReading number value) (some number) entries) line),
        framesBelow address key column value ++ state.frames, state.skipped⟩ := by
  have hput (node : Node) :
      state.tree.modifyAt (fun owner => owner.set key node (some number)) address =
        state.tree.put address (.mapping (Entries.set key node (some number) entries) line) := by
    rw [Node.modifyAt_eq_put hat, Node.set]
  cases value with
  | nested =>
    simp only [assign, hput]
    rfl
  | block =>
    simp only [assign, hput]
    rfl
  | scalar scalar =>
    simp only [assign, hput]
    rfl

/-- Assigning a key that is not there appends an entry. -/
theorem assign_eq {entries : List (Entry Node)} {line : Option Int}
    (hat : state.tree.at? address = some (.mapping entries line))
    (hkey : key ∉ Entries.keys entries) (value : LineValue) (column : Nat) (number : Int) :
    state.assign address key value column number =
      ⟨state.tree.put address
        (.mapping (entries ++ [⟨key, some number, nodeOfReading number value⟩]) line),
        framesBelow address key column value ++ state.frames, state.skipped⟩ := by
  rw [assign_eq_put hat, Entries.set_of_not_mem hkey]

/-- A written pair is assigned in the mapping that the remaining frames lead to. -/
theorem step_pairText (hkey : IsKey key) (htext : text = [] ∨ IsContent text)
    (hread : Line.readValue text = .ok value) (hframes : state.frames = above ++ base)
    (habove : ∀ frame ∈ above, frame.ClosesForPair column) (hbase : Encloses base column address)
    {entries : List (Entry Node)} {line : Option Int}
    (hat : state.tree.at? address = some (.mapping entries line)) :
    state.step (indent column (pairText key text)) number =
      .ok ({ state with frames := base }.assign address key value column number) := by
  have hunwind : unwind state.tree column false state.frames = base := by
    rw [hframes]
    refine unwind_append (fun frame hframe => (habove frame hframe).holds_eq state.tree) ?_
    intro frame hframe
    simp [Frame.holds, hbase.deeper frame hframe]
  rw [step, content?_indent (Line.isContent_pairText hkey htext)]
  simp only [place, isItem_pairText hkey, hunwind, hbase.not_block, Bool.false_eq_true, if_false,
    addPair, hbase.target, Line.splitPair_pairText hkey htext, hat, hread]
  rfl

/-! ### Items -/

/-- What a list item on line `number` finds in the place of its sequence: an empty mapping,
    where it starts the sequence, or the items so far. -/
inductive OpensAs (number : Int) : Node → List Node → Option Int → Prop
  | start (line : Option Int) : OpensAs number (.mapping [] line) [] (some number)
  | resume (items : List Node) (line : Option Int) :
      OpensAs number (.sequence items line) items line

variable {owner : Address} {listKey : Text} {keyColumn : Nat} {node : Node} {items : List Node}
  {line : Option Int}

theorem OpensAs.takesItems_eq (h : OpensAs number node items line) : takesItems node = true := by
  cases h <;> rfl

theorem openSequence?_eq (hat : tree.at? (owner ++ [.key listKey]) = some node)
    (h : OpensAs number node items line) (frames : List Frame) (skipped : List Skip) :
    openSequence? owner listKey number ⟨tree, frames, skipped⟩ =
      some (⟨tree.put (owner ++ [.key listKey]) (.sequence items line), frames, skipped⟩,
        items.length) := by
  cases h with
  | resume => rw [openSequence?, hat, Node.put_self hat]
  | start line =>
    -- the empty mapping is replaced by way of its owner, which is a mapping with that key
    have hput : tree.modifyAt
        (fun owner => owner.set listKey (.sequence [] (some number)) none) owner =
          tree.put (owner ++ [.key listKey]) (.sequence [] (some number)) := by
      obtain ⟨entries, ownerLine, howner, hget⟩ := Node.exists_mapping_of_at?_key hat
      rw [Node.put, Node.modifyAt_append]
      refine Node.modifyAt_congr howner ?_
      exact congrArg (Node.mapping · ownerLine) (Entries.set_none hget)
    rw [openSequence?, hat]
    simp only [hput]
    rfl

/-- The frame of a key whose value takes list items stays open for them. -/
theorem unwind_item (hat : state.tree.at? (owner ++ [.key listKey]) = some node)
    (hnode : takesItems node = true) (hcolumn : keyColumn ≤ column)
    (hframes : state.frames = above ++ ⟨keyColumn, ⟨owner, some listKey, false⟩⟩ :: base)
    (habove : ∀ frame ∈ above, frame.ClosesForItem column) :
    unwind state.tree column true state.frames =
      ⟨keyColumn, ⟨owner, some listKey, false⟩⟩ :: base := by
  rw [hframes]
  refine unwind_append (fun frame hframe => (habove frame hframe).holds_eq state.tree) ?_
  rintro frame ⟨⟩
  rcases Nat.lt_or_eq_of_le hcolumn with hlt | heq
  · simp [Frame.holds, hlt]
  · subst heq
    have htakes : (⟨keyColumn, ⟨owner, some listKey, false⟩⟩ : Frame).takesItems state.tree =
        true := by
      rw [Frame.takesItems]
      simp only [Scope.target, hat, hnode]
    simp [Frame.holds, htakes]

theorem appendItem_put (hat : tree.at? (owner ++ [.key listKey]) = some node) (items : List Node)
    (line : Option Int) (item : Node) (frames : List Frame) (skipped : List Skip) :
    appendItem owner listKey item
        ⟨tree.put (owner ++ [.key listKey]) (.sequence items line), frames, skipped⟩ =
      ⟨tree.put (owner ++ [.key listKey]) (.sequence (items ++ [item]) line), frames, skipped⟩ := by
  rw [appendItem, Node.modifyAt_eq_put (Node.at?_put hat _), Node.put_put]
  rfl

/-- A text behind a dash becomes an item of the sequence. -/
theorem step_textItem (htext : IsPlainText text) (hpair : HoldsNoPair text)
    (hat : state.tree.at? (owner ++ [.key listKey]) = some node)
    (hopens : OpensAs number node items line) (hcolumn : keyColumn ≤ column)
    (hframes : state.frames = above ++ ⟨keyColumn, ⟨owner, some listKey, false⟩⟩ :: base)
    (habove : ∀ frame ∈ above, frame.ClosesForItem column) :
    state.step (indent column ('-' :: ' ' :: text)) number =
      .ok ⟨state.tree.put (owner ++ [.key listKey])
          (.sequence (items ++ [.scalar (.str text) (some number)]) line),
        ⟨keyColumn, ⟨owner, some listKey, false⟩⟩ :: base, state.skipped⟩ := by
  have hunwind := unwind_item hat hopens.takesItems_eq hcolumn hframes habove
  have hne : text.isEmpty = false := by simpa using htext.1
  have hsplit : Line.splitPair text = none :=
    Line.splitPair_of_cut_none htext.head (Line.cutAtColon?_eq_none_iff.mpr hpair)
  rw [step, content?_indent (isContent_dash htext.isContent)]
  simp only [place, isItem_dash, hunwind, currentScope, Bool.false_eq_true, if_false, if_true,
    addItem, openSequence?_eq hat hopens, List.drop_one, List.tail_cons,
    htext.isContent.trim_space, hne, hsplit,
    Line.stripQuotes_of_head htext.head]
  exact congrArg Except.ok (appendItem_put hat _ _ _ _ _)

/-- A pair behind a dash becomes the first entry of an item, two columns to the right. -/
theorem step_mappingItem (hkey : IsKey key) (htext : text = [] ∨ IsContent text)
    (hread : Line.readValue text = .ok value)
    (hat : state.tree.at? (owner ++ [.key listKey]) = some node)
    (hopens : OpensAs number node items line) (hcolumn : keyColumn ≤ column)
    (hframes : state.frames = above ++ ⟨keyColumn, ⟨owner, some listKey, false⟩⟩ :: base)
    (habove : ∀ frame ∈ above, frame.ClosesForItem column) :
    state.step (indent column ('-' :: ' ' :: pairText key text)) number =
      .ok (assign (owner ++ [.key listKey, .item items.length]) key value (column + 2) number
        ⟨state.tree.put (owner ++ [.key listKey])
            (.sequence (items ++ [.mapping [] (some number)]) line),
          ⟨column, ⟨owner ++ [.key listKey, .item items.length], none, false⟩⟩ ::
            ⟨keyColumn, ⟨owner, some listKey, false⟩⟩ :: base, state.skipped⟩) := by
  have hunwind := unwind_item hat hopens.takesItems_eq hcolumn hframes habove
  have hcontent := Line.isContent_pairText hkey htext
  have hne : (pairText key text).isEmpty = false := by simpa using hcontent.ne_nil
  rw [step, content?_indent (isContent_dash hcontent)]
  simp only [place, isItem_dash, hunwind, currentScope, Bool.false_eq_true, if_false, if_true,
    addItem, openSequence?_eq hat hopens, List.drop_one, List.tail_cons, hcontent.trim_space, hne,
    Line.splitPair_pairText hkey htext, hread, hcontent.blankWidth_space, appendItem_put hat,
    push, Except.map]

/-! ### Bodies of block scalars -/

/-- A line that is deeper than the key of a block scalar, or blank or a comment, changes
    nothing. -/
theorem step_script {frame : Frame} (hblock : frame.scope.isBlock = true)
    (hframes : state.frames = frame :: base) {line : Text}
    (hline : isIgnorable line = true ∨ frame.column < Text.blankWidth line) :
    state.step line number = .ok state := by
  rw [step, content?]
  cases hignorable : isIgnorable line with
  | true => rfl
  | false =>
    have hdeep : frame.column < Text.blankWidth line := by simpa [hignorable] using hline
    have hunwind (isItem : Bool) :
        unwind state.tree (Text.blankWidth line) isItem state.frames = state.frames := by
      rw [hframes]
      exact List.dropWhile_cons_of_neg (by simp [Frame.holds, hdeep])
    have hscope : (currentScope state.frames).isBlock = true := by
      rw [hframes]
      exact hblock
    simp only [Bool.false_eq_true, if_false, place, hunwind, hscope, if_true]

theorem step_ignorable {line : Text} (h : isIgnorable line = true) :
    state.step line number = .ok state := by
  rw [step, content?, if_pos h]

/-! ### Runs of lines -/

theorem run_append (lines more : List Text) (number : Int) (state : State) :
    state.run (lines ++ more) number =
      (state.run lines number).bind (run more (number + lines.length)) := by
  induction lines generalizing number state with
  | nil => simp [run, Except.bind]
  | cons line lines ih =>
    rw [List.cons_append, run, run]
    cases hstep : state.step line number with
    | error fault => rfl
    | ok next =>
      simp only [Except.bind, ih, List.length_cons]
      rw [show number + 1 + (lines.length : Int) = number + (lines.length + 1 : Nat) by
        rw [Int.natCast_add]; omega]

/-- What holds at the start of a pass and is kept by each line that is read holds after any
    lines. -/
theorem run_induction {motive : List Text → State → Prop} (hinitial : motive [] initial)
    (hnext : ∀ {lines : List Text} {state next : State} {line : Text}, motive lines state →
      initial.run lines 1 = .ok state → state.step line (1 + lines.length) = .ok next →
        motive (lines ++ [line]) next)
    {lines : List Text} {state : State} (h : initial.run lines 1 = .ok state) :
    motive lines state := by
  -- the last line decides, so the induction takes the lines from the end
  induction lines using List.reverseRecOn generalizing state with
  | nil =>
    cases h
    exact hinitial
  | append_singleton lines line ih =>
    rw [run_append] at h
    cases hrun : initial.run lines 1 with
    | error fault => simp [hrun, Except.bind] at h
    | ok last =>
      have hstep : last.step line (1 + lines.length) = .ok state := by
        simp only [hrun, Except.bind, run] at h
        cases hlast : last.step line (1 + lines.length) with
        | error fault => simp [hlast] at h
        | ok next => simpa [hlast] using h
      exact hnext (ih hrun) hrun hstep

theorem run_of_step {lines : List Text} {state : State}
    (h : ∀ line ∈ lines, ∀ number, state.step line number = .ok state) (number : Int) :
    state.run lines number = .ok state := by
  induction lines generalizing number with
  | nil => rfl
  | cons line lines ih =>
    rw [run, h line (List.mem_cons_self ..)]
    exact ih (fun other hother => h other (List.mem_cons_of_mem _ hother)) (number + 1)

end State

end WorkflowLint.Outline
