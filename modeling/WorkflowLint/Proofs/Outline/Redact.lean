/-
  WorkflowLint/Proofs/Outline/Redact.lean
  =======================================
  **Reading lines up to some of their texts.**

  Where a line goes in the tree depends on its column, its keys and its kind, but
  not on the strings read so far nor on the string it holds.  Two passes over
  lines that only differ in strings on hidden lines therefore keep the same open
  frames and build trees with the same redaction (`place_congr`).
-/
import WorkflowLint.Outline.Parse
import WorkflowLint.Proofs.Tree.Redact

namespace WorkflowLint

/-- A value of a line without its text, if it is a string and hidden. -/
def LineValue.redact (hidden : Bool) : LineValue → LineValue
  | .scalar value => .scalar (if hidden then value.redact else value)
  | value => value

namespace Outline

/-! ### Frames -/

theorem takesItems_redact (hidden : Int → Bool) (node : Node) :
    takesItems (node.redact hidden) = takesItems node := by
  cases node with
  | scalar value line => rw [Node.redact_scalar]; rfl
  | sequence items line => rw [Node.redact_sequence]; rfl
  | mapping entries line =>
    rw [Node.redact_mapping]
    cases entries <;> rfl

theorem Frame.takesItems_redact (hidden : Int → Bool) (tree : Node) (frame : Frame) :
    frame.takesItems (tree.redact hidden) = frame.takesItems tree := by
  rw [Frame.takesItems, Frame.takesItems, Node.at?_redact]
  cases tree.at? frame.scope.target with
  | none => rfl
  | some node =>
    simp only [Option.map_some, Outline.takesItems_redact]

theorem unwind_redact (hidden : Int → Bool) (tree : Node) (column : Nat) (isItem : Bool)
    (frames : List Frame) :
    unwind (tree.redact hidden) column isItem frames = unwind tree column isItem frames := by
  rw [unwind, unwind]
  congr 1
  funext frame
  rw [Frame.holds, Frame.holds, Frame.takesItems_redact]

namespace State

/-- The state with the strings from hidden lines blanked and without the lines skipped. -/
def redact (hidden : Int → Bool) (state : State) : State :=
  ⟨state.tree.redact hidden, state.frames, []⟩

variable {hidden : Int → Bool} {state other : State}

theorem tree_eq_of_redact_eq (h : state.redact hidden = other.redact hidden) :
    state.tree.redact hidden = other.tree.redact hidden := congrArg State.tree h

theorem frames_eq_of_redact_eq (h : state.redact hidden = other.redact hidden) :
    state.frames = other.frames := by
  injection h

theorem redact_eq_of_eq (htree : state.tree.redact hidden = other.tree.redact hidden)
    (hframes : state.frames = other.frames) : state.redact hidden = other.redact hidden := by
  rw [redact, redact, htree, hframes]

theorem withFrames_congr (h : state.redact hidden = other.redact hidden) (frames : List Frame) :
    ({ state with frames := frames } : State).redact hidden =
      ({ other with frames := frames } : State).redact hidden := by
  rw [redact, redact]
  simp only [tree_eq_of_redact_eq h]

/-! ### Changing alike states alike -/

theorem push_congr (h : state.redact hidden = other.redact hidden) (column : Nat)
    (scope : Scope) : (state.push column scope).redact hidden =
      (other.push column scope).redact hidden := by
  rw [push, push, frames_eq_of_redact_eq h]
  exact withFrames_congr h _

/-- Two changes that come to the same change of a redacted tree. -/
theorem modifyTree_congr (h : state.redact hidden = other.redact hidden)
    (redacted : Node → Node) {change change' : Node → Node}
    (hchange : ∀ node, (change node).redact hidden = redacted (node.redact hidden))
    (hchange' : ∀ node, (change' node).redact hidden = redacted (node.redact hidden))
    (address : Address) :
    ({ state with tree := Node.modifyAt change address state.tree } : State).redact hidden =
      ({ other with tree := Node.modifyAt change' address other.tree } : State).redact hidden := by
  refine redact_eq_of_eq ?_ (show state.frames = other.frames from frames_eq_of_redact_eq h)
  simp only
  rw [Node.modifyAt_redact hidden hchange, Node.modifyAt_redact hidden hchange',
    tree_eq_of_redact_eq h]

theorem assign_congr (h : state.redact hidden = other.redact hidden) {value value' : LineValue}
    {number : Int} (hvalue : value.redact (hidden number) = value'.redact (hidden number))
    (target : Address) (key : Text) (column : Nat) :
    (state.assign target key value column number).redact hidden =
      (other.assign target key value' column number).redact hidden := by
  have hput {node node' : Node} (hnode : node.redact hidden = node'.redact hidden) :
      ({ state with
          tree := Node.modifyAt (fun owner => owner.set key node (some number)) target state.tree }
        : State).redact hidden =
      ({ other with
          tree := Node.modifyAt (fun owner => owner.set key node' (some number)) target other.tree }
        : State).redact hidden := by
    refine modifyTree_congr h (fun owner => owner.set key (node.redact hidden) (some number))
      (fun owner => Node.set_redact hidden owner key node (some number)) ?_ target
    intro owner
    rw [hnode]
    exact Node.set_redact hidden owner key node' (some number)
  cases value with
  | nested =>
    cases value' with
    | nested => exact push_congr (hput rfl) _ _
    | block => exact absurd hvalue (by simp [LineValue.redact])
    | scalar scalar => exact absurd hvalue (by simp [LineValue.redact])
  | block =>
    cases value' with
    | nested => exact absurd hvalue (by simp [LineValue.redact])
    | block => exact push_congr (hput rfl) _ _
    | scalar scalar => exact absurd hvalue (by simp [LineValue.redact])
  | scalar scalar =>
    cases value' with
    | nested => exact absurd hvalue (by simp [LineValue.redact])
    | block => exact absurd hvalue (by simp [LineValue.redact])
    | scalar scalar' =>
      refine hput ?_
      rw [LineValue.redact, LineValue.redact, LineValue.scalar.injEq] at hvalue
      rw [Node.redact_scalar, Node.redact_scalar, Option.any_some, hvalue]

theorem appendItem_congr (h : state.redact hidden = other.redact hidden) {item item' : Node}
    (hitem : item.redact hidden = item'.redact hidden) (owner : Address) (key : Text) :
    (state.appendItem owner key item).redact hidden =
      (other.appendItem owner key item').redact hidden := by
  refine modifyTree_congr h (fun node => node.append (item.redact hidden))
    (fun node => Node.append_redact hidden node item) ?_ _
  intro node
  rw [hitem]
  exact Node.append_redact hidden node item'

theorem at?_congr (h : state.redact hidden = other.redact hidden) (address : Address) :
    (state.tree.at? address).map (Node.redact hidden) =
      (other.tree.at? address).map (Node.redact hidden) := by
  rw [← Node.at?_redact, ← Node.at?_redact, tree_eq_of_redact_eq h]

theorem openSequence?_congr (h : state.redact hidden = other.redact hidden) (owner : Address)
    (key : Text) (number : Int) :
    (state.openSequence? owner key number).map (fun pair => (pair.1.redact hidden, pair.2)) =
      (other.openSequence? owner key number).map fun pair => (pair.1.redact hidden, pair.2) := by
  have hset (node : Node) : (node.set key (.sequence [] (some number)) none).redact hidden =
      (node.redact hidden).set key (.sequence [] (some number)) none := by
    simp [Node.set_redact]
  have hput := modifyTree_congr h (fun node => node.set key (.sequence [] (some number)) none)
    hset hset owner
  have hat := at?_congr h (owner ++ [.key key])
  rw [openSequence?, openSequence?]
  cases hstate : state.tree.at? (owner ++ [.key key]) with
  | none =>
    cases hother : other.tree.at? (owner ++ [.key key]) with
    | none => simp [hput]
    | some node => simp [hstate, hother] at hat
  | some node =>
    cases hother : other.tree.at? (owner ++ [.key key]) with
    | none => simp [hstate, hother] at hat
    | some node' =>
      rw [hstate, hother, Option.map_some, Option.map_some, Option.some_inj] at hat
      cases node with
      | scalar value line =>
        cases node' with
        | scalar value' line' => simp [hput]
        | sequence items line => simp at hat
        | mapping entries line => simp at hat
      | sequence items line =>
        cases node' with
        | scalar value line => simp at hat
        | sequence items' line' =>
          rw [Node.redact_sequence, Node.redact_sequence, Node.sequence.injEq] at hat
          have hlength := congrArg List.length hat.1
          rw [List.length_map, List.length_map] at hlength
          simp [h, hlength]
        | mapping entries line => simp at hat
      | mapping entries line =>
        cases node' with
        | scalar value line => simp at hat
        | sequence items line => simp at hat
        | mapping entries' line' =>
          rw [Node.redact_mapping, Node.redact_mapping, Node.mapping.injEq] at hat
          cases entries with
          | nil =>
            cases entries' with
            | nil => simp [hput]
            | cons entry rest => simp at hat
          | cons entry rest =>
            cases entries' with
            | nil => simp at hat
            | cons entry' rest' => rfl

end State

/-! ### Alike contents -/

/-- The pair that a text holds, up to its value if that is a hidden string. -/
def pairOf (hidden : Bool) (text : Text) : Option (Text × Except ParseError LineValue) :=
  (Line.splitPair text).map fun pair =>
    (pair.1, (Line.readValue pair.2).map (LineValue.redact hidden))

/-- Contents that only differ in a string, if that is hidden.  Where a content is read as a pair
    or as an item, the other one is read so too. -/
structure Content.Alike (hidden : Bool) (content other : Content) : Prop where
  column_eq : other.column = content.column
  isItem_eq : other.isItem = content.isItem
  pair_eq : content.isItem = false → pairOf hidden other.text = pairOf hidden content.text
  width_eq : content.isItem = true →
    Text.blankWidth (other.text.drop 1) = Text.blankWidth (content.text.drop 1)
  isEmpty_eq : content.isItem = true →
    (Text.trim (other.text.drop 1)).isEmpty = (Text.trim (content.text.drop 1)).isEmpty
  itemPair_eq : content.isItem = true →
    pairOf hidden (Text.trim (other.text.drop 1)) = pairOf hidden (Text.trim (content.text.drop 1))
  item_eq : content.isItem = true → hidden = false →
    Text.trim (other.text.drop 1) = Text.trim (content.text.drop 1)

theorem Content.Alike.refl (hidden : Bool) (content : Content) : content.Alike hidden content :=
  ⟨rfl, rfl, fun _ => rfl, fun _ => rfl, fun _ => rfl, fun _ => rfl, fun _ _ => rfl⟩

/-- Outcomes that look alike lead to results that look alike. -/
theorem bind_congr_of_map_eq {ε α β γ δ : Type} {front back : Except ε α} {look : α → β}
    (h : front.map look = back.map look) {f f' : α → Except ε γ} {look' : γ → δ}
    (hf : ∀ a a', look a = look a' → (f a).map look' = (f' a').map look') :
    (front.bind f).map look' = (back.bind f').map look' := by
  cases front with
  | error e =>
    cases back with
    | error e' =>
      rw [Except.map, Except.map, Except.error.injEq] at h
      rw [h]
      rfl
    | ok b => simp [Except.map] at h
  | ok a =>
    cases back with
    | error e' => simp [Except.map] at h
    | ok b =>
      rw [Except.map, Except.map, Except.ok.injEq] at h
      exact hf a b h

theorem map_eq_bind {ε α β : Type} (result : Except ε α) (f : α → β) :
    result.map f = result.bind fun a => .ok (f a) := by
  cases result <;> rfl

theorem map_map_congr {ε α β γ δ : Type} {front back : Except ε α} {look : α → β}
    (h : front.map look = back.map look) {f f' : α → γ} {look' : γ → δ}
    (hf : ∀ a a', look a = look a' → look' (f a) = look' (f' a')) :
    (front.map f).map look' = (back.map f').map look' := by
  rw [map_eq_bind front, map_eq_bind back]
  exact bind_congr_of_map_eq h fun a a' hlook => congrArg Except.ok (hf a a' hlook)

namespace State

variable {hidden : Int → Bool} {state other : State} {number : Int} {content content' : Content}

theorem skip_congr (h : state.redact hidden = other.redact hidden) (number : Int)
    (content content' : Content) :
    (state.skip number content).redact hidden = (other.skip number content').redact hidden :=
  h

theorem addPair_congr (h : state.redact hidden = other.redact hidden) (scope : Scope)
    (hcolumn : content'.column = content.column)
    (hpair : pairOf (hidden number) content'.text = pairOf (hidden number) content.text) :
    (state.addPair scope content number).map (redact hidden) =
      (other.addPair scope content' number).map (redact hidden) := by
  have hat := at?_congr h scope.target
  have hskip := skip_congr h number content content'
  rw [pairOf, pairOf] at hpair
  rw [addPair, addPair]
  cases hsplit : Line.splitPair content.text with
  | none =>
    rw [hsplit] at hpair
    rw [Option.map_none, Option.map_eq_none_iff] at hpair
    rw [hpair]
    exact congrArg Except.ok hskip
  | some pair =>
    rw [hsplit, Option.map_some] at hpair
    obtain ⟨pair', hsplit', hpair⟩ := Option.map_eq_some_iff.mp hpair
    rw [Prod.mk.injEq] at hpair
    rw [hsplit']
    cases hstate : state.tree.at? scope.target with
    | none =>
      rw [hstate, Option.map_none, eq_comm, Option.map_eq_none_iff] at hat
      rw [hat]
      exact congrArg Except.ok hskip
    | some node =>
      rw [hstate, Option.map_some, eq_comm] at hat
      obtain ⟨node', hother, hat⟩ := Option.map_eq_some_iff.mp hat
      rw [hother]
      cases node with
      | scalar value line =>
        cases node' with
        | scalar value' line' => exact congrArg Except.ok hskip
        | sequence items line => simp at hat
        | mapping entries line => simp at hat
      | sequence items line =>
        cases node' with
        | scalar value' line' => simp at hat
        | sequence items' line' => exact congrArg Except.ok hskip
        | mapping entries line => simp at hat
      | mapping entries line =>
        cases node' with
        | scalar value' line' => simp at hat
        | sequence items' line' => simp at hat
        | mapping entries' line' =>
          refine map_map_congr hpair.2.symm fun value value' hvalue => ?_
          rw [hpair.1, hcolumn]
          exact assign_congr h hvalue _ _ _

theorem addItem_congr (h : state.redact hidden = other.redact hidden) (scope : Scope)
    (hcontent : content.Alike (hidden number) content') (hitem : content.isItem = true) :
    (state.addItem scope content number).map (redact hidden) =
      (other.addItem scope content' number).map (redact hidden) := by
  rw [addItem, addItem]
  cases scope.key with
  | none => exact congrArg Except.ok h
  | some listKey =>
    simp only
    have hopen := openSequence?_congr h scope.owner listKey number
    cases hstate : state.openSequence? scope.owner listKey number with
    | none =>
      rw [hstate, Option.map_none, eq_comm, Option.map_eq_none_iff] at hopen
      rw [hopen]
      exact congrArg Except.ok h
    | some opened =>
      rw [hstate, Option.map_some, eq_comm] at hopen
      obtain ⟨opened', hother, hopen⟩ := Option.map_eq_some_iff.mp hopen
      obtain ⟨state, index⟩ := opened
      obtain ⟨other, index'⟩ := opened'
      obtain ⟨hopen, rfl⟩ := Prod.mk.inj hopen
      have hmapping {column : Nat} {address : Address} :
          ((other.appendItem scope.owner listKey (.mapping [] (some number))).push column
            ⟨address, none, false⟩).redact hidden =
          ((state.appendItem scope.owner listKey (.mapping [] (some number))).push column
            ⟨address, none, false⟩).redact hidden :=
        push_congr (appendItem_congr hopen rfl _ _) _ _
      have hpair := hcontent.itemPair_eq hitem
      rw [pairOf, pairOf] at hpair
      rw [hother]
      simp only [hcontent.isEmpty_eq hitem, hcontent.column_eq, hcontent.width_eq hitem]
      split
      · exact congrArg Except.ok hmapping.symm
      · cases hsplit : Line.splitPair (Text.trim (content.text.drop 1)) with
        | none =>
          rw [hsplit, Option.map_none, Option.map_eq_none_iff] at hpair
          rw [hpair]
          refine congrArg Except.ok (appendItem_congr hopen.symm ?_ _ _)
          rw [Node.redact_scalar, Node.redact_scalar, Option.any_some]
          cases hhidden : hidden number with
          | true => rfl
          | false => rw [hcontent.item_eq hitem hhidden]
        | some pair =>
          rw [hsplit, Option.map_some] at hpair
          obtain ⟨pair', hsplit', hpair⟩ := Option.map_eq_some_iff.mp hpair
          rw [Prod.mk.injEq] at hpair
          rw [hsplit']
          refine map_map_congr hpair.2.symm fun value value' hvalue => ?_
          rw [hpair.1]
          exact assign_congr hmapping.symm hvalue _ _ _

/-- Alike contents are placed alike. -/
theorem place_congr (h : state.redact hidden = other.redact hidden)
    (hcontent : content.Alike (hidden number) content') :
    (state.place content number).map (redact hidden) =
      (other.place content' number).map (redact hidden) := by
  -- which frames close depends on the shape of the tree, and that is the same
  have hframes : unwind other.tree content.column content.isItem other.frames =
      unwind state.tree content.column content.isItem state.frames := by
    rw [← unwind_redact hidden other.tree, ← tree_eq_of_redact_eq h, unwind_redact,
      frames_eq_of_redact_eq h]
  rw [place, place]
  simp only [hcontent.column_eq, hcontent.isItem_eq, hframes]
  have hstate := withFrames_congr h
    (unwind state.tree content.column content.isItem state.frames)
  split
  · exact congrArg Except.ok hstate
  · split
    · rename_i hitem
      exact addItem_congr hstate _ hcontent hitem
    · rename_i hitem
      exact addPair_congr hstate _ hcontent.column_eq
        (hcontent.pair_eq (Bool.eq_false_iff.mpr hitem))

/-- Lines with alike contents are handled alike. -/
theorem step_congr (h : state.redact hidden = other.redact hidden) {line line' : Text}
    (hline : content? line = some content) (hline' : content? line' = some content')
    (hcontent : content.Alike (hidden number) content') :
    (state.step line number).map (redact hidden) =
      (other.step line' number).map (redact hidden) := by
  rw [step, step, hline, hline']
  exact place_congr h hcontent

/-- A line is handled alike in alike states. -/
theorem step_congr_self (h : state.redact hidden = other.redact hidden) {line line' : Text}
    (hline : content? line' = content? line) :
    (state.step line number).map (redact hidden) =
      (other.step line' number).map (redact hidden) := by
  cases hcontent : content? line with
  | none =>
    rw [step, step, hline, hcontent]
    exact congrArg Except.ok h
  | some content => exact step_congr h hcontent (hline.trans hcontent) (Content.Alike.refl _ _)

end State

end Outline

end WorkflowLint
