/-
  WorkflowLint/Proofs/Outline/Handling.lean
  =========================================
  **What a line does to the outline.**

  The frames of a pass name nodes by their addresses, so it has to be shown that these
  addresses keep leading to the nodes that the frames were opened for.  The invariant
  is `State.Sound`: each frame stands on a mapping that is there, with the value that
  its kind calls for, and each is opened at or below the value that the frame under it
  leads to.  So whatever a line writes lies below all frames that stay open, and every
  line does one of five things (`State.Handles`).
-/
import WorkflowLint.Proofs.Outline.Write

namespace WorkflowLint.Outline

open Line (isIgnorable)

/-! ### Frames that stand -/

/-- What the key of a scope may lead to: the empty string if the scope is the body of a block
    scalar, and a mapping or a sequence if not. -/
def Scope.Admits (scope : Scope) (node : Node) : Prop :=
  if scope.isBlock then ∃ line, node = .scalar (.str []) line
  else ∀ value line, node ≠ .scalar value line

theorem Scope.Admits.of_bare_eq {scope : Scope} {node other : Node} (h : scope.Admits node)
    (hbare : other.bare = node.bare) : scope.Admits other := by
  rw [Admits] at h ⊢
  by_cases hblock : scope.isBlock = true
  · rw [if_pos hblock] at h ⊢
    obtain ⟨line, rfl⟩ := h
    exact ⟨line, Node.bare_eq_scalar.mp hbare⟩
  · rw [if_neg hblock] at h ⊢
    rintro value line rfl
    exact h value line (Node.bare_eq_scalar.mp hbare.symm)

theorem Scope.admits_mapping {scope : Scope} (h : scope.isBlock = false)
    {entries : List (Entry Node)} {line : Option Int} : scope.Admits (.mapping entries line) := by
  rw [Admits, h, if_neg Bool.false_ne_true]
  rintro value line ⟨⟩

theorem Scope.admits_sequence {scope : Scope} (h : scope.isBlock = false)
    {items : List Node} {line : Option Int} : scope.Admits (.sequence items line) := by
  rw [Admits, h, if_neg Bool.false_ne_true]
  rintro value line ⟨⟩

/-- What a frame stands on: its owner is a mapping that is there, and its key, if it has one,
    leads to what its scope admits. -/
structure Frame.Stands (tree : Node) (frame : Frame) : Prop where
  owner : ∃ entries line, tree.at? frame.scope.owner = some (.mapping entries line)
  keyed : frame.scope.isBlock = true → frame.scope.key.isSome = true
  value : ∀ key, frame.scope.key = some key →
    ∃ node, tree.at? (frame.scope.owner ++ [.key key]) = some node ∧ frame.scope.Admits node

/-- The inner of two frames is opened at what the outer one leads to, or below it. -/
def Frame.IsInside (inner outer : Frame) : Prop := outer.scope.target <+: inner.scope.owner

/-- An address that goes on is not at or above where it comes from. -/
theorem not_concat_isPrefix {address other : Address} (h : other <+: address) (step : Step) :
    ¬address ++ [step] <+: other := by
  intro habove
  have hlength := (habove.trans h).length_le
  rw [List.length_append, List.length_singleton] at hlength
  omega

theorem Scope.owner_prefix_target (scope : Scope) : scope.owner <+: scope.target := by
  rw [Scope.target]
  split
  · exact List.prefix_refl _
  · exact List.prefix_append ..

/-! ### What a line is read as -/

/-- The text of a line, for a list item without the dash and the blanks after it. -/
def Content.field (content : Content) : Text :=
  if content.isItem then Text.trim (content.text.drop 1) else content.text

/-- The column of the text of a line, for a list item of what follows the dash. -/
def Content.fieldColumn (content : Content) : Nat :=
  if content.isItem then content.column + 1 + Text.blankWidth (content.text.drop 1)
  else content.column

theorem Content.field_eq_text {content : Content} (h : content.isItem = false) :
    content.field = content.text := by
  rw [Content.field, h, if_neg Bool.false_ne_true]

theorem Content.fieldColumn_eq_column {content : Content} (h : content.isItem = false) :
    content.fieldColumn = content.column := by
  rw [Content.fieldColumn, h, if_neg Bool.false_ne_true]

/-- What a list item becomes, and the frames that it opens. -/
inductive Content.Becomes (content : Content) (number : Int) (address : Address) :
    Node → List Frame → Prop
  | bare (hfield : content.field = []) :
      Becomes content number address (.mapping [] (some number))
        [⟨content.column, ⟨address, none, false⟩⟩]
  | text (hfield : content.field ≠ []) (hpair : Line.splitPair content.field = none) :
      Becomes content number address
        (.scalar (.str (Line.stripQuotes content.field)) (some number)) []
  | pair {key text : Text} {value : LineValue}
      (hpair : Line.splitPair content.field = some (key, text))
      (hread : Line.readValue text = .ok value) :
      Becomes content number address
        (.mapping [⟨key, some number, State.nodeOfReading number value⟩] (some number))
        (State.framesBelow address key content.fieldColumn value ++
          [⟨content.column, ⟨address, none, false⟩⟩])

namespace State

/-- The frames that stay open for a line. -/
def framesFor (state : State) (content : Content) : List Frame :=
  unwind state.tree content.column content.isItem state.frames

/-- The scope that a line belongs to. -/
def scopeFor (state : State) (content : Content) : Scope := currentScope (state.framesFor content)

/-- Whether a line has content that is reached while the innermost frame that stays open for it
    belongs to a block scalar. -/
def takesAsScript (state : State) (line : Text) : Bool :=
  (content? line).any fun content =>
    (currentScope (unwind state.tree content.column content.isItem state.frames)).isBlock

/-- What a line does: it is blank or a comment, script, or skipped, and leaves the tree as it is,
    or it sets a key of the mapping of its scope, or becomes an item of a sequence. -/
inductive Handles (state : State) (line : Text) (number : Int) : State → Prop
  | ignored (hcontent : content? line = none) : Handles state line number state
  | script {content : Content} (hcontent : content? line = some content)
      (hscript : (state.scopeFor content).isBlock = true) :
      Handles state line number { state with frames := state.framesFor content }
  | skipped {content : Content} (hcontent : content? line = some content)
      (hscript : (state.scopeFor content).isBlock = false)
      (hskip : content.isItem = true → ∀ owner key node items listLine,
        state.scopeFor content = ⟨owner, some key, false⟩ →
          state.tree.at? (owner ++ [.key key]) = some node →
            ¬OpensAs number node items listLine) :
      Handles state line number
        ({ state with frames := state.framesFor content }.skip number content)
  | pair {content : Content} {key text : Text} {value : LineValue} {entries : List (Entry Node)}
      {mapLine : Option Int} (hcontent : content? line = some content)
      (hscript : (state.scopeFor content).isBlock = false)
      (hpair : Line.splitPair content.field = some (key, text))
      (hread : Line.readValue text = .ok value)
      (hat : state.tree.at? (state.scopeFor content).target = some (.mapping entries mapLine))
      (hitem : content.isItem = false) :
      Handles state line number
        ⟨state.tree.put (state.scopeFor content).target
            (.mapping (Entries.set key (nodeOfReading number value) (some number) entries) mapLine),
          framesBelow (state.scopeFor content).target key content.fieldColumn value ++
            state.framesFor content, state.skipped⟩
  | item {content : Content} {owner : Address} {key : Text} {node item : Node}
      {items : List Node} {listLine : Option Int} {opened : List Frame}
      (hcontent : content? line = some content) (hitem : content.isItem = true)
      (hscope : state.scopeFor content = ⟨owner, some key, false⟩)
      (hat : state.tree.at? (owner ++ [.key key]) = some node)
      (hopens : OpensAs number node items listLine)
      (hbecomes : content.Becomes number (owner ++ [.key key, .item items.length]) item opened) :
      Handles state line number
        ⟨state.tree.put (owner ++ [.key key]) (.sequence (items ++ [item]) listLine),
          opened ++ state.framesFor content, state.skipped⟩

/-- The invariant of a pass. -/
structure Sound (state : State) : Prop where
  root : ∃ entries, state.tree = .mapping entries none
  stands : ∀ frame ∈ state.frames, frame.Stands state.tree
  nested : state.frames.Pairwise Frame.IsInside

theorem sound_initial : initial.Sound :=
  ⟨⟨[], rfl⟩, fun _ h => absurd h List.not_mem_nil, .nil⟩

variable {state next : State} {content : Content} {line : Text} {number : Int}

theorem content?_eq_none_iff : content? line = none ↔ isIgnorable line = true := by
  rw [content?]
  split
  · simp [*]
  · simp [*]

theorem takesAsScript_eq (hcontent : content? line = some content) :
    state.takesAsScript line = (state.scopeFor content).isBlock := by
  rw [takesAsScript, hcontent, Option.any_some]
  rfl

theorem framesFor_suffix (state : State) (content : Content) :
    state.framesFor content <:+ state.frames := List.dropWhile_suffix _

/-! ### Every line is handled -/

theorem handles_of_addPair (hcontent : content? line = some content)
    (hscript : (state.scopeFor content).isBlock = false) (hitem : content.isItem = false)
    (hadd : { state with frames := state.framesFor content }.addPair (state.scopeFor content)
      content number = .ok next) : state.Handles line number next := by
  have hfield := Content.field_eq_text hitem
  have hcolumn := Content.fieldColumn_eq_column hitem
  rw [addPair] at hadd
  split at hadd
  · rename_i key text entries mapLine hpair hat
    cases hread : Line.readValue text with
    | error fault => simp [hread, Except.map] at hadd
    | ok value =>
      rw [hread] at hadd
      cases hadd
      simp only
      rw [assign_eq_put hat, ← hcolumn]
      exact .pair hcontent hscript (hfield ▸ hpair) hread hat hitem
  · cases hadd
    refine .skipped hcontent hscript fun hdash => ?_
    rw [hitem] at hdash
    cases hdash

/-- The frame of a scope with a key is the innermost one. -/
theorem exists_frame_of_scopeFor {key : Text} (h : (state.scopeFor content).key = some key) :
    ∃ frame ∈ state.frames, frame.scope = state.scopeFor content := by
  rw [scopeFor] at h ⊢
  cases hframes : state.framesFor content with
  | nil =>
    rw [hframes] at h
    cases h
  | cons frame rest =>
    have hmem : frame ∈ state.framesFor content := hframes ▸ List.mem_cons_self ..
    exact ⟨frame, (state.framesFor_suffix content).mem hmem, rfl⟩

theorem handles_of_addItem (h : state.Sound) (hcontent : content? line = some content)
    (hscript : (state.scopeFor content).isBlock = false) (hitem : content.isItem = true)
    (hadd : { state with frames := state.framesFor content }.addItem (state.scopeFor content)
      content number = .ok next) : state.Handles line number next := by
  have hfield : content.field = Text.trim (content.text.drop 1) := by
    rw [Content.field, hitem, if_pos rfl]
  have hcolumn : content.fieldColumn =
      content.column + 1 + Text.blankWidth (content.text.drop 1) := by
    rw [Content.fieldColumn, hitem, if_pos rfl]
  rw [addItem] at hadd
  split at hadd
  · rename_i hnone
    cases hadd
    refine .skipped hcontent hscript fun _ owner key _ _ _ hshape => ?_
    rw [hshape] at hnone
    cases hnone
  · rename_i key hkey
    obtain ⟨frame, hframe, hscope⟩ := exists_frame_of_scopeFor hkey
    obtain ⟨node, hat, hnode⟩ := (h.stands frame hframe).value key (hscope ▸ hkey)
    rw [hscope] at hat hnode
    rw [Scope.Admits, hscript, if_neg Bool.false_ne_true] at hnode
    have hshape : state.scopeFor content = ⟨(state.scopeFor content).owner, some key, false⟩ := by
      rw [← hkey, ← hscript]
    -- a sequence goes on, an empty mapping makes way for one, and other mappings take no items
    have hopens : (∃ items listLine, OpensAs number node items listLine) ∨
        ∃ entry entries mapLine, node = .mapping (entry :: entries) mapLine := by
      cases node with
      | scalar value line => exact absurd rfl (hnode value line)
      | sequence items line => exact .inl ⟨items, line, .resume items line⟩
      | mapping entries line =>
        cases entries with
        | nil => exact .inl ⟨[], some number, .start line⟩
        | cons entry entries => exact .inr ⟨entry, entries, line, rfl⟩
    rcases hopens with ⟨items, listLine, hopens⟩ | ⟨entry, entries, mapLine, rfl⟩
    · rw [openSequence?_eq hat hopens] at hadd
      simp only at hadd
      rw [← hfield, ← hcolumn] at hadd
      have hlist (item : Node) :=
        appendItem_put hat items listLine item (state.framesFor content) state.skipped
      split at hadd
      · rename_i hempty
        cases hadd
        rw [hlist]
        exact .item hcontent hitem hshape hat hopens (.bare (List.isEmpty_iff.mp hempty))
      · rename_i hne
        have hne : content.field ≠ [] := fun heq => hne (List.isEmpty_iff.mpr heq)
        split at hadd
        · rename_i hpair
          cases hadd
          rw [hlist]
          exact .item hcontent hitem hshape hat hopens (.text hne hpair)
        · rename_i itemKey text hpair
          cases hread : Line.readValue text with
          | error fault => simp [hread, Except.map] at hadd
          | ok value =>
            rw [hread] at hadd
            cases hadd
            simp only [hlist, push]
            rw [assign_eq_put (at?_appended hat items (.mapping [] (some number)) listLine),
              put_appended]
            have hhandles := Handles.item hcontent hitem hshape hat hopens (.pair hpair hread)
            rwa [List.append_assoc] at hhandles
    · have hnone : openSequence? (state.scopeFor content).owner key number
          { state with frames := state.framesFor content } = none := by
        rw [openSequence?]
        simp only [hat]
      rw [hnone] at hadd
      cases hadd
      refine .skipped hcontent hscript fun _ owner key node _ _ hother hnode hopens => ?_
      rw [hshape] at hother
      cases hother
      rw [hat, Option.some_inj] at hnode
      subst hnode
      cases hopens

/-- Every line that is read is handled in one of the five ways. -/
theorem handles_of_step (h : state.Sound) (hstep : state.step line number = .ok next) :
    state.Handles line number next := by
  rw [step] at hstep
  cases hcontent : content? line with
  | none =>
    rw [hcontent] at hstep
    cases hstep
    exact .ignored hcontent
  | some content =>
    rw [hcontent] at hstep
    simp only [place] at hstep
    split at hstep
    · rename_i hscript
      cases hstep
      exact .script hcontent hscript
    · rename_i hscript
      rw [Bool.not_eq_true] at hscript
      split at hstep
      · rename_i hitem
        exact handles_of_addItem h hcontent hscript hitem hstep
      · rename_i hitem
        rw [Bool.not_eq_true] at hitem
        exact handles_of_addPair hcontent hscript hitem hstep

/-! ### The invariant is kept -/

theorem Sound.closed (h : state.Sound) (content : Content) :
    ({ state with frames := state.framesFor content } : State).Sound where
  root := h.root
  stands frame hframe := h.stands frame ((state.framesFor_suffix content).mem hframe)
  nested := h.nested.sublist (state.framesFor_suffix content).sublist

/-- The frames that stay open for a line belong to its scope or lead to something above it. -/
theorem Sound.scope_cases (h : state.Sound) {frame : Frame}
    (hframe : frame ∈ state.framesFor content) :
    frame.scope = state.scopeFor content ∨
      frame.scope.target <+: (state.scopeFor content).owner := by
  have hnested := (h.closed content).nested
  rw [scopeFor]
  simp only at hnested
  cases hframes : state.framesFor content with
  | nil =>
    rw [hframes] at hframe
    exact absurd hframe List.not_mem_nil
  | cons first rest =>
    rw [hframes] at hframe hnested
    rcases List.mem_cons.mp hframe with rfl | hrest
    · exact .inl rfl
    · exact .inr ((List.pairwise_cons.mp hnested).1 frame hrest)

theorem Sound.isPrefix_target (h : state.Sound) {frame : Frame}
    (hframe : frame ∈ state.framesFor content) :
    frame.scope.target <+: (state.scopeFor content).target := by
  rcases h.scope_cases hframe with heq | habove
  · exact heq ▸ List.prefix_refl _
  · exact habove.trans (Scope.owner_prefix_target _)

theorem Sound.isPrefix_owner (h : state.Sound) {frame : Frame}
    (hframe : frame ∈ state.framesFor content) :
    frame.scope.owner <+: (state.scopeFor content).owner := by
  rcases h.scope_cases hframe with heq | habove
  · exact heq ▸ List.prefix_refl _
  · exact frame.scope.owner_prefix_target.trans habove

/-- A write in a scope: it is not at the owner of the scope or above it, and if it is at what the
    scope leads to, then it starts a list there. -/
structure WritesIn (scope : Scope) (number : Int) (tree : Node) (container : Address)
    (last : Step) (written tree' : Node) : Prop where
  writes : Outline.Writes number tree container last written tree'
  owner : ¬container ++ [last] <+: scope.owner
  target : container ++ [last] <+: scope.target → container ++ [last] = scope.target ∧
    scope.isBlock = false ∧ ∃ items line, written = .sequence items line

variable {scope : Scope} {tree tree' written item : Node} {container address : Address}
  {last : Step} {frame : Frame} {key : Text} {value : LineValue} {entries : List (Entry Node)}
  {mapLine : Option Int} {opened : List Frame}

theorem Sound.stands_of_writesIn (h : state.Sound)
    (hwrites : WritesIn (state.scopeFor content) number state.tree container last written tree')
    (hframe : frame ∈ state.framesFor content) : frame.Stands tree' := by
  have hstands := (h.closed content).stands frame hframe
  obtain ⟨entries, line, hat⟩ := hstands.owner
  refine ⟨?_, hstands.keyed, fun key hkey => ?_⟩
  · obtain ⟨node, hnode, hbare⟩ := hwrites.writes.exists_at?
      (fun hplace => hwrites.owner (hplace.trans (h.isPrefix_owner hframe))) hat
    obtain ⟨entries', rfl⟩ := Node.bare_eq_mapping.mp hbare
    exact ⟨entries', line, hnode⟩
  · obtain ⟨node, hnode, hvalue⟩ := hstands.value key hkey
    have htarget : frame.scope.target = frame.scope.owner ++ [.key key] := by
      rw [Scope.target, hkey]
    rw [← htarget] at hnode ⊢
    by_cases hplace : container ++ [last] <+: frame.scope.target
    · -- the list that an empty mapping has kept the place for is a value as well
      rcases h.scope_cases hframe with heq | habove
      · rw [heq] at hplace ⊢
        obtain ⟨hplace, hscript, items, listLine, rfl⟩ := hwrites.target hplace
        have hwritten := hwrites.writes.at?_place []
        rw [Node.at?_nil] at hwritten
        rw [← hplace]
        exact ⟨_, hwritten, Scope.admits_sequence hscript⟩
      · exact absurd (hplace.trans habove) hwrites.owner
    · obtain ⟨node', hnode', hbare⟩ := hwrites.writes.exists_at? hplace hnode
      exact ⟨node', hnode', hvalue.of_bare_eq hbare⟩

/-- What is done for a pair or an item: a write in the scope of its line, and frames at what the
    scope leads to, or below it, are opened. -/
structure Placed (state : State) (content : Content) (number : Int) (container : Address)
    (last : Step) (written : Node) (opened : List Frame) (next : State) : Prop where
  writesIn :
    WritesIn (state.scopeFor content) number state.tree container last written next.tree
  frames : next.frames = opened ++ state.framesFor content
  skipped : next.skipped = state.skipped
  stands : ∀ frame ∈ opened, frame.Stands next.tree
  nested : opened.Pairwise Frame.IsInside
  inside : ∀ frame ∈ opened, (state.scopeFor content).target <+: frame.scope.owner

theorem Sound.placed (h : state.Sound)
    (hplaced : state.Placed content number container last written opened next) : next.Sound where
  root := by
    obtain ⟨entries, hroot⟩ := h.root
    have hplace : ¬container ++ [last] <+: [] := fun hplace =>
      hplaced.writesIn.owner (hplace.trans List.nil_prefix)
    have hat : state.tree.at? [] = some (.mapping entries none) := by rw [Node.at?_nil, hroot]
    obtain ⟨node, hnode, hbare⟩ := hplaced.writesIn.writes.exists_at? hplace hat
    rw [Node.at?_nil, Option.some_inj] at hnode
    subst hnode
    exact Node.bare_eq_mapping.mp hbare
  stands frame hframe := by
    rw [hplaced.frames] at hframe
    rcases List.mem_append.mp hframe with hopened | hkept
    · exact hplaced.stands frame hopened
    · exact h.stands_of_writesIn hplaced.writesIn hkept
  nested := by
    rw [hplaced.frames]
    refine List.pairwise_append.mpr ⟨hplaced.nested, (h.closed content).nested, ?_⟩
    intro inner hinner outer houter
    exact (h.isPrefix_target houter).trans (hplaced.inside inner hinner)

theorem stands_framesBelow (hat : tree.at? address = some (.mapping entries mapLine))
    (hvalue : tree.at? (address ++ [.key key]) = some (nodeOfReading number value))
    {column : Nat} (hframe : frame ∈ framesBelow address key column value) :
    frame.Stands tree := by
  cases value with
  | scalar scalar => exact absurd hframe List.not_mem_nil
  | nested =>
    rw [List.mem_singleton.mp hframe]
    refine ⟨⟨_, _, hat⟩, fun _ => rfl, ?_⟩
    rintro _ ⟨⟩
    exact ⟨_, hvalue, Scope.admits_mapping rfl⟩
  | block =>
    rw [List.mem_singleton.mp hframe]
    refine ⟨⟨_, _, hat⟩, fun _ => rfl, ?_⟩
    rintro _ ⟨⟩
    exact ⟨_, hvalue, _, rfl⟩

theorem owner_framesBelow {column : Nat} (hframe : frame ∈ framesBelow address key column value) :
    frame.scope.owner = address := by
  cases value with
  | scalar scalar => exact absurd hframe List.not_mem_nil
  | nested => rw [List.mem_singleton.mp hframe]
  | block => rw [List.mem_singleton.mp hframe]

theorem nested_framesBelow (address : Address) (key : Text) (column : Nat) (value : LineValue) :
    (framesBelow address key column value).Pairwise Frame.IsInside := by
  cases value with
  | scalar scalar => exact .nil
  | nested => exact List.pairwise_singleton ..
  | block => exact List.pairwise_singleton ..

end State

namespace Content.Becomes

variable {content : Content} {number : Int} {address : Address} {tree item : Node}
  {opened : List Frame} {frame : Frame}

theorem stands (h : content.Becomes number address item opened)
    (hat : tree.at? address = some item) (hframe : frame ∈ opened) : frame.Stands tree := by
  have hmapping {entries : List (Entry Node)} {line : Option Int}
      (hat : tree.at? address = some (.mapping entries line)) :
      (⟨content.column, ⟨address, none, false⟩⟩ : Frame).Stands tree :=
    ⟨⟨_, _, hat⟩, nofun, nofun⟩
  cases h with
  | bare =>
    rw [List.mem_singleton.mp hframe]
    exact hmapping hat
  | text => exact absurd hframe List.not_mem_nil
  | pair =>
    rename_i key text value hpair hread
    rcases List.mem_append.mp hframe with hbelow | hitem
    · have hvalue : tree.at? (address ++ [.key key]) =
          some (State.nodeOfReading number value) := by
        rw [Node.at?_append, hat, Option.bind_some, Node.at?_cons, Node.child?, Entries.get?_cons,
          if_pos rfl, Option.bind_some, Node.at?_nil]
      exact State.stands_framesBelow hat hvalue hbelow
    · rw [List.mem_singleton.mp hitem]
      exact hmapping hat

theorem owner_eq (h : content.Becomes number address item opened) (hframe : frame ∈ opened) :
    frame.scope.owner = address := by
  cases h with
  | bare => rw [List.mem_singleton.mp hframe]
  | text => exact absurd hframe List.not_mem_nil
  | pair =>
    rcases List.mem_append.mp hframe with hbelow | hitem
    · exact State.owner_framesBelow hbelow
    · rw [List.mem_singleton.mp hitem]

theorem nested (h : content.Becomes number address item opened) :
    opened.Pairwise Frame.IsInside := by
  cases h with
  | bare => exact List.pairwise_singleton ..
  | text => exact .nil
  | pair =>
    refine List.pairwise_append.mpr
      ⟨State.nested_framesBelow .., List.pairwise_singleton .., fun inner hinner outer houter => ?_⟩
    rw [List.mem_singleton.mp houter, Frame.IsInside, State.owner_framesBelow hinner]
    exact List.prefix_refl address

end Content.Becomes

namespace State

variable {state next : State} {line : Text} {number : Int} {lines : List Text}

theorem skipped_skip_ne (number : Int) (content : Content) (state : State) :
    (state.skip number content).skipped ≠ state.skipped := by
  intro heq
  have hlength := congrArg List.length heq
  rw [skip, List.length_append, List.length_singleton] at hlength
  omega

variable {content : Content}

theorem placed_pair {key : Text} {value : LineValue} {entries : List (Entry Node)}
    {mapLine : Option Int}
    (hat : state.tree.at? (state.scopeFor content).target = some (.mapping entries mapLine)) :
    state.Placed content number (state.scopeFor content).target (.key key)
      (nodeOfReading number value)
      (framesBelow (state.scopeFor content).target key content.fieldColumn value)
      ⟨state.tree.put (state.scopeFor content).target
          (.mapping (Entries.set key (nodeOfReading number value) (some number) entries) mapLine),
        framesBelow (state.scopeFor content).target key content.fieldColumn value ++
          state.framesFor content, state.skipped⟩ := by
  have hwrites : Writes number _ _ _ _ _ := .set hat key (nodeOfReading number value)
  have hvalue := hwrites.at?_place []
  rw [Node.at?_nil] at hvalue
  refine ⟨⟨hwrites, not_concat_isPrefix (Scope.owner_prefix_target _) _,
    fun habove => absurd habove (not_concat_isPrefix (List.prefix_refl _) _)⟩, rfl, rfl, ?_,
    nested_framesBelow .., ?_⟩
  · intro frame hframe
    exact stands_framesBelow (Node.at?_put hat _) hvalue hframe
  · intro frame hframe
    exact owner_framesBelow hframe ▸ List.prefix_refl _

theorem placed_item {owner : Address} {key : Text} {node item : Node} {items : List Node}
    {listLine : Option Int} {opened : List Frame}
    (hscope : state.scopeFor content = ⟨owner, some key, false⟩)
    (hat : state.tree.at? (owner ++ [.key key]) = some node)
    (hopens : OpensAs number node items listLine)
    (hbecomes : content.Becomes number (owner ++ [.key key, .item items.length]) item opened) :
    ∃ container last written, state.Placed content number container last written opened
      ⟨state.tree.put (owner ++ [.key key]) (.sequence (items ++ [item]) listLine),
        opened ++ state.framesFor content, state.skipped⟩ := by
  have htarget : (state.scopeFor content).target = owner ++ [.key key] := by
    rw [hscope, Scope.target]
  have hwrites : ∃ container last written,
      WritesIn (state.scopeFor content) number state.tree container last written
        (state.tree.put (owner ++ [.key key]) (.sequence (items ++ [item]) listLine)) := by
    cases hopens with
    | start line =>
      refine ⟨_, _, _, .start hat item, ?_, fun _ => ⟨htarget.symm, by rw [hscope], _, _, rfl⟩⟩
      rw [hscope]
      exact not_concat_isPrefix (List.prefix_refl _) _
    | resume items line =>
      refine ⟨_, _, _, .append hat item, not_concat_isPrefix ?_ _, fun habove => ?_⟩
      · rw [← htarget]
        exact Scope.owner_prefix_target _
      · rw [htarget] at habove
        exact absurd habove (not_concat_isPrefix (List.prefix_refl _) _)
  obtain ⟨container, last, written, hwrites⟩ := hwrites
  refine ⟨container, last, written, hwrites, rfl, rfl, ?_, hbecomes.nested, ?_⟩
  · intro frame hframe
    exact hbecomes.stands (at?_appended hat items item listLine) hframe
  · intro frame hframe
    rw [hbecomes.owner_eq hframe, htarget, List.append_cons owner _ [.item items.length]]
    exact List.prefix_append ..

/-! ### One write for each line -/

/-- A line is blank or a comment, belongs to the body of a block scalar, or is recorded as
    skipped. -/
def PassesOver (state : State) (line : Text) (next : State) : Prop :=
  isIgnorable line = true ∨ state.takesAsScript line = true ∨ next.skipped ≠ state.skipped

theorem Handles.passesOver_or_placed (h : state.Handles line number next) :
    state.PassesOver line next ∧ next.tree = state.tree ∧ next.frames <:+ state.frames ∨
      ¬state.PassesOver line next ∧ ∃ content container last written opened,
        state.Placed content number container last written opened next := by
  have hnot {content : Content} (hcontent : content? line = some content)
      (hscript : (state.scopeFor content).isBlock = false) {next : State}
      (hskipped : next.skipped = state.skipped) : ¬state.PassesOver line next := by
    rintro (hignorable | htakes | hskip)
    · rw [content?_eq_none_iff.mpr hignorable] at hcontent
      cases hcontent
    · rw [takesAsScript_eq hcontent, hscript] at htakes
      cases htakes
    · exact hskip hskipped
  cases h with
  | ignored hcontent =>
    exact .inl ⟨.inl (content?_eq_none_iff.mp hcontent), rfl, List.suffix_refl _⟩
  | script hcontent hscript =>
    rename_i content
    rw [← takesAsScript_eq hcontent] at hscript
    exact .inl ⟨.inr (.inl hscript), rfl, state.framesFor_suffix content⟩
  | skipped hcontent hscript hskip =>
    rename_i content
    exact .inl ⟨.inr (.inr (skipped_skip_ne number content _)), rfl,
      state.framesFor_suffix content⟩
  | pair hcontent hscript hpair hread hat =>
    exact .inr ⟨hnot hcontent hscript rfl, _, _, _, _, _, placed_pair hat⟩
  | item hcontent hitem hscope hat hopens hbecomes =>
    obtain ⟨container, last, written, hplaced⟩ := placed_item hscope hat hopens hbecomes
    exact .inr ⟨hnot hcontent (by rw [hscope]) rfl, _, container, last, written, _, hplaced⟩

theorem Sound.step (h : state.Sound) (hstep : state.step line number = .ok next) : next.Sound := by
  have hhandles := handles_of_step h hstep
  rcases hhandles.passesOver_or_placed with ⟨-, htree, hframes⟩ | ⟨-, hplaced⟩
  · refine ⟨htree ▸ h.root, fun frame hframe => ?_, h.nested.sublist hframes.sublist⟩
    rw [htree]
    exact h.stands frame (hframes.mem hframe)
  · obtain ⟨content, container, last, written, opened, hplaced⟩ := hplaced
    exact h.placed hplaced

theorem sound_of_run (hrun : initial.run lines 1 = .ok state) : state.Sound :=
  run_induction (motive := fun _ state => state.Sound) sound_initial
    (fun hsound _ hstep => hsound.step hstep) hrun

/-- After any lines, the root is a mapping and the frames stand.  The next line leaves the tree as
    it is if it is passed over, and if not, it sets one key of a mapping or adds one item to a
    sequence that can be reached; all other nodes keep what they say of themselves.  No frame that
    stays open has its owner at the place that is written to or below it, so the mapping that a
    frame was opened for is never replaced while the frame is open. -/
theorem run_writes (hrun : initial.run lines 1 = .ok state) :
    (∃ entries, state.tree = .mapping entries none) ∧
      (∀ frame ∈ state.frames, frame.Stands state.tree) ∧
      ∀ line next, state.step line (1 + lines.length) = .ok next →
        (state.PassesOver line next → next.tree = state.tree ∧ next.frames <:+ state.frames) ∧
        (¬state.PassesOver line next → ∃ container last written opened kept,
          Writes (1 + lines.length) state.tree container last written next.tree ∧
          (∀ other, ¬container ++ [last] <+: other → other ≠ container →
            (next.tree.at? other).map Node.own = (state.tree.at? other).map Node.own) ∧
          (∀ step back, step ≠ last →
            next.tree.at? (container ++ step :: back) =
              state.tree.at? (container ++ step :: back)) ∧
          next.frames = opened ++ kept ∧ kept <:+ state.frames ∧
          ∀ frame ∈ kept, ¬container ++ [last] <+: frame.scope.owner) := by
  have hsound := sound_of_run hrun
  refine ⟨hsound.root, hsound.stands, fun line next hstep => ?_⟩
  have hhandles := handles_of_step hsound hstep
  rcases hhandles.passesOver_or_placed with ⟨hpasses, hsame⟩ | ⟨hnot, hplaced⟩
  · exact ⟨fun _ => hsame, fun hnot => absurd hpasses hnot⟩
  · refine ⟨fun hpasses => absurd hpasses hnot, fun _ => ?_⟩
    obtain ⟨content, container, last, written, opened, hplaced⟩ := hplaced
    have hwrites := hplaced.writesIn.writes
    refine ⟨container, last, written, opened, state.framesFor content, hwrites,
      fun other => hwrites.own_eq, fun step back hne => hwrites.at?_beside hne back,
      hplaced.frames, state.framesFor_suffix content, fun frame hframe habove => ?_⟩
    exact hplaced.writesIn.owner (habove.trans (hsound.isPrefix_owner hframe))

/-- The first item of a list is one write: the sequence comes with it. -/
theorem run_writes_firstItem :
    ∃ state next, initial.run ["jobs:", "on:"] 1 = .ok state ∧ state.step "- push" 3 = .ok next ∧
      (∀ frame ∈ state.frames, frame.Stands state.tree) ∧ ¬state.PassesOver "- push" next ∧
      ∃ container last written, Writes 3 state.tree container last written next.tree := by
  let state : State :=
    ⟨.mapping [⟨"jobs", some 1, .mapping [] (some 1)⟩, ⟨"on", some 2, .mapping [] (some 2)⟩] none,
      [⟨0, ⟨[], some "on", false⟩⟩], []⟩
  let next : State :=
    ⟨.mapping [⟨"jobs", some 1, .mapping [] (some 1)⟩,
        ⟨"on", some 2, .sequence [.scalar (.str "push") (some 3)] (some 3)⟩] none,
      [⟨0, ⟨[], some "on", false⟩⟩], []⟩
  have hrun : initial.run ["jobs:", "on:"] 1 = .ok state := rfl
  have hstep : state.step "- push" 3 = .ok next := rfl
  have hnot : ¬state.PassesOver "- push" next := by
    rintro (hignorable | htakes | hskipped)
    · exact absurd hignorable (by decide)
    · exact absurd htakes (by decide)
    · exact hskipped rfl
  obtain ⟨-, hstands, hnext⟩ := run_writes hrun
  obtain ⟨container, last, written, -, -, hwrites, -⟩ := (hnext _ next hstep).2 hnot
  exact ⟨state, next, hrun, hstep, hstands, hnot, container, last, written, hwrites⟩

end State

end WorkflowLint.Outline
