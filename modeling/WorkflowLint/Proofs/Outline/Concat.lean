/-
  WorkflowLint/Proofs/Outline/Concat.lean
  =======================================
  **Reading one text after another.**

  A text whose first content starts a top-level entry closes all open frames of
  what stands before it.  From there on the pass does what a fresh pass over that
  text does: it keeps the same frames, and its tree is the fresh tree with its
  lines shifted, laid over the tree from before (`State.onto`).  The invariant that
  carries this is that open frames lie below root keys that the fresh pass has set
  itself (`State.Grounded`).
-/
import WorkflowLint.Proofs.Outline.Place
import WorkflowLint.Proofs.Text.Lines
import WorkflowLint.Proofs.Tree.Overlay

namespace WorkflowLint.Outline

/-- A skipped line, further down by `offset` lines. -/
def Skip.shift (offset : Int) (skip : Skip) : Skip := { skip with line := skip.line + offset }

/-- Whether the first content of a text, if it has any, stands in the first column and is no
    list item. -/
def StartsAtTop (text : Text) : Prop :=
  ∀ content, (Text.lines text).findSome? content? = some content →
    content.column = 0 ∧ content.isItem = false

theorem takesItems_shift (offset : Int) (node : Node) :
    takesItems (node.shift offset) = takesItems node := by
  cases node with
  | scalar value line => rw [Node.shift]; rfl
  | sequence items line => rw [Node.shift]; rfl
  | mapping entries line =>
    rw [(Node.isRelabelling_shift offset).mapping_eq]
    cases entries <;> rfl

namespace State

/-- Where a pass stands that went on from `base`, when a fresh pass over the same lines, which
    are `offset` lines higher up there, stands at `state`. -/
def onto (base : State) (offset : Int) (state : State) : State :=
  ⟨base.tree.overlay (state.tree.shift offset), state.frames,
    base.skipped ++ state.skipped.map (Skip.shift offset)⟩

/-- The keys of the root. -/
def rootKeys (state : State) : List Text := Entries.keys state.tree.entries

/-- What a fresh pass keeps: the root is a mapping with distinct keys, each with its line, and
    the open frames lie below these keys. -/
structure Grounded (state : State) : Prop where
  root : ∃ entries, state.tree = .mapping entries none
  nodup : state.rootKeys.Nodup
  lined : ∀ entry ∈ state.tree.entries, entry.line.isSome = true
  below : ∀ frame ∈ state.frames, frame.scope.target.StartsIn state.rootKeys

theorem grounded_initial : initial.Grounded :=
  ⟨⟨[], rfl⟩, List.nodup_nil, fun _ h => absurd h List.not_mem_nil,
    fun _ h => absurd h List.not_mem_nil⟩

variable {base state : State} {offset number : Int} {address : Address} {scope : Scope}

/-! ### What is kept -/

theorem rootKeys_modifyAt (h : state.Grounded) (haddress : address.StartsIn state.rootKeys)
    (change : Node → Node) : ∃ entries,
      state.tree.modifyAt change address = .mapping entries none ∧
        Entries.keys entries = state.rootKeys ∧
        ∀ entry ∈ entries, entry.line.isSome = true := by
  obtain ⟨entries, htree⟩ := h.root
  have hlined := h.lined
  rw [rootKeys, htree] at haddress ⊢
  rw [htree] at hlined
  cases address with
  | nil => exact haddress.elim
  | cons step rest =>
    cases step with
    | key key =>
      refine ⟨_, rfl, Entries.keys_modify key _ entries, fun entry hentry => ?_⟩
      obtain ⟨before, hbefore, hline⟩ := Entries.mem_lines_of_mem_modify hentry
      exact hline ▸ hlined before hbefore
    | item index => exact haddress.elim

/-- Changing something below a root key keeps the root keys. -/
theorem Grounded.modifyAt (h : state.Grounded) (haddress : address.StartsIn state.rootKeys)
    (change : Node → Node) :
    ({ state with tree := state.tree.modifyAt change address } : State).Grounded ∧
      ({ state with tree := state.tree.modifyAt change address } : State).rootKeys =
        state.rootKeys := by
  obtain ⟨entries, htree, hkeys, hlined⟩ := rootKeys_modifyAt h haddress change
  have hroot : ({ state with tree := state.tree.modifyAt change address } : State).rootKeys =
      state.rootKeys := by
    rw [rootKeys, htree]
    exact hkeys
  refine ⟨⟨⟨entries, htree⟩, ?_, ?_, ?_⟩, hroot⟩
  · rw [hroot]
    exact h.nodup
  · rw [htree]
    exact hlined
  · rw [hroot]
    exact h.below

/-- Setting a key of the root, or of something below a root key. -/
theorem Grounded.set (h : state.Grounded)
    (haddress : address = [] ∨ address.StartsIn state.rootKeys) (key : Text) (value : Node)
    (line : Option Int)
    (hline : line.isSome = true ∨ Address.StartsIn state.rootKeys (address ++ [.key key])) :
    let next : State :=
      { state with tree := state.tree.modifyAt (fun owner => owner.set key value line) address }
    next.Grounded ∧ Address.StartsIn next.rootKeys (address ++ [.key key]) := by
  intro next
  rcases haddress with rfl | haddress
  · obtain ⟨entries, htree⟩ := h.root
    have hnext : next.rootKeys = Entries.keys (Entries.set key value line entries) := by
      show Entries.keys (state.tree.set key value line).entries = _
      rw [htree]
      rfl
    have hkeys : state.rootKeys = Entries.keys entries := by rw [rootKeys, htree]; rfl
    have hentries : next.tree = .mapping (Entries.set key value line entries) none := by
      show state.tree.set key value line = _
      rw [htree]
      rfl
    have hlined := h.lined
    rw [htree] at hlined
    refine ⟨⟨⟨_, hentries⟩, ?_, ?_, ?_⟩, ?_⟩
    · rw [hnext]
      exact Entries.nodup_keys_set (hkeys ▸ h.nodup) key value line
    · rw [hentries]
      have hmem : Address.StartsIn state.rootKeys ([] ++ [.key key]) → key ∈ Entries.keys entries :=
        fun hkey => hkeys ▸ hkey
      exact fun entry => Entries.isSome_line_of_mem_set hlined (hline.imp_right hmem)
    · intro frame hframe
      refine (h.below frame hframe).mono fun other hother => ?_
      rw [hnext]
      exact Entries.mem_keys_set (hkeys ▸ hother) key value line
    · show key ∈ next.rootKeys
      rw [hnext]
      exact Entries.mem_keys_set_self key value line entries
  · obtain ⟨hgrounded, hkeys⟩ := h.modifyAt haddress fun owner => owner.set key value line
    exact ⟨hgrounded, hkeys ▸ haddress.append _⟩

theorem Grounded.push (h : state.Grounded) (column : Nat)
    (hscope : scope.target.StartsIn state.rootKeys) : (state.push column scope).Grounded := by
  refine ⟨h.root, h.nodup, h.lined, fun frame hframe => ?_⟩
  rcases List.mem_cons.mp hframe with rfl | hframe
  · exact hscope
  · exact h.below frame hframe

theorem Grounded.unwind (h : state.Grounded) (column : Nat) (isItem : Bool) :
    ({ state with frames := unwind state.tree column isItem state.frames } : State).Grounded :=
  ⟨h.root, h.nodup, h.lined, fun frame hframe => h.below frame ((List.dropWhile_sublist _).mem hframe)⟩

theorem Grounded.assign (h : state.Grounded)
    (haddress : address = [] ∨ address.StartsIn state.rootKeys) (key : Text) (value : LineValue)
    (column : Nat) (number : Int) : (state.assign address key value column number).Grounded := by
  cases value with
  | nested =>
    obtain ⟨hset, hbelow⟩ := h.set haddress key (.mapping [] (some number)) (some number) (.inl rfl)
    exact hset.push column hbelow
  | block =>
    obtain ⟨hset, hbelow⟩ := h.set haddress key (.scalar (.str []) (some number)) (some number) (.inl rfl)
    exact hset.push column hbelow
  | scalar scalar =>
    exact (h.set haddress key (.scalar scalar (some number)) (some number) (.inl rfl)).1

/-! ### Reading and changing the tree through the overlay -/

theorem Grounded.exists_shift (h : state.Grounded) (offset : Int) : ∃ top,
    state.tree.shift offset = .mapping top none ∧ Entries.keys top = state.rootKeys := by
  obtain ⟨entries, htree⟩ := h.root
  refine ⟨_, ?_, Entries.keys_relabel (· + offset) (Node.shift offset) entries |>.trans ?_⟩
  · rw [htree, (Node.isRelabelling_shift offset).mapping_eq]
    rfl
  · rw [rootKeys, htree]
    rfl

section

variable (hbase : ∃ entries line, base.tree = .mapping entries line) (h : state.Grounded)

include hbase h

theorem at?_onto (offset : Int) (haddress : address.StartsIn state.rootKeys) :
    (base.onto offset state).tree.at? address =
      (state.tree.at? address).map (Node.shift offset) := by
  obtain ⟨entries, line, hbase⟩ := hbase
  obtain ⟨top, hshift, hkeys⟩ := h.exists_shift offset
  rw [onto, hbase, hshift, Node.at?_overlay (hkeys ▸ h.nodup) (hkeys ▸ haddress), ← hshift,
    (Node.isRelabelling_shift offset).at?_eq]

/-- A change below a root key that commutes with shifting. -/
theorem modifyAt_onto (offset : Int) (haddress : address.StartsIn state.rootKeys)
    {change change' : Node → Node}
    (hchange : ∀ node, (change node).shift offset = change' (node.shift offset)) :
    ({ base.onto offset state with
        tree := (base.onto offset state).tree.modifyAt change' address } : State) =
      base.onto offset { state with tree := state.tree.modifyAt change address } := by
  obtain ⟨entries, line, hbase⟩ := hbase
  obtain ⟨top, hshift, hkeys⟩ := h.exists_shift offset
  simp only [onto, State.mk.injEq, and_true]
  rw [hbase, (Node.isRelabelling_shift offset).modifyAt_eq hchange, hshift,
    Node.modifyAt_overlay (hkeys ▸ h.nodup) (hkeys ▸ haddress)]

theorem set_onto (offset : Int) (haddress : address = [] ∨ address.StartsIn state.rootKeys)
    (key : Text) {value value' : Node} (hvalue : value.shift offset = value')
    (line : Option Int) :
    ({ base.onto offset state with
        tree := (base.onto offset state).tree.modifyAt
          (fun owner => owner.set key value' (line.map (· + offset))) address } : State) =
      base.onto offset
        { state with
          tree := state.tree.modifyAt (fun owner => owner.set key value line) address } := by
  have hset (node : Node) : (node.set key value line).shift offset =
      (node.shift offset).set key value' (line.map (· + offset)) := by
    rw [(Node.isRelabelling_shift offset).set_eq, hvalue]
  rcases haddress with rfl | haddress
  · obtain ⟨entries, baseLine, hbase⟩ := hbase
    obtain ⟨top, hshift, hkeys⟩ := h.exists_shift offset
    simp only [onto, State.mk.injEq, and_true]
    show ((base.tree.overlay (state.tree.shift offset)).set key value' _) =
      base.tree.overlay ((state.tree.set key value line).shift offset)
    rw [hset, hbase, hshift, Node.set_overlay (hkeys ▸ h.nodup)]
  · exact modifyAt_onto hbase h offset haddress hset

theorem assign_onto (offset number : Int)
    (haddress : address = [] ∨ address.StartsIn state.rootKeys) (key : Text) (value : LineValue)
    (column : Nat) :
    (base.onto offset state).assign address key value column (number + offset) =
      base.onto offset (state.assign address key value column number) := by
  have hline : (some (number + offset) : Option Int) = (some number).map (· + offset) := rfl
  cases value with
  | nested =>
    have hvalue : (Node.mapping [] (some number)).shift offset =
        .mapping [] (some (number + offset)) := by
      rw [(Node.isRelabelling_shift offset).mapping_eq]
      rfl
    have hset := set_onto hbase h offset haddress key hvalue (some number)
    rw [← hline] at hset
    exact congrArg (State.push column ⟨address, some key, false⟩) hset
  | block =>
    have hvalue : (Node.scalar (.str []) (some number)).shift offset =
        .scalar (.str []) (some (number + offset)) := by rw [Node.shift, hline]
    have hset := set_onto hbase h offset haddress key hvalue (some number)
    rw [← hline] at hset
    exact congrArg (State.push column ⟨address, some key, true⟩) hset
  | scalar scalar =>
    have hvalue : (Node.scalar scalar (some number)).shift offset =
        .scalar scalar (some (number + offset)) := by rw [Node.shift, hline]
    exact set_onto hbase h offset haddress key hvalue (some number)

theorem unwind_onto (offset : Int) (column : Nat) (isItem : Bool) :
    unwind (base.onto offset state).tree column isItem (base.onto offset state).frames =
      unwind state.tree column isItem state.frames := by
  suffices hunwind : ∀ frames : List Frame,
      (∀ frame ∈ frames, frame.scope.target.StartsIn state.rootKeys) →
        unwind (base.onto offset state).tree column isItem frames =
          unwind state.tree column isItem frames from hunwind _ h.below
  intro frames hframes
  induction frames with
  | nil => rfl
  | cons frame rest ih =>
    have hholds : frame.holds (base.onto offset state).tree column isItem =
        frame.holds state.tree column isItem := by
      rw [Frame.holds, Frame.holds, Frame.takesItems, Frame.takesItems,
        at?_onto hbase h offset (hframes frame (List.mem_cons_self ..))]
      cases state.tree.at? frame.scope.target with
      | none => rfl
      | some node => simp only [Option.map_some, takesItems_shift]
    rw [unwind, unwind, List.dropWhile_cons, List.dropWhile_cons, hholds]
    split
    · exact ih fun other hother => hframes other (List.mem_cons_of_mem _ hother)
    · rfl

end

/-! ### Steps of two passes -/

/-- The outcome of a later step is the outcome of a fresh one laid over `base`, and the fresh
    pass keeps what it keeps. -/
structure Follows (base : State) (offset : Int) (fresh later : Except ParseError State) :
    Prop where
  eq : later = fresh.map (base.onto offset)
  grounded : ∀ state, fresh = .ok state → state.Grounded

theorem Follows.ok (h : state.Grounded) :
    Follows base offset (.ok state) (.ok (base.onto offset state)) := by
  refine ⟨rfl, fun other hother => ?_⟩
  rw [← Except.ok.inj hother]
  exact h

theorem Follows.map {α : Type} (result : Except ParseError α) {f f' : α → State}
    (hf : ∀ a, f' a = base.onto offset (f a)) (hgrounded : ∀ a, (f a).Grounded) :
    Follows base offset (result.map f) (result.map f') := by
  cases result with
  | error fault => exact ⟨rfl, fun other hother => by cases hother⟩
  | ok a =>
    show Follows base offset (.ok (f a)) (.ok (f' a))
    rw [hf a]
    exact .ok (hgrounded a)

theorem Follows.bind {fresh later : Except ParseError State} (h : Follows base offset fresh later)
    {f f' : State → Except ParseError State}
    (hf : ∀ state : State, state.Grounded →
      Follows base offset (f state) (f' (base.onto offset state))) :
    Follows base offset (fresh.bind f) (later.bind f') := by
  rw [h.eq]
  cases fresh with
  | error fault => exact ⟨rfl, fun other hother => by cases hother⟩
  | ok state => exact hf state (h.grounded state rfl)

theorem skip_onto (base state : State) (offset number : Int) (content : Content) :
    (base.onto offset state).skip (number + offset) content =
      base.onto offset (state.skip number content) := by
  simp [skip, onto, Skip.shift]

theorem Grounded.skip (h : state.Grounded) (number : Int) (content : Content) :
    (state.skip number content).Grounded := ⟨h.root, h.nodup, h.lined, h.below⟩

/-- The scope of a line is that of the root or lies below a root key. -/
theorem Grounded.currentScope (h : state.Grounded) :
    currentScope state.frames = .root ∨
      (currentScope state.frames).target.StartsIn state.rootKeys := by
  cases hframes : state.frames with
  | nil => exact Or.inl rfl
  | cons frame rest => exact Or.inr (h.below frame (hframes ▸ List.mem_cons_self ..))

theorem startsIn_owner {keys : List Text} {owner : Address} {key : Text}
    (h : Address.StartsIn keys (owner ++ [.key key])) : owner = [] ∨ owner.StartsIn keys := by
  cases owner with
  | nil => exact Or.inl rfl
  | cons step rest =>
    cases step with
    | key key => exact Or.inr h
    | item index => exact h.elim

section

variable (hbase : ∃ entries line, base.tree = .mapping entries line) (h : state.Grounded)

include hbase h

theorem addPair_follows (offset number : Int) (content : Content)
    (hscope : scope = .root ∨ scope.target.StartsIn state.rootKeys) :
    Follows base offset (state.addPair scope content number)
      ((base.onto offset state).addPair scope content (number + offset)) := by
  have hskip : Follows base offset (.ok (state.skip number content))
      (.ok ((base.onto offset state).skip (number + offset) content)) := by
    rw [skip_onto]
    exact .ok (h.skip number content)
  have haddress : scope.target = [] ∨ scope.target.StartsIn state.rootKeys :=
    hscope.imp_left fun hroot => by rw [hroot]; rfl
  rw [addPair, addPair]
  cases Line.splitPair content.text with
  | none => exact hskip
  | some pair =>
    have hassign (value : LineValue) :=
      assign_onto hbase h offset number haddress pair.1 value content.column
    have hgrounded (value : LineValue) :=
      h.assign haddress pair.1 value content.column number
    rcases hscope with rfl | hbelow
    · obtain ⟨entries, line, hbase⟩ := hbase
      obtain ⟨top, htree⟩ := h.root
      have hlater : (base.onto offset state).tree.at? Scope.root.target =
          some (.mapping (Entries.overlay entries (state.tree.shift offset).entries) line) := by
        show (base.tree.overlay (state.tree.shift offset)).at? [] = _
        rw [hbase, Node.overlay_mapping, Node.at?_nil]
      have hfresh : state.tree.at? Scope.root.target = some (.mapping top none) := by
        show state.tree.at? [] = _
        rw [htree, Node.at?_nil]
      rw [hlater, hfresh]
      exact .map _ hassign hgrounded
    · rw [at?_onto hbase h offset hbelow]
      cases state.tree.at? scope.target with
      | none => exact hskip
      | some node =>
        cases node with
        | scalar value line =>
          rw [Option.map_some, Node.shift]
          exact hskip
        | sequence items line =>
          rw [Option.map_some, Node.shift]
          exact hskip
        | mapping entries line =>
          rw [Option.map_some, Node.shift]
          exact .map _ hassign hgrounded

theorem openSequence?_follows (offset number : Int) {owner : Address} {key : Text}
    (hbelow : Address.StartsIn state.rootKeys (owner ++ [.key key])) :
    (base.onto offset state).openSequence? owner key (number + offset) =
        (state.openSequence? owner key number).map
          (fun opened => (base.onto offset opened.1, opened.2)) ∧
      ∀ opened, state.openSequence? owner key number = some opened →
        opened.1.Grounded ∧ Address.StartsIn opened.1.rootKeys (owner ++ [.key key]) := by
  have hvalue : (Node.sequence [] (some number)).shift offset =
      .sequence [] (some (number + offset)) := by
    rw [(Node.isRelabelling_shift offset).sequence_eq]
    rfl
  have hput := set_onto hbase h offset (startsIn_owner hbelow) key hvalue none
  have hset := h.set (startsIn_owner hbelow) key (.sequence [] (some number)) none (.inr hbelow)
  rw [openSequence?, openSequence?, at?_onto hbase h offset hbelow]
  -- an empty mapping, a scalar and nothing at all make way for a sequence
  have hopen : ∀ opened, some (({ state with
      tree := state.tree.modifyAt
        (fun node => node.set key (.sequence [] (some number)) none) owner } : State), 0) =
        some opened →
      opened.1.Grounded ∧ Address.StartsIn opened.1.rootKeys (owner ++ [.key key]) := by
    intro opened hopened
    rw [← Option.some_inj.mp hopened]
    exact hset
  cases state.tree.at? (owner ++ [.key key]) with
  | none => exact ⟨congrArg (fun next : State => some (next, 0)) hput, hopen⟩
  | some node =>
    cases node with
    | scalar value line =>
      rw [Option.map_some, Node.shift]
      exact ⟨congrArg (fun next : State => some (next, 0)) hput, hopen⟩
    | sequence items line =>
      rw [Option.map_some, (Node.isRelabelling_shift offset).sequence_eq]
      refine ⟨by simp, fun opened hopened => ?_⟩
      rw [← Option.some_inj.mp hopened]
      exact ⟨h, hbelow⟩
    | mapping entries line =>
      rw [Option.map_some, (Node.isRelabelling_shift offset).mapping_eq]
      cases entries with
      | nil => exact ⟨congrArg (fun next : State => some (next, 0)) hput, hopen⟩
      | cons entry rest => exact ⟨rfl, fun opened hopened => by cases hopened⟩

theorem appendItem_onto (offset : Int) {owner : Address} {key : Text}
    (hbelow : Address.StartsIn state.rootKeys (owner ++ [.key key])) {item item' : Node}
    (hitem : item.shift offset = item') :
    (base.onto offset state).appendItem owner key item' =
      base.onto offset (state.appendItem owner key item) := by
  refine modifyAt_onto hbase h offset hbelow fun node => ?_
  rw [(Node.isRelabelling_shift offset).append_eq, hitem]

theorem addItem_follows (offset number : Int) (content : Content)
    (hscope : scope = .root ∨ scope.target.StartsIn state.rootKeys) :
    Follows base offset (state.addItem scope content number)
      ((base.onto offset state).addItem scope content (number + offset)) := by
  have hskip : Follows base offset (.ok (state.skip number content))
      (.ok ((base.onto offset state).skip (number + offset) content)) := by
    rw [skip_onto]
    exact .ok (h.skip number content)
  rw [addItem, addItem]
  cases hkey : scope.key with
  | none => exact hskip
  | some listKey =>
    have hbelow : Address.StartsIn state.rootKeys (scope.owner ++ [.key listKey]) := by
      rcases hscope with rfl | hbelow
      · cases hkey
      · rwa [Scope.target, hkey] at hbelow
    obtain ⟨hopen, hopened⟩ := openSequence?_follows hbase h offset number hbelow
    simp only
    rw [hopen]
    cases hstate : state.openSequence? scope.owner listKey number with
    | none => exact hskip
    | some opened =>
      obtain ⟨hgrounded, hlist⟩ := hopened opened hstate
      obtain ⟨state, index⟩ := opened
      simp only [Option.map_some]
      have hitem : Address.StartsIn state.rootKeys (scope.owner ++ [.key listKey, .item index]) := by
        have happend := hlist.append [.item index]
        rwa [List.append_assoc] at happend
      have hmapping : (Node.mapping [] (some number)).shift offset =
          .mapping [] (some (number + offset)) := by
        rw [(Node.isRelabelling_shift offset).mapping_eq]
        rfl
      have htext (text : Text) : (Node.scalar (.str text) (some number)).shift offset =
          .scalar (.str text) (some (number + offset)) := by
        rw [Node.shift]
        rfl
      have happend (item : Node) : (state.appendItem scope.owner listKey item).Grounded ∧
          (state.appendItem scope.owner listKey item).rootKeys = state.rootKeys :=
        hgrounded.modifyAt hlist fun node => node.append item
      have hpushed : ((state.appendItem scope.owner listKey (.mapping [] (some number))).push
          content.column ⟨scope.owner ++ [.key listKey, .item index], none, false⟩).Grounded :=
        (happend _).1.push content.column ((happend _).2 ▸ hitem)
      have hadd : ((base.onto offset state).appendItem scope.owner listKey
          (.mapping [] (some (number + offset)))).push content.column
            ⟨scope.owner ++ [.key listKey, .item index], none, false⟩ =
          base.onto offset ((state.appendItem scope.owner listKey
            (.mapping [] (some number))).push content.column
              ⟨scope.owner ++ [.key listKey, .item index], none, false⟩) :=
        congrArg (State.push content.column _) (appendItem_onto hbase hgrounded offset hlist hmapping)
      split
      · rw [hadd]
        exact .ok hpushed
      · cases Line.splitPair (Text.trim (content.text.drop 1)) with
        | none =>
          simp only
          rw [appendItem_onto hbase hgrounded offset hlist (htext _)]
          exact .ok (happend _).1
        | some pair =>
          simp only
          rw [hadd]
          have haddress := (happend (.mapping [] (some number))).2.symm ▸ hitem
          exact .map _ (fun value => assign_onto hbase hpushed offset number (.inr haddress) ..)
            fun value => hpushed.assign (.inr haddress) ..

theorem place_follows (offset number : Int) (content : Content) :
    Follows base offset (state.place content number)
      ((base.onto offset state).place content (number + offset)) := by
  rw [place, place, unwind_onto hbase h]
  have hunwind := h.unwind content.column content.isItem
  have hscope := hunwind.currentScope
  simp only
  split
  · exact .ok hunwind
  · split
    · exact addItem_follows hbase hunwind offset number content hscope
    · exact addPair_follows hbase hunwind offset number content hscope

theorem step_follows (offset number : Int) (line : Text) :
    Follows base offset (state.step line number)
      ((base.onto offset state).step line (number + offset)) := by
  rw [step, step]
  cases content? line with
  | none => exact .ok h
  | some content => exact place_follows hbase h offset number content

end

/-- A later pass over some lines does what a fresh pass does. -/
theorem run_follows (hbase : ∃ entries line, base.tree = .mapping entries line) (offset : Int)
    (h : state.Grounded) (lines : List Text) (number : Int) :
    Follows base offset (state.run lines number)
      ((base.onto offset state).run lines (number + offset)) := by
  induction lines generalizing state number with
  | nil => exact .ok h
  | cons line rest ih =>
    rw [run, run, show number + offset + 1 = number + 1 + offset by omega]
    exact (step_follows hbase h offset number line).bind fun state hstate => ih hstate (number + 1)

theorem Grounded.run (h : state.Grounded) {lines : List Text} {last : State}
    (hrun : state.run lines number = .ok last) : last.Grounded :=
  (run_follows ⟨[], none, rfl⟩ 0 h lines number : Follows initial 0 _ _).grounded last hrun

/-! ### Starting in the first column -/

/-- Content in the first column that is no list item closes all open frames. -/
theorem unwind_top (tree : Node) (frames : List Frame) : unwind tree 0 false frames = [] := by
  induction frames with
  | nil => rfl
  | cons frame rest ih =>
    rw [unwind, List.dropWhile_cons_of_pos (by simp [Frame.holds])]
    exact ih

/-- What is left of a state when its frames are forgotten. -/
def outline (state : State) : Outline := ⟨state.tree, state.skipped⟩

theorem onto_initial (hbase : ∃ entries line, base.tree = .mapping entries line) (offset : Int) :
    base.onto offset initial = { base with frames := [] } := by
  obtain ⟨entries, line, hbase⟩ := hbase
  have hshift : initial.tree.shift offset = .mapping [] none := by
    rw [initial, (Node.isRelabelling_shift offset).mapping_eq]
    rfl
  rw [onto, hshift, hbase, Node.overlay_mapping]
  simp [initial, Entries.overlay, Node.entries]

/-- Lines that start at the top are read as a fresh pass reads them, whatever frames are open. -/
theorem run_top (hbase : ∃ entries line, base.tree = .mapping entries line) {lines : List Text}
    (htop : ∀ content, lines.findSome? content? = some content →
      content.column = 0 ∧ content.isItem = false) (offset number : Int) :
    (base.run lines (number + offset)).map outline =
      (initial.run lines number).map fun fresh => outline (base.onto offset fresh) := by
  induction lines generalizing number with
  | nil =>
    show Except.ok base.outline = .ok (base.onto offset initial).outline
    rw [onto_initial hbase]
    rfl
  | cons line rest ih =>
    cases hcontent : content? line with
    | none =>
      -- a blank line or a comment leaves both passes where they are
      have hstep (state : State) (number : Int) : state.step line number = .ok state := by
        rw [step, hcontent]
      rw [List.findSome?_cons, hcontent] at htop
      rw [run, run, hstep, hstep, show number + offset + 1 = number + 1 + offset by omega]
      exact ih htop (number + 1)
    | some content =>
      rw [List.findSome?_cons, hcontent] at htop
      obtain ⟨hcolumn, hitem⟩ := htop content rfl
      have hclosed : base.run (line :: rest) (number + offset) =
          (base.onto offset initial).run (line :: rest) (number + offset) := by
        rw [onto_initial hbase]
        simp only [run, step, hcontent, place, hcolumn, hitem, unwind_top]
      rw [hclosed, (run_follows hbase offset grounded_initial (line :: rest) number).eq]
      cases initial.run (line :: rest) number <;> rfl

end State

/-! ### Texts one after the other -/

/-- The outline of a text that goes on with another one after `count` lines: the root entries
    of the second outline are set one after the other. -/
def followedBy (first : Outline) (count : Nat) (second : Outline) : Outline :=
  ⟨first.tree.overlay (second.tree.shift count),
    first.skipped ++ second.skipped.map (Skip.shift count)⟩

theorem parse_eq (text : Text) :
    parse text = (State.initial.run (Text.lines text) 1).map State.outline := rfl

/-- The root of an outline is a mapping with distinct keys, each with its line. -/
theorem exists_root_of_parse {text : Text} {outline : Outline} (h : parse text = .ok outline) :
    ∃ entries, outline.tree = .mapping entries none ∧ (Entries.keys entries).Nodup ∧
      ∀ entry ∈ entries, entry.line.isSome = true := by
  rw [parse_eq] at h
  cases hrun : State.initial.run (Text.lines text) 1 with
  | error fault =>
    rw [hrun] at h
    cases h
  | ok last =>
    rw [hrun] at h
    cases h
    have hlast := State.grounded_initial.run hrun
    obtain ⟨entries, htree⟩ := hlast.root
    have hnodup := hlast.nodup
    have hlined := hlast.lined
    rw [State.rootKeys, htree] at hnodup
    rw [htree] at hlined
    exact ⟨entries, htree, hnodup, hlined⟩

/-- An outline further down by `offset` lines. -/
def shift (offset : Int) (outline : Outline) : Outline :=
  ⟨outline.tree.shift offset, outline.skipped.map (Skip.shift offset)⟩

/-- Over the empty outline, a fresh pass is seen as it is. -/
theorem State.outline_onto_initial {state : State} (h : state.Grounded) (offset : Int) :
    (initial.onto offset state).outline = state.outline.shift offset := by
  obtain ⟨entries, htree⟩ := h.root
  have hnodup := h.nodup
  rw [rootKeys, htree] at hnodup
  have hkeys := Entries.keys_relabel (· + offset) (Node.shift offset) entries
  simp only [outline, onto, shift, initial, htree, Node.overlay_mapping, List.nil_append,
    (Node.isRelabelling_shift offset).mapping_eq]
  have htop : (Node.mapping (entries.map (Entry.relabel (· + offset) (Node.shift offset)))
      (Option.map (· + offset) none)).entries =
        entries.map (Entry.relabel (· + offset) (Node.shift offset)) := rfl
  rw [htop, Entries.overlay_of_disjoint (hkeys ▸ hnodup) fun _ _ => List.not_mem_nil]
  rfl

/-- Blank lines and comments above a text move what is read down. -/
theorem parse_below {front : List Text} (hfront : ∀ line ∈ front, Line.isIgnorable line = true)
    (hfeed : ∀ line ∈ front, '\n' ∉ line) (text : Text) :
    parse (Text.below front text) = (parse text).map (shift front.length) := by
  have hbase : ∃ entries line, State.initial.tree = .mapping entries line := ⟨[], none, rfl⟩
  have habove : State.initial.run front 1 = .ok State.initial :=
    State.run_of_step (fun line hline _ => State.step_ignorable (hfront line hline)) 1
  have hfollows := State.run_follows hbase front.length State.grounded_initial (Text.lines text) 1
  rw [State.onto_initial hbase] at hfollows
  rw [parse_eq, parse_eq, Text.lines_below hfeed, State.run_append, habove]
  show ((State.run (Text.lines text) (1 + front.length) State.initial).map State.outline) = _
  rw [show State.run (Text.lines text) (1 + front.length) State.initial = _ from hfollows.eq]
  cases hrun : State.initial.run (Text.lines text) 1 with
  | error fault => rfl
  | ok state =>
    exact congrArg Except.ok (State.outline_onto_initial (hfollows.grounded state hrun) _)

/-- A text whose first content starts a top-level entry is read the same behind any other text:
    reading both fails if and only if reading one of them fails, and otherwise the root entries
    of the second are set in the outline of the first, each with the line of its key, further
    down by the lines of the first. -/
theorem parse_append (front : Text) {back : Text} (hback : StartsAtTop back) :
    parse (front ++ '\n' :: back) =
        (parse front).bind (fun first =>
          (parse back).map fun second => first.followedBy (Text.lines front).length second) ∧
      ((parse (front ++ '\n' :: back)).isOk = true ↔
        (parse front).isOk = true ∧ (parse back).isOk = true) ∧
      ∀ second, parse back = .ok second → ∃ entries, second.tree = .mapping entries none ∧
        (Entries.keys entries).Nodup ∧ ∀ entry ∈ entries, entry.line.isSome = true := by
  have hlines : Text.lines (front ++ '\n' :: back) = Text.lines front ++ Text.lines back :=
    Text.pieces_append front back
  have hparse : parse (front ++ '\n' :: back) = (parse front).bind fun first =>
      (parse back).map fun second => first.followedBy (Text.lines front).length second := by
    rw [parse_eq, parse_eq, parse_eq, hlines, State.run_append]
    cases hfront : State.initial.run (Text.lines front) 1 with
    | error fault => rfl
    | ok base =>
      obtain ⟨entries, htree⟩ := (State.grounded_initial.run hfront).root
      have htop := State.run_top ⟨entries, none, htree⟩ hback (Text.lines front).length 1
      refine htop.trans ?_
      cases State.initial.run (Text.lines back) 1 <;> rfl
  refine ⟨hparse, ?_, fun second hsecond => exists_root_of_parse hsecond⟩
  rw [hparse]
  cases parse front with
  | error fault => simp [Except.bind, Except.isOk, Except.toBool]
  | ok first => cases parse back <;> simp [Except.bind, Except.map, Except.isOk, Except.toBool]

/-- A text behind an open block scalar: the script does not go on, and the second value of a
    key takes the place of the first. -/
theorem parse_append_script :
    let front : Text := "on: push\nrun: |\n    make\n  -"
    let back : Text := "# next\non:\n- tag"
    StartsAtTop back ∧
      parse (front ++ '\n' :: back) = .ok
        ⟨.mapping
          [⟨"on", some 6, .sequence [.scalar (.str "tag") (some 7)] (some 7)⟩,
            ⟨"run", some 2, .scalar (.str []) (some 2)⟩] none, []⟩ := by
  intro front back
  have hback : StartsAtTop back := by
    intro content hcontent
    have hfirst : (Text.lines back).findSome? content? = some ⟨0, "on:"⟩ := by decide +kernel
    rw [hfirst, Option.some_inj] at hcontent
    subst hcontent
    decide
  have hfirst : parse front = .ok
      ⟨.mapping
        [⟨"on", some 1, .scalar (.str "push") (some 1)⟩,
          ⟨"run", some 2, .scalar (.str []) (some 2)⟩] none, []⟩ := rfl
  have hsecond : parse back = .ok
      ⟨.mapping [⟨"on", some 2, .sequence [.scalar (.str "tag") (some 3)] (some 3)⟩] none, []⟩ :=
    rfl
  refine ⟨hback, ?_⟩
  rw [(parse_append front hback).1, hfirst, hsecond]
  rfl

end WorkflowLint.Outline
