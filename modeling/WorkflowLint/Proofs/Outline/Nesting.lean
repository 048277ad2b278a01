/-
  WorkflowLint/Proofs/Outline/Nesting.lean
  ========================================
  **Frames nest by their columns.**

  The columns of open frames grow from the outside to the inside, except that an item
  may stand in the column of the key that its list belongs to (`Frame.IsOver`).  So a
  frame holds a line whenever one inside it does, and closing frames from the inside
  until one holds the line leaves exactly the frames that hold it by themselves
  (`unwind_eq_filter`).
-/
import WorkflowLint.Proofs.Outline.Handling

namespace WorkflowLint.Outline

/-! ### What holds a frame open -/

/-- The frame of a key, no block scalar, with a sequence or an empty mapping as its value. -/
def Frame.AwaitsItems (tree : Node) (frame : Frame) : Prop :=
  frame.scope.isBlock = false ∧ ∃ key, frame.scope.key = some key ∧
    ((∃ items line, tree.at? (frame.scope.owner ++ [.key key]) = some (.sequence items line)) ∨
      ∃ line, tree.at? (frame.scope.owner ++ [.key key]) = some (.mapping [] line))

/-- The inner of two frames belongs to an item of the list that the outer one's key has. -/
def Frame.IsItemOf (inner outer : Frame) : Prop :=
  ∃ key index, outer.scope.key = some key ∧ outer.scope.isBlock = false ∧
    inner.scope = ⟨outer.scope.owner ++ [.key key, .item index], none, false⟩

/-- The inner of two frames is deeper, or it is that of an item in the column of its list. -/
def Frame.IsOver (inner outer : Frame) : Prop :=
  outer.column < inner.column ∨ outer.column = inner.column ∧ inner.IsItemOf outer

variable {tree : Node} {inner outer frame top : Frame} {frames base : List Frame}
  {column : Nat} {isItem : Bool}

theorem takesItems_iff {node : Node} : takesItems node = true ↔
    (∃ items line, node = .sequence items line) ∨ ∃ line, node = .mapping [] line := by
  cases node with
  | scalar value line => simp [takesItems]
  | sequence items line => simp [takesItems]
  | mapping entries line => simp [takesItems]

theorem Frame.takesItems_iff : frame.takesItems tree = true ↔ frame.AwaitsItems tree := by
  obtain ⟨column, owner, key?, isBlock⟩ := frame
  simp only [Frame.takesItems, Frame.AwaitsItems, Scope.target]
  cases key? with
  | none => simp
  | some key =>
    cases isBlock with
    | true => simp
    | false =>
      cases hat : tree.at? (owner ++ [.key key]) with
      | none => simp [hat]
      | some node => simp [hat, Outline.takesItems_iff]

theorem Frame.holds_iff : frame.holds tree column isItem = true ↔
    frame.column < column ∨ isItem = true ∧ column = frame.column ∧ frame.AwaitsItems tree := by
  simp only [Frame.holds, Bool.or_eq_true, Bool.and_eq_true, decide_eq_true_eq, beq_iff_eq,
    Frame.takesItems_iff]
  constructor
  · rintro (hlt | ⟨⟨heq, hitem⟩, hawaits⟩)
    · exact .inl hlt
    · exact .inr ⟨hitem, heq.symm, hawaits⟩
  · rintro (hlt | ⟨hitem, heq, hawaits⟩)
    · exact .inl hlt
    · exact .inr ⟨⟨heq.symm, hitem⟩, hawaits⟩

theorem Frame.le_of_holds (h : frame.holds tree column isItem = true) : frame.column ≤ column := by
  rcases Frame.holds_iff.mp h with hlt | ⟨-, heq, -⟩
  · exact Nat.le_of_lt hlt
  · exact Nat.le_of_eq heq.symm

/-! ### The order of columns -/

theorem Frame.IsOver.le (h : inner.IsOver outer) : outer.column ≤ inner.column := by
  rcases h with hlt | ⟨heq, -⟩
  · exact Nat.le_of_lt hlt
  · exact Nat.le_of_eq heq

/-- Only the frame of an item can stand in the column of a frame outside it. -/
theorem Frame.IsOver.lt_of_key (h : inner.IsOver outer) (hkey : inner.scope.key ≠ none) :
    outer.column < inner.column := by
  rcases h with hlt | ⟨-, key, index, -, -, hscope⟩
  · exact hlt
  · rw [hscope] at hkey
    exact absurd rfl hkey

/-- A frame holds a line if one inside it does. -/
theorem Frame.IsOver.holds (h : inner.IsOver outer)
    (hholds : inner.holds tree column isItem = true) :
    outer.holds tree column isItem = true := by
  rcases Frame.holds_iff.mp hholds with hlt | ⟨-, heq, -, key, hkey, -⟩
  · exact Frame.holds_iff.mpr (.inl (Nat.lt_of_le_of_lt h.le hlt))
  · have hlt := h.lt_of_key (by simp [hkey])
    exact Frame.holds_iff.mpr (.inl (heq ▸ hlt))

theorem dropWhile_not_eq_filter {p : Frame → Bool}
    (h : frames.Pairwise fun inner outer => p inner = true → p outer = true) :
    frames.dropWhile (fun frame => !p frame) = frames.filter p := by
  induction frames with
  | nil => rfl
  | cons frame rest ih =>
    obtain ⟨hframe, hrest⟩ := List.pairwise_cons.mp h
    cases hp : p frame with
    | false => simp [hp, ih hrest]
    | true =>
      have hall : rest.filter p = rest :=
        List.filter_eq_self.mpr fun outer houter => hframe outer houter hp
      simp [hp, hall]

/-- Closing frames from the inside leaves the frames that hold the line by themselves. -/
theorem unwind_eq_filter (h : frames.Pairwise Frame.IsOver) :
    unwind tree column isItem frames = frames.filter (·.holds tree column isItem) :=
  dropWhile_not_eq_filter (h.imp Frame.IsOver.holds)

/-- Frames in one column are a key and an item of its list, next to each other. -/
theorem eq_succ_of_column_eq (h : frames.Pairwise Frame.IsOver) {i j : Nat} (hij : i < j)
    (hinner : frames[i]? = some inner) (houter : frames[j]? = some outer)
    (hcolumn : inner.column = outer.column) : j = i + 1 ∧ inner.IsItemOf outer := by
  obtain ⟨hi, rfl⟩ := List.getElem?_eq_some_iff.mp hinner
  obtain ⟨hj, rfl⟩ := List.getElem?_eq_some_iff.mp houter
  have hover := List.pairwise_iff_getElem.mp h
  have hitem : frames[i].IsItemOf frames[j] := by
    rcases hover i j hi hj hij with hlt | ⟨-, hitem⟩
    · omega
    · exact hitem
  refine ⟨?_, hitem⟩
  -- a frame between the two would be an item, and so would the inner one be of it
  by_contra hne
  have hbetween : i + 1 < j := by omega
  have hnext : i + 1 < frames.length := by omega
  have hlow := hover i (i + 1) hi hnext (by omega)
  have hhigh := hover (i + 1) j hnext hj hbetween
  rcases hlow with hlt | ⟨-, key, index, hkey, -⟩
  · have hle := hhigh.le
    omega
  · have hlt := hhigh.lt_of_key (by simp [hkey])
    have hle := (hover i (i + 1) hi hnext (by omega)).le
    omega

namespace State

variable {state next : State} {content : Content} {line : Text} {number : Int}
  {lines : List Text}

theorem framesFor_eq_filter (h : state.frames.Pairwise Frame.IsOver) (content : Content) :
    state.framesFor content =
      state.frames.filter (·.holds state.tree content.column content.isItem) :=
  unwind_eq_filter h

theorem pairwise_framesFor (h : state.frames.Pairwise Frame.IsOver) (content : Content) :
    (state.framesFor content).Pairwise Frame.IsOver :=
  h.sublist (state.framesFor_suffix content).sublist

theorem holds_of_mem_framesFor (h : state.frames.Pairwise Frame.IsOver)
    (hframe : frame ∈ state.framesFor content) :
    frame.holds state.tree content.column content.isItem = true := by
  rw [framesFor_eq_filter h, List.mem_filter] at hframe
  exact hframe.2

/-- The frames that stay open for a line are left of what it writes. -/
theorem lt_fieldColumn (h : state.frames.Pairwise Frame.IsOver)
    (hframe : frame ∈ state.framesFor content) : frame.column < content.fieldColumn := by
  have hholds := holds_of_mem_framesFor h hframe
  rw [Content.fieldColumn]
  cases hitem : content.isItem with
  | true =>
    have hle := Frame.le_of_holds hholds
    simp only [if_true]
    omega
  | false =>
    rw [hitem, Frame.holds_iff] at hholds
    simpa using hholds

theorem column_framesBelow {address : Address} {key : Text} {value : LineValue}
    (hframe : frame ∈ framesBelow address key column value) : frame.column = column := by
  cases value with
  | scalar scalar => exact absurd hframe List.not_mem_nil
  | nested => rw [List.mem_singleton.mp hframe]
  | block => rw [List.mem_singleton.mp hframe]

theorem pairwise_framesBelow (address : Address) (key : Text) (column : Nat) (value : LineValue) :
    (framesBelow address key column value).Pairwise Frame.IsOver := by
  cases value with
  | scalar scalar => exact .nil
  | nested => exact List.pairwise_singleton ..
  | block => exact List.pairwise_singleton ..

/-- The frames of a value may be opened over frames that are left of it. -/
theorem pairwise_framesBelow_append (hbase : base.Pairwise Frame.IsOver)
    (hlt : ∀ frame ∈ base, frame.column < column) (address : Address) (key : Text)
    (value : LineValue) : (framesBelow address key column value ++ base).Pairwise Frame.IsOver := by
  refine List.pairwise_append.mpr ⟨pairwise_framesBelow .., hbase, ?_⟩
  intro inner hinner outer houter
  left
  rw [column_framesBelow hinner]
  exact hlt outer houter

/-- The frame of an item may be opened over the frame of its list. -/
theorem pairwise_item_cons {owner : Address} {key : Text}
    (h : state.frames.Pairwise Frame.IsOver)
    (hscope : state.scopeFor content = ⟨owner, some key, false⟩) (index : Nat) :
    (⟨content.column, ⟨owner ++ [.key key, .item index], none, false⟩⟩ ::
      state.framesFor content).Pairwise Frame.IsOver := by
  have hkept := pairwise_framesFor h content
  refine List.pairwise_cons.mpr ⟨?_, hkept⟩
  have hholds (frame : Frame) (hframe : frame ∈ state.framesFor content) :=
    Frame.le_of_holds (holds_of_mem_framesFor h hframe)
  rw [scopeFor] at hscope
  cases hframes : state.framesFor content with
  | nil => simp
  | cons top rest =>
    rw [hframes] at hscope hkept hholds
    obtain ⟨hrest, -⟩ := List.pairwise_cons.mp hkept
    have htop : top.scope = ⟨owner, some key, false⟩ := hscope
    have hle := hholds top (List.mem_cons_self ..)
    intro outer houter
    rcases List.mem_cons.mp houter with rfl | houter
    · rcases Nat.lt_or_eq_of_le hle with hlt | heq
      · exact .inl hlt
      · exact .inr ⟨heq, key, index, by rw [htop], by rw [htop], by rw [htop]⟩
    · -- the list has a key, so the frames around it are further to the left
      have hlt := (hrest outer houter).lt_of_key (by simp [htop])
      exact .inl (Nat.lt_of_lt_of_le hlt hle)

/-- The frame that the value of a pair on a line opens, if it opens one. -/
inductive OpensPair (content : Content) : List Frame → Prop
  | nothing : OpensPair content []
  | pair (address : Address) {key text : Text} {value : LineValue}
      (hpair : Line.splitPair content.field = some (key, text)) :
      OpensPair content (framesBelow address key content.fieldColumn value)

/-- The frame that an item opens, if the line is an item of a list and opens one. -/
inductive OpensItem (state : State) (content : Content) : List Frame → Prop
  | nothing : OpensItem state content []
  | item {owner : Address} {key : Text} (hitem : content.isItem = true)
      (hscope : state.scopeFor content = ⟨owner, some key, false⟩) (index : Nat) :
      OpensItem state content [⟨content.column, ⟨owner ++ [.key key, .item index], none, false⟩⟩]

/-- A line leaves the frames that stay open for it, under those that it opens. -/
theorem Handles.exists_opened (h : state.Handles line number next)
    (hcontent : content? line = some content) :
    ∃ below self, next.frames = below ++ self ++ state.framesFor content ∧
      OpensPair content below ∧ state.OpensItem content self := by
  cases h with
  | ignored hnone => simp [hnone] at hcontent
  | script hsome | skipped hsome =>
    obtain rfl := Option.some_inj.mp (hsome.symm.trans hcontent)
    exact ⟨[], [], rfl, .nothing, .nothing⟩
  | pair hsome _ hpair =>
    obtain rfl := Option.some_inj.mp (hsome.symm.trans hcontent)
    exact ⟨_, [], by rw [List.append_nil], .pair _ hpair, .nothing⟩
  | item hsome hitem hscope _ _ hbecomes =>
    obtain rfl := Option.some_inj.mp (hsome.symm.trans hcontent)
    cases hbecomes with
    | bare => exact ⟨[], _, rfl, .nothing, .item hitem hscope _⟩
    | text => exact ⟨[], [], rfl, .nothing, .nothing⟩
    | pair hpair => exact ⟨_, _, rfl, .pair _ hpair, .item hitem hscope _⟩

theorem pairwise_opened (h : state.frames.Pairwise Frame.IsOver) {below self : List Frame}
    (hbelow : OpensPair content below) (hself : state.OpensItem content self) :
    (below ++ self ++ state.framesFor content).Pairwise Frame.IsOver := by
  have hkept : (self ++ state.framesFor content).Pairwise Frame.IsOver := by
    cases hself with
    | nothing => exact pairwise_framesFor h content
    | item hitem hscope index => exact pairwise_item_cons h hscope index
  have hlt : ∀ frame ∈ self ++ state.framesFor content, frame.column < content.fieldColumn := by
    intro frame hframe
    rcases List.mem_append.mp hframe with hframe | hframe
    · cases hself with
      | nothing => exact absurd hframe List.not_mem_nil
      | item hitem =>
        rw [List.mem_singleton.mp hframe, Content.fieldColumn, if_pos hitem]
        simp only
        omega
    · exact lt_fieldColumn h hframe
  rw [List.append_assoc]
  cases hbelow with
  | nothing => exact hkept
  | pair => exact pairwise_framesBelow_append hkept hlt ..

/-- After any lines, columns grow from the outside to the inside. -/
theorem pairwise_isOver_of_run (hrun : initial.run lines 1 = .ok state) :
    state.frames.Pairwise Frame.IsOver := by
  refine run_induction (motive := fun _ state => state.frames.Pairwise Frame.IsOver) .nil ?_ hrun
  intro lines state next line hover hrun hstep
  have hhandles := handles_of_step (sound_of_run hrun) hstep
  cases hcontent : content? line with
  | none =>
    rw [step, hcontent] at hstep
    cases hstep
    exact hover
  | some content =>
    obtain ⟨below, self, hframes, hbelow, hself⟩ := hhandles.exists_opened hcontent
    rw [hframes]
    exact pairwise_opened hover hbelow hself

end State

end WorkflowLint.Outline
