/-
  WorkflowLint/Proofs/Outline/OffSide.lean
  ========================================
  **The off-side rule.**

  Which frames are open for a line is the outcome of many lines that each close some and
  open some.  It can be told without them, from the frames that lines have opened: a frame
  is open if each line from there on is deeper, or is a list item in the column of a key
  that awaits items (`framesFor_eq_filter_lasts`).  The invariant is that the frames after
  some lines are the lasting ones (`State.reverse_frames_of_run`).
-/
import WorkflowLint.Proofs.Outline.Nesting

namespace WorkflowLint.Outline

/-! ### The lines that a pass comes to -/

/-- A line with content that a pass comes to: its number, its content and the state it finds. -/
structure Visit where
  number : Int
  content : Content
  state : State

/-- A frame and the number of the line that opened it. -/
structure Opening where
  number : Int
  frame : Frame

/-- The lines with content that a pass comes to from a state, in order; the first line has number
    `number`. -/
def State.visits : List Text → Int → State → List Visit
  | [], _, _ => []
  | line :: rest, number, state =>
    ((content? line).map fun content => (⟨number, content, state⟩ : Visit)).toList ++
      match state.step line number with
      | .error _ => []
      | .ok next => visits rest (number + 1) next

namespace Visit

/-- The frames that stay open for the line, innermost first. -/
def frames (visit : Visit) : List Frame := visit.state.framesFor visit.content

/-- The frames that the line opens, in the order in which it opens them: those that are there after
    it and have not stayed open for it. -/
def openings (visit : Visit) : List Opening :=
  match visit.state.place visit.content visit.number with
  | .error _ => []
  | .ok next =>
    (next.frames.take (next.frames.length - visit.frames.length)).reverse.map
      (Opening.mk visit.number)

/-- Whether the line lets a frame stay open: it is deeper than the frame, or it is a list item in
    the column of a key that awaits items. -/
def Spares (visit : Visit) (frame : Frame) : Prop :=
  frame.column < visit.content.column ∨
    visit.content.isItem = true ∧ visit.content.column = frame.column ∧
      frame.AwaitsItems visit.state.tree

instance (visit : Visit) : DecidablePred visit.Spares :=
  fun _ => decidable_of_iff _ Frame.holds_iff

end Visit

/-- Whether a frame that an earlier line has opened is spared by all lines from there up to line
    `number`. -/
def Opening.Lasts (visits : List Visit) (number : Int) (opening : Opening) : Prop :=
  opening.number < number ∧ ∀ visit ∈ visits, opening.number < visit.number →
    visit.number ≤ number → visit.Spares opening.frame

instance (visits : List Visit) (number : Int) : DecidablePred (Opening.Lasts visits number) :=
  fun _ => inferInstanceAs (Decidable (_ ∧ _))

/-- The frames that lines have opened and that none of the lines after has closed. -/
def lasting (visits : List Visit) : List Opening :=
  (visits.flatMap Visit.openings).filter fun opening =>
    ∀ visit ∈ visits, opening.number < visit.number → visit.Spares opening.frame

variable {visit : Visit} {visits earlier later : List Visit} {opening : Opening}
  {state next : State} {content : Content} {line : Text} {number : Int}
  {lines before after : List Text}

namespace State

theorem visits_append (hrun : state.run before number = .ok next) (after : List Text) :
    state.visits (before ++ after) number =
      state.visits before number ++ next.visits after (number + before.length) := by
  induction before generalizing number state with
  | nil =>
    cases hrun
    simp [visits]
  | cons line before ih =>
    rw [run] at hrun
    cases hstep : state.step line number with
    | error fault => simp [hstep, Except.bind] at hrun
    | ok middle =>
      simp only [hstep, Except.bind] at hrun
      simp only [List.cons_append, visits, hstep, ih hrun, List.length_cons, List.append_assoc]
      congr 3
      omega

theorem number_of_mem_visits (h : visit ∈ state.visits lines number) :
    number ≤ visit.number ∧ visit.number < number + lines.length := by
  induction lines generalizing number state with
  | nil => exact absurd h List.not_mem_nil
  | cons line rest ih =>
    rw [visits, List.mem_append, Option.mem_toList] at h
    rw [List.length_cons]
    rcases h with h | h
    · obtain ⟨content, -, rfl⟩ := Option.map_eq_some_iff.mp h
      simp only
      omega
    · cases hstep : state.step line number with
      | error fault => simp [hstep] at h
      | ok next =>
        rw [hstep] at h
        obtain ⟨hle, hlt⟩ := ih h
        omega

end State

/-! ### What is open before a line -/

theorem number_of_mem_openings (h : opening ∈ visit.openings) : opening.number = visit.number := by
  rw [Visit.openings] at h
  split at h
  · exact absurd h List.not_mem_nil
  · obtain ⟨frame, -, rfl⟩ := List.mem_map.mp h
    rfl

/-- What lies over the frames that have stayed open is what the line opens. -/
theorem map_frame_openings {opened : List Frame}
    (hplace : visit.state.place visit.content visit.number = .ok next)
    (hframes : next.frames = opened ++ visit.frames) :
    visit.openings.map Opening.frame = opened.reverse := by
  simp [Visit.openings, hplace, hframes, Function.comp_def]

theorem exists_of_mem_flatMap_openings (h : opening ∈ visits.flatMap Visit.openings) :
    ∃ visit ∈ visits, opening.number = visit.number := by
  obtain ⟨visit, hvisit, hopening⟩ := List.mem_flatMap.mp h
  exact ⟨visit, hvisit, number_of_mem_openings hopening⟩

/-- One more line closes the frames that it does not spare, and opens its own. -/
theorem lasting_concat (h : ∀ other ∈ earlier, other.number < visit.number) :
    lasting (earlier ++ [visit]) =
      (lasting earlier).filter (fun opening => visit.Spares opening.frame) ++ visit.openings := by
  rw [lasting, lasting, List.flatMap_append, List.filter_append, List.filter_filter]
  congr 1
  · apply List.filter_congr
    intro opening hopening
    obtain ⟨other, hother, hnumber⟩ := exists_of_mem_flatMap_openings hopening
    have hlt : opening.number < visit.number := hnumber ▸ h other hother
    rw [Bool.eq_iff_iff, Bool.and_eq_true, decide_eq_true_eq, decide_eq_true_eq,
      decide_eq_true_eq, List.forall_mem_append, List.forall_mem_singleton]
    constructor
    · rintro ⟨hlasting, hspares⟩
      exact ⟨hspares hlt, hlasting⟩
    · rintro ⟨hspares, hlasting⟩
      exact ⟨hlasting, fun _ => hspares⟩
  · rw [List.flatMap_singleton]
    apply List.filter_eq_self.mpr
    intro opening hopening
    have hnumber := number_of_mem_openings hopening
    simp only [decide_eq_true_eq]
    intro other hother hlt
    -- no line comes after the one that opened the frame
    rcases List.mem_append.mp hother with hother | hother
    · have := h other hother
      omega
    · rw [List.mem_singleton.mp hother] at hlt
      omega

/-- The frames of which each is spared by the line are the frames that stay open for it. -/
theorem reverse_frames_eq (hover : visit.state.frames.Pairwise Frame.IsOver)
    (hframes : visit.state.frames.reverse = (lasting earlier).map Opening.frame) :
    visit.frames.reverse =
      ((lasting earlier).filter fun opening => visit.Spares opening.frame).map Opening.frame := by
  have hspares (frame : Frame) :
      frame.holds visit.state.tree visit.content.column visit.content.isItem =
        decide (visit.Spares frame) := by
    rw [Bool.eq_iff_iff, decide_eq_true_eq]
    exact Frame.holds_iff
  rw [Visit.frames, State.framesFor_eq_filter hover, ← List.filter_reverse, hframes,
    List.filter_map]
  congr 1
  apply List.filter_congr
  intro opening hopening
  exact hspares opening.frame

namespace State

/-- The frames after some lines are those that lines have opened and no line has closed. -/
theorem reverse_frames_of_run (hrun : initial.run lines 1 = .ok state) :
    state.frames.reverse = (lasting (initial.visits lines 1)).map Opening.frame := by
  refine run_induction (motive := fun lines state =>
    state.frames.reverse = (lasting (initial.visits lines 1)).map Opening.frame) rfl ?_ hrun
  intro lines state next line hframes hrun hstep
  have hover := pairwise_isOver_of_run hrun
  have hhandles := handles_of_step (sound_of_run hrun) hstep
  rw [visits_append hrun]
  cases hcontent : content? line with
  | none =>
    rw [step, hcontent] at hstep
    cases hstep
    simpa [visits, step, hcontent] using hframes
  | some content =>
    let visit : Visit := ⟨1 + lines.length, content, state⟩
    have hvisits : state.visits [line] (1 + lines.length) = [visit] := by
      simp [visits, hcontent, hstep, visit]
    have hearlier : ∀ other ∈ initial.visits lines 1, other.number < visit.number :=
      fun other hother => (number_of_mem_visits hother).2
    obtain ⟨below, self, hnext, -, -⟩ := hhandles.exists_opened hcontent
    have hplace : visit.state.place visit.content visit.number = .ok next := by
      rwa [step, hcontent] at hstep
    have hopenings : visit.openings.map Opening.frame = (below ++ self).reverse :=
      map_frame_openings hplace hnext
    have hkept : visit.frames.reverse = _ := reverse_frames_eq hover hframes
    rw [hvisits, lasting_concat hearlier, List.map_append, hopenings, ← hkept, hnext,
      List.reverse_append]
    rfl

end State

/-- What lasts up to a line among all frames that a text ever opens. -/
theorem filter_lasts (hearlier : ∀ other ∈ earlier, other.number < visit.number)
    (hlater : ∀ other ∈ later, visit.number < other.number) :
    (((earlier ++ visit :: later).flatMap Visit.openings).filter
        (Opening.Lasts (earlier ++ visit :: later) visit.number)) =
      (lasting earlier).filter fun opening => visit.Spares opening.frame := by
  have hnone : ((visit :: later).flatMap Visit.openings).filter
      (Opening.Lasts (earlier ++ visit :: later) visit.number) = [] := by
    apply List.filter_eq_nil_iff.mpr
    intro opening hopening
    obtain ⟨other, hother, hnumber⟩ := exists_of_mem_flatMap_openings hopening
    simp only [decide_eq_true_eq]
    rintro ⟨hlt, -⟩
    rcases List.mem_cons.mp hother with rfl | hother
    · omega
    · have := hlater other hother
      omega
  rw [List.flatMap_append, List.filter_append, hnone, List.append_nil, lasting, List.filter_filter]
  apply List.filter_congr
  intro opening hopening
  obtain ⟨other, hother, hnumber⟩ := exists_of_mem_flatMap_openings hopening
  have hlt := hearlier other hother
  rw [Bool.eq_iff_iff, Bool.and_eq_true, decide_eq_true_eq, decide_eq_true_eq, decide_eq_true_eq]
  constructor
  · rintro ⟨-, hlasts⟩
    constructor
    · apply hlasts visit
      · simp
      · omega
      · exact Int.le_refl _
    · intro next hnext hafter
      apply hlasts next
      · simp [hnext]
      · exact hafter
      · exact Int.le_of_lt (hearlier next hnext)
  · rintro ⟨hspares, hlasting⟩
    refine ⟨by omega, ?_⟩
    intro next hnext hafter hupto
    rcases List.mem_append.mp hnext with hnext | hnext
    · exact hlasting next hnext hafter
    · rcases List.mem_cons.mp hnext with rfl | hnext
      · exact hspares
      · have := hlater next hnext
        omega

/-- At a line with content, the frames that stay open for it, the root set aside, are in the order
    of their opening those that an earlier line has opened and that each line with content from
    there on, up to this one, has spared.  From the outside to the inside their columns do not
    decrease, and two of them are in one column only if the inner one is that of an item of the list
    that the key of the outer one has, and comes right after it. -/
theorem framesFor_eq_filter_lasts {text : Text}
    (htext : Text.lines text = before ++ line :: after)
    (hrun : State.initial.run before 1 = .ok state) (hcontent : content? line = some content) :
    let visits := State.initial.visits (Text.lines text) 1
    (state.framesFor content).reverse = ((visits.flatMap Visit.openings).filter
        (Opening.Lasts visits (1 + before.length))).map Opening.frame ∧
      (state.framesFor content).Pairwise (fun inner outer => outer.column ≤ inner.column) ∧
      ∀ (i j : Nat) (inner outer : Frame), i < j → (state.framesFor content)[i]? = some inner →
        (state.framesFor content)[j]? = some outer → inner.column = outer.column →
          j = i + 1 ∧ inner.IsItemOf outer := by
  intro visits
  have hover := State.pairwise_isOver_of_run hrun
  have hkept := State.pairwise_framesFor hover content
  let visit : Visit := ⟨1 + before.length, content, state⟩
  refine ⟨?_, hkept.imp Frame.IsOver.le, ?_⟩
  · have hvisits : ∃ later, visits = State.initial.visits before 1 ++ visit :: later ∧
        ∀ other ∈ later, visit.number < other.number := by
      simp only [visits, htext, State.visits_append hrun, State.visits, hcontent]
      refine ⟨_, rfl, ?_⟩
      intro other hother
      split at hother
      · exact absurd hother List.not_mem_nil
      · have hle := (State.number_of_mem_visits hother).1
        simp only [visit]
        omega
    obtain ⟨later, hvisits, hlater⟩ := hvisits
    have hframes : visit.frames.reverse = _ :=
      reverse_frames_eq hover (State.reverse_frames_of_run hrun)
    have hearlier : ∀ other ∈ State.initial.visits before 1, other.number < visit.number :=
      fun other hother => (State.number_of_mem_visits hother).2
    rw [hvisits]
    exact hframes.trans (congrArg _ (filter_lasts hearlier hlater).symm)
  · intro i j inner outer hij hinner houter hcolumn
    exact eq_succ_of_column_eq hkept hij hinner houter hcolumn

/-- An item in the column of its list closes the item before it, and of the seven frames that the
    text opens, three are open for it. -/
theorem framesFor_eq_filter_lasts_item :
    let text : Text :=
      "jobs:\n  ci:\n    steps:\n    - uses: a # first\n      with:\n\n    - run: |"
    let visits := State.initial.visits (Text.lines text) 1
    ∃ (state : State) (content : Content), content? "    - run: |" = some content ∧
      (visits.flatMap Visit.openings).map Opening.number = [1, 2, 3, 4, 5, 7, 7] ∧
      (state.framesFor content).map Frame.column = [4, 2, 0] ∧
      (state.framesFor content).reverse = ((visits.flatMap Visit.openings).filter
        (Opening.Lasts visits 7)).map Opening.frame := by
  intro text visits
  let before : List Text :=
    ["jobs:", "  ci:", "    steps:", "    - uses: a # first", "      with:", ""]
  let item : Address := [.key "jobs", .key "ci", .key "steps", .item 0]
  let state : State :=
    ⟨.mapping [⟨"jobs", some 1, .mapping [⟨"ci", some 2, .mapping [⟨"steps", some 3,
        .sequence [.mapping [⟨"uses", some 4, .scalar (.str "a") (some 4)⟩,
          ⟨"with", some 5, .mapping [] (some 5)⟩] (some 4)] (some 4)⟩] (some 2)⟩] (some 1)⟩] none,
      [⟨6, ⟨item, some "with", false⟩⟩, ⟨4, ⟨item, none, false⟩⟩,
        ⟨4, ⟨[.key "jobs", .key "ci"], some "steps", false⟩⟩,
        ⟨2, ⟨[.key "jobs"], some "ci", false⟩⟩, ⟨0, ⟨[], some "jobs", false⟩⟩], []⟩
  have htext : Text.lines text = before ++ ("    - run: |" : Text) :: [] := by decide
  have hrun : State.initial.run before 1 = .ok state := rfl
  have hcontent : content? "    - run: |" = some ⟨4, "- run: |"⟩ := by decide
  obtain ⟨hframes, -, -⟩ := framesFor_eq_filter_lasts htext hrun hcontent
  refine ⟨state, _, hcontent, by decide, by decide, hframes⟩

end WorkflowLint.Outline
