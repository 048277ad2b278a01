/-
  WorkflowLint/Proofs/Outline/Body.lean
  =====================================
  **The body of a block scalar is opaque.**

  A line that is handled as a pair assigns its key and opens a frame in the column of
  that key (`State.Assigns.exists_step`).  If the frame belongs to a block scalar,
  lines that are deeper than the key leave the state as it is, whatever they hold.  So
  two texts that differ only in the body of a block scalar, with as many lines in it,
  are read as the same outline or fail alike (`parse_body`).
-/
import WorkflowLint.Proofs.Outline.Handling

namespace WorkflowLint.Outline

open Line (isIgnorable isBlockIndicator)

/-- A line that stays in the body of a block scalar with its key in `column`: it is deeper than
    that, blank or a comment. -/
def StaysBelow (column : Nat) (line : Text) : Prop :=
  isIgnorable line = true ∨ column < Text.blankWidth line

instance (column : Nat) : DecidablePred (StaysBelow column) :=
  fun _ => inferInstanceAs (Decidable (_ ∨ _))

namespace State

/-- The scope of a line has a place for it: a mapping if the line is no list item, and if it is
    one, a key whose value is not a mapping with entries. -/
def Takes (state : State) (content : Content) : Prop :=
  (state.scopeFor content).isBlock = false ∧
    if content.isItem then
      ∃ key, (state.scopeFor content).key = some key ∧ ∀ entry entries line,
        state.tree.at? ((state.scopeFor content).owner ++ [.key key]) ≠
          some (.mapping (entry :: entries) line)
    else ∃ entries line,
      state.tree.at? (state.scopeFor content).target = some (.mapping entries line)

/-- A line, or what follows the dash of a list item, is handled as a pair of a key and a text; the
    key stands in `column`. -/
def Assigns (state : State) (line : Text) (column : Nat) (key text : Text) : Prop :=
  ∃ content, content? line = some content ∧ state.Takes content ∧
    Line.splitPair content.field = some (key, text) ∧ content.fieldColumn = column

variable {state next : State} {content : Content} {line key text : Text} {column : Nat}
  {frame : Frame} {base : List Frame} {body : List Text}

theorem addPair_eq (state : State) {scope : Scope} {entries : List (Entry Node)} {mapLine : Option Int}
    (hpair : Line.splitPair content.text = some (key, text))
    (hat : state.tree.at? scope.target = some (.mapping entries mapLine)) (number : Int) :
    state.addPair scope content number = (Line.readValue text).map fun value =>
      state.assign scope.target key value content.column number := by
  simp only [addPair, hpair, hat]

/-- The pair behind a dash is assigned in the item that has been added for it. -/
theorem exists_addItem (state : State) {scope : Scope} {listKey : Text}
    (hpair : Line.splitPair (Text.trim (content.text.drop 1)) = some (key, text))
    (hkey : scope.key = some listKey) (hlist : ∀ entry entries line,
      state.tree.at? (scope.owner ++ [.key listKey]) ≠ some (.mapping (entry :: entries) line))
    (number : Int) : ∃ target opened, state.addItem scope content number =
      (Line.readValue text).map fun value => assign target key value
        (content.column + 1 + Text.blankWidth (content.text.drop 1)) number opened := by
  have hopen : ∃ opened, state.openSequence? scope.owner listKey number = some opened := by
    rw [openSequence?]
    split
    · exact ⟨_, rfl⟩
    · rename_i entry entries line hat
      exact absurd hat (hlist entry entries line)
    · exact ⟨_, rfl⟩
  obtain ⟨⟨opened, index⟩, hopen⟩ := hopen
  have hne : (Text.trim (content.text.drop 1)).isEmpty = false := by
    cases hfield : Text.trim (content.text.drop 1) with
    | nil =>
      rw [hfield] at hpair
      cases hpair
    | cons c rest => rfl
  simp only [addItem, hkey, hopen, hne, hpair, Bool.false_eq_true, if_false]
  exact ⟨_, _, rfl⟩

/-- Handling a line as a pair is reading the text behind its key and assigning the value. -/
theorem Assigns.exists_step (h : state.Assigns line column key text) (number : Int) :
    ∃ target opened, state.step line number =
      (Line.readValue text).map fun value => assign target key value column number opened := by
  obtain ⟨content, hcontent, ⟨hscript, htakes⟩, hpair, rfl⟩ := h
  have hplace : ¬(currentScope (unwind state.tree content.column content.isItem
      state.frames)).isBlock = true := by
    rw [Bool.not_eq_true]
    exact hscript
  rw [step, hcontent]
  simp only [place, if_neg hplace]
  rw [Content.field] at hpair
  rw [Content.fieldColumn]
  by_cases hitem : content.isItem = true
  · rw [if_pos hitem] at htakes hpair ⊢
    rw [if_pos hitem]
    obtain ⟨listKey, hkey, hlist⟩ := htakes
    exact exists_addItem { state with frames := state.framesFor content } hpair hkey hlist number
  · rw [if_neg hitem] at htakes hpair ⊢
    rw [if_neg hitem]
    obtain ⟨entries, mapLine, hat⟩ := htakes
    exact ⟨_, _, addPair_eq { state with frames := state.framesFor content } hpair hat number⟩

/-- The frame that the header of a block scalar opens. -/
theorem Assigns.exists_script (h : state.Assigns line column key text)
    (htext : isBlockIndicator text = true) (number : Int) : ∃ next frame base,
      state.step line number = .ok next ∧ next.frames = frame :: base ∧
        frame.scope.isBlock = true ∧ frame.column = column := by
  obtain ⟨target, opened, hstep⟩ := h.exists_step number
  have hread : Line.readValue text = .ok .block := by
    cases text with
    | nil => cases htext
    | cons c rest => rw [Line.readValue, if_neg (by simp), if_pos htext]
  rw [hread] at hstep
  exact ⟨_, _, _, hstep, rfl, rfl, rfl⟩

/-- The body of a block scalar leaves the state as it is. -/
theorem run_script (hframes : state.frames = frame :: base)
    (hblock : frame.scope.isBlock = true) (hbody : ∀ line ∈ body, StaysBelow frame.column line)
    (number : Int) : state.run body number = .ok state :=
  run_of_step (fun line hline _ => step_script hblock hframes (hbody line hline)) number

/-- Behind the header of a block scalar, its body is passed over. -/
theorem run_header_body {before : List Text} (hrun : initial.run before 1 = .ok state)
    (hassigns : state.Assigns line column key text) (htext : isBlockIndicator text = true)
    (after : List Text) : ∃ next : State, ∀ body, (∀ line ∈ body, StaysBelow column line) →
      initial.run (before ++ line :: (body ++ after)) 1 =
        next.run after (1 + before.length + 1 + body.length) := by
  obtain ⟨next, frame, base, hstep, hframes, hblock, rfl⟩ :=
    hassigns.exists_script htext (1 + before.length)
  refine ⟨next, fun body hbody => ?_⟩
  rw [run_append, hrun]
  simp only [Except.bind, run, hstep]
  rw [run_append, run_script hframes hblock hbody]
  rfl

end State

/-- A block scalar with its key in some column may have any body: texts that differ in nothing
    but lines that stay below that column, as many in both, are read alike. -/
theorem parse_body {text other : Text} {before body body' after : List Text} {header : Text}
    {state : State} {column : Nat} {key indicator : Text}
    (htext : Text.lines text = before ++ header :: (body ++ after))
    (hother : Text.lines other = before ++ header :: (body' ++ after))
    (hlength : body.length = body'.length) (hrun : State.initial.run before 1 = .ok state)
    (hassigns : state.Assigns header column key indicator)
    (hindicator : isBlockIndicator indicator = true)
    (hbody : ∀ line ∈ body, StaysBelow column line)
    (hbody' : ∀ line ∈ body', StaysBelow column line) : parse text = parse other := by
  obtain ⟨next, hnext⟩ := State.run_header_body hrun hassigns hindicator after
  rw [parse, parse, htext, hother, hnext body hbody, hnext body' hbody', hlength]

/-- In the body of a block scalar that is the first key of a list item, columns count from the key,
    and neither keys nor numbers nor further headers are read. -/
theorem parse_body_item :
    let text : Text := "steps:\n- run: |2 # script\n   make: |\n      - all\nname: ci"
    let other : Text := "steps:\n- run: |2 # script\n# none\n    '\nname: ci"
    parse text = parse other ∧ parse text = .ok
      ⟨.mapping
        [⟨"steps", some 1, .sequence
            [.mapping [⟨"run", some 2, .scalar (.str []) (some 2)⟩] (some 2)] (some 2)⟩,
          ⟨"name", some 5, .scalar (.str "ci") (some 5)⟩] none, []⟩ := by
  intro text other
  have hrun : State.initial.run ["steps:"] 1 = .ok
      ⟨.mapping [⟨"steps", some 1, .mapping [] (some 1)⟩] none, [⟨0, ⟨[], some "steps", false⟩⟩],
        []⟩ := rfl
  have hassigns : State.Assigns
      ⟨.mapping [⟨"steps", some 1, .mapping [] (some 1)⟩] none, [⟨0, ⟨[], some "steps", false⟩⟩],
        []⟩ "- run: |2 # script" 2 "run" "|2" := by
    refine ⟨⟨0, "- run: |2"⟩, by decide, ⟨by decide, "steps", by decide, ?_⟩, by decide, by decide⟩
    rintro entry entries line ⟨⟩
  have htext : Text.lines text = (["steps:"] : List Text) ++ ("- run: |2 # script" : Text) ::
      ((["   make: |", "      - all"] : List Text) ++ (["name: ci"] : List Text)) := by decide
  have hother : Text.lines other = (["steps:"] : List Text) ++ ("- run: |2 # script" : Text) ::
      ((["# none", "    '"] : List Text) ++ (["name: ci"] : List Text)) := by decide
  exact ⟨parse_body htext hother rfl hrun hassigns (by decide) (by decide) (by decide), rfl⟩

end WorkflowLint.Outline
