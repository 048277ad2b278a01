/-
  WorkflowLint/Proofs/Outline/Populated.lean
  ==========================================
  **What fills the value of a key.**

  A key without a value on its line gets one from the lines below, and the first line
  with content among them decides whether it can: if it is deeper, or a list item in the
  column of the key, then the frame of the key stays open (`follows_of_run`).  If not,
  no frame leads to the value any more (`Closed`), no later line opens one that does
  (`Handles.spares`), and the value stays empty.
-/
import WorkflowLint.Proofs.Outline.Nesting
import WorkflowLint.Proofs.Outline.Origin

namespace WorkflowLint

/-- A sequence with items or a mapping with entries. -/
inductive Node.IsPopulated : Node → Prop
  | sequence (item : Node) (items : List Node) (line : Option Int) :
      IsPopulated (.sequence (item :: items) line)
  | mapping (entry : Entry Node) (entries : List (Entry Node)) (line : Option Int) :
      IsPopulated (.mapping (entry :: entries) line)

namespace Outline

namespace State

variable {state next final : State} {lines : List Text} {line key : Text} {number n : Int}
  {address : Address} {node : Node}

/-! ### Values that no frame leads to -/

theorem target_framesBelow {column : Nat} {value : LineValue} {frame : Frame}
    (hframe : frame ∈ framesBelow address key column value) :
    frame.scope.target = address ++ [.key key] := by
  cases value with
  | scalar scalar => exact absurd hframe List.not_mem_nil
  | nested => rw [List.mem_singleton.mp hframe, Scope.target]
  | block => rw [List.mem_singleton.mp hframe, Scope.target]

/-- No open frame leads to a place or below it. -/
def Closed (frames : List Frame) (place : Address) : Prop :=
  ∀ frame ∈ frames, ¬place <+: frame.scope.target

theorem Closed.scope {content : Content}
    (h : Closed (state.framesFor content) (address ++ [.key key])) :
    ¬address ++ [.key key] <+: (state.scopeFor content).target := by
  rw [scopeFor]
  cases hframes : state.framesFor content with
  | nil => simp [currentScope, Scope.root, Scope.target]
  | cons frame rest => exact h frame (hframes ▸ List.mem_cons_self ..)

/-- A line that is not held at a place writes nothing there and opens no frame there. -/
theorem Handles.spares (h : state.Handles line number next)
    (haddress : ∀ list index, address ≠ list ++ [.item index]) (hlt : n < number)
    (hline : next.tree.keyLine? address key = some n) :
    state.tree.keyLine? address key = some n ∧
      (content? line = none ∧ next = state ∨ ∃ content, content? line = some content ∧
        Spares state.tree next.tree (state.scopeFor content).target (address ++ [.key key]) ∧
        (Closed (state.framesFor content) (address ++ [.key key]) →
          Closed next.frames (address ++ [.key key]))) := by
  cases h with
  | ignored hcontent => exact ⟨hline, .inl ⟨hcontent, rfl⟩⟩
  | script hcontent => exact ⟨hline, .inr ⟨_, hcontent, .refl _ _ _, id⟩⟩
  | skipped hcontent => exact ⟨hline, .inr ⟨_, hcontent, .refl _ _ _, id⟩⟩
  | pair hcontent hscript hpair hread hat hitem =>
    rename_i content set text value entries mapLine
    rcases set_cases hat value (.inl rfl) hline with ⟨-, -, rfl⟩ | ⟨hold, hne, hspares⟩
    · exact absurd hlt (Int.lt_irrefl _)
    · refine ⟨hold, .inr ⟨content, hcontent, hspares, fun hclosed frame hframe hplace => ?_⟩⟩
      rcases List.mem_append.mp hframe with hopened | hkept
      · rw [target_framesBelow hopened, List.prefix_concat_iff] at hplace
        rcases hplace with heq | hplace
        · obtain ⟨haddress, hkey⟩ := List.append_inj' heq rfl
          cases hkey
          exact hne ⟨haddress, rfl⟩
        · exact hclosed.scope hplace
      · exact hclosed frame hkept hplace
  | item hcontent hitem hscope hat hopens hbecomes =>
    rename_i content owner listKey node item items listLine opened
    have hne : address ≠ owner ++ [.key listKey, .item items.length] := by
      rw [List.append_cons]
      exact haddress _ _
    obtain ⟨hold, hspares⟩ := item_spares hat hopens hbecomes hne hline
    have htarget : (state.scopeFor content).target = owner ++ [.key listKey] := by
      rw [hscope, Scope.target]
    refine ⟨hold, .inr ⟨content, hcontent, by rwa [htarget], fun hclosed frame hframe hplace => ?_⟩⟩
    rcases List.mem_append.mp hframe with hopened | hkept
    · have howner := hbecomes.owner_eq hopened
      have hitem : ¬address ++ [.key key] <+: owner ++ [.key listKey, .item items.length] := by
        rw [List.append_cons owner (.key listKey) [.item items.length], List.prefix_concat_iff,
          not_or, ← htarget]
        exact ⟨concat_item_ne _ address _ key, hclosed.scope⟩
      rw [Scope.target, howner] at hplace
      split at hplace
      · exact hitem hplace
      · rcases List.prefix_concat_iff.mp hplace with heq | hplace
        · exact hne (List.append_inj_left' heq rfl)
        · exact hitem hplace
    · exact hclosed frame hkept hplace

/-- What a line with `spares` keeps holds after all lines below, and the key has its line all
    the way. -/
theorem run_spares {motive : State → Prop}
    (haddress : ∀ list index, address ≠ list ++ [.item index])
    (hnext : ∀ {state next : State} {line : Text} {number : Int}, n < number →
      state.Handles line number next → next.tree.keyLine? address key = some n →
        motive state → motive next)
    (hsound : state.Sound) (hlt : n < number) (hrun : state.run lines number = .ok final)
    (hline : final.tree.keyLine? address key = some n) :
    state.tree.keyLine? address key = some n ∧ (motive state → motive final) := by
  induction lines generalizing state number with
  | nil =>
    cases hrun
    exact ⟨hline, id⟩
  | cons line rest ih =>
    rw [run] at hrun
    cases hstep : state.step line number with
    | error fault => simp [hstep, Except.bind] at hrun
    | ok next =>
      rw [hstep] at hrun
      have hhandles := handles_of_step hsound hstep
      obtain ⟨hnextLine, hmotive⟩ := ih (hsound.step hstep) (by omega) hrun
      exact ⟨(hhandles.spares haddress hlt hnextLine).1,
        fun h => hmotive (hnext hlt hhandles hnextLine h)⟩

/-- A value that no frame leads to stays as it is. -/
theorem own_of_run (haddress : ∀ list index, address ≠ list ++ [.item index])
    (hsound : state.Sound) (hlt : n < number) (hrun : state.run lines number = .ok final)
    (hline : final.tree.keyLine? address key = some n)
    (hclosed : Closed state.frames (address ++ [.key key])) :
    (final.tree.at? (address ++ [.key key])).map Node.own =
      (state.tree.at? (address ++ [.key key])).map Node.own := by
  refine ((run_spares (motive := fun other => Closed other.frames (address ++ [.key key]) ∧
    (other.tree.at? (address ++ [.key key])).map Node.own =
      (state.tree.at? (address ++ [.key key])).map Node.own) haddress ?_ hsound hlt hrun hline).2
    ⟨hclosed, rfl⟩).2
  rintro state next line number hlt hhandles hline ⟨hclosed, hown⟩
  obtain ⟨-, ⟨-, rfl⟩ | ⟨content, -, hspares, hopened⟩⟩ := hhandles.spares haddress hlt hline
  · exact ⟨hclosed, hown⟩
  · have hkept : Closed (state.framesFor content) (address ++ [.key key]) :=
      fun frame hframe => hclosed frame ((state.framesFor_suffix content).mem hframe)
    exact ⟨hopened hkept, (hspares.own hkept.scope).trans hown⟩

theorem sequence_of_run (haddress : ∀ list index, address ≠ list ++ [.item index])
    (hsound : state.Sound) (hlt : n < number) (hrun : state.run lines number = .ok final)
    (hline : final.tree.keyLine? address key = some n)
    (hlist : ∃ items line, state.tree.at? (address ++ [.key key]) = some (.sequence items line)) :
    ∃ items line, final.tree.at? (address ++ [.key key]) = some (.sequence items line) := by
  refine (run_spares (motive := fun other => ∃ items line,
    other.tree.at? (address ++ [.key key]) = some (.sequence items line)) haddress ?_ hsound hlt
    hrun hline).2 hlist
  rintro state next line number hlt hhandles hline ⟨items, listLine, hat⟩
  obtain ⟨-, ⟨-, rfl⟩ | ⟨content, -, hspares, -⟩⟩ := hhandles.spares haddress hlt hline
  · exact ⟨items, listLine, hat⟩
  · obtain ⟨items', hat'⟩ := hspares.list items listLine hat
    exact ⟨items', listLine, hat'⟩

/-! ### The first line below a key -/

theorem run_of_content?_eq_none (h : ∀ line ∈ lines, content? line = none) (number : Int) :
    state.run lines number = .ok state :=
  run_of_step (fun line hline _ => step_ignorable (content?_eq_none_iff.mp (h line hline))) number

/-- Up to the first content on some lines, a pass does nothing. -/
theorem exists_step_of_findSome? {content : Content}
    (h : lines.findSome? content? = some content) (hrun : state.run lines number = .ok final) :
    ∃ line rest next after, content? line = some content ∧ number ≤ after ∧
      state.step line after = .ok next ∧ next.run rest (after + 1) = .ok final := by
  obtain ⟨gap, line, rest, rfl, hcontent, hgap⟩ := List.findSome?_eq_some_iff.mp h
  rw [run_append, run_of_content?_eq_none hgap, Except.bind, run] at hrun
  cases hstep : state.step line (number + gap.length) with
  | error fault => simp [hstep, Except.bind] at hrun
  | ok next =>
    rw [hstep] at hrun
    exact ⟨line, rest, next, _, hcontent, by omega, hstep, hrun⟩

/-- A list item in the column of a key without a value becomes an item of its value. -/
theorem Handles.at?_of_isItem {content : Content} (h : state.Handles line number next)
    (hcontent : content? line = some content) (hitem : content.isItem = true)
    (hscope : state.scopeFor content = ⟨address, some key, false⟩) {mapLine : Option Int}
    (hat : state.tree.at? (address ++ [.key key]) = some (.mapping [] mapLine)) :
    ∃ items line, next.tree.at? (address ++ [.key key]) = some (.sequence items line) := by
  cases h with
  | ignored hnone =>
    rw [hnone] at hcontent
    cases hcontent
  | script hsome hscript =>
    obtain rfl := Option.some_inj.mp (hsome.symm.trans hcontent)
    rw [hscope] at hscript
    cases hscript
  | skipped hsome _ hskip =>
    obtain rfl := Option.some_inj.mp (hsome.symm.trans hcontent)
    exact absurd (.start mapLine) (hskip hitem _ _ _ _ _ hscope hat)
  | pair hsome _ _ _ _ hpair =>
    obtain rfl := Option.some_inj.mp (hsome.symm.trans hcontent)
    rw [hitem] at hpair
    cases hpair
  | item hsome _ hother =>
    obtain rfl := Option.some_inj.mp (hsome.symm.trans hcontent)
    rw [hscope] at hother
    cases hother
    exact ⟨_, _, Node.at?_put hat _⟩

theorem keyLine?_of_run (haddress : ∀ list index, address ≠ list ++ [.item index])
    (hsound : state.Sound) (hlt : n < number) (hrun : state.run lines number = .ok final)
    (hline : final.tree.keyLine? address key = some n) :
    state.tree.keyLine? address key = some n :=
  (run_spares (motive := fun _ => True) haddress (fun _ _ _ _ => trivial) hsound hlt hrun hline).1

/-- The frames that stay open for the line of a key lead to the mapping of the key or above it. -/
theorem Sound.closed_framesFor (h : state.Sound) (content : Content) (key : Text) :
    Closed (state.framesFor content) ((state.scopeFor content).target ++ [.key key]) :=
  fun _ hframe => not_concat_isPrefix (h.isPrefix_target hframe) _

variable {content : Content} {base : List Frame} {column : Nat} {top : Frame}

theorem framesFor_of_holds (hframes : state.frames = top :: base)
    (hholds : top.holds state.tree content.column content.isItem = true) :
    state.framesFor content = top :: base := by
  rw [framesFor, hframes, unwind, List.dropWhile_cons_of_neg (by simp [hholds])]

theorem framesFor_of_not_holds (hframes : state.frames = top :: base)
    (hholds : top.holds state.tree content.column content.isItem = false) :
    state.framesFor content <:+ base := by
  rw [framesFor, hframes, unwind, List.dropWhile_cons_of_pos (by simp [hholds])]
  exact List.dropWhile_suffix _

/-- If the first content below a key without a value is a list item in the column of the key, the
    value is a sequence in the end. -/
theorem sequence_of_first (haddress : ∀ list index, address ≠ list ++ [.item index])
    (hsound : state.Sound) (hlt : n < number)
    (hframes : state.frames = ⟨column, ⟨address, some key, false⟩⟩ :: base) {mapLine : Option Int}
    (hat : state.tree.at? (address ++ [.key key]) = some (.mapping [] mapLine))
    (hfirst : lines.findSome? content? = some content) (hitem : content.isItem = true)
    (hcolumn : content.column = column) (hrun : state.run lines number = .ok final)
    (hline : final.tree.keyLine? address key = some n) :
    ∃ items line, final.tree.at? (address ++ [.key key]) = some (.sequence items line) := by
  obtain ⟨line, rest, next, after, hcontent, hle, hstep, hrest⟩ :=
    exists_step_of_findSome? hfirst hrun
  have hscope : state.scopeFor content = ⟨address, some key, false⟩ := by
    rw [scopeFor, framesFor_of_holds hframes
      (Frame.holds_iff.mpr (.inr ⟨hitem, hcolumn, rfl, key, rfl, .inr ⟨_, hat⟩⟩))]
    rfl
  exact sequence_of_run haddress (hsound.step hstep) (by omega) hrest hline
    ((handles_of_step hsound hstep).at?_of_isItem hcontent hitem hscope hat)

/-- If it is neither this nor deeper, the frame of the key is closed, and as no other frame leads
    to the value, it stays as it is. -/
theorem own_of_first (haddress : ∀ list index, address ≠ list ++ [.item index])
    (hsound : state.Sound) (hlt : n < number) {scope : Scope}
    (hframes : state.frames = ⟨column, scope⟩ :: base)
    (hclosed : Closed base (address ++ [.key key]))
    (hfirst : lines.findSome? content? = some content) (hdeeper : ¬column < content.column)
    (hlist : ¬(content.isItem = true ∧ content.column = column))
    (hrun : state.run lines number = .ok final)
    (hline : final.tree.keyLine? address key = some n) :
    (final.tree.at? (address ++ [.key key])).map Node.own =
      (state.tree.at? (address ++ [.key key])).map Node.own := by
  obtain ⟨line, rest, next, after, hcontent, hle, hstep, hrest⟩ :=
    exists_step_of_findSome? hfirst hrun
  have hholds : (⟨column, scope⟩ : Frame).holds state.tree content.column content.isItem =
      false := by
    rw [← Bool.not_eq_true, Frame.holds_iff]
    rintro (hlt | ⟨hitem, hcolumn, -⟩)
    · exact hdeeper hlt
    · exact hlist ⟨hitem, hcolumn⟩
  have hkept : Closed (state.framesFor content) (address ++ [.key key]) := fun frame hframe =>
    hclosed frame ((framesFor_of_not_holds hframes hholds).mem hframe)
  have hnext := hsound.step hstep
  obtain ⟨-, ⟨hnone, -⟩ | ⟨other, hother, hspares, hopened⟩⟩ :=
    (handles_of_step hsound hstep).spares haddress (by omega)
      (keyLine?_of_run haddress hnext (by omega) hrest hline)
  · rw [hnone] at hcontent
    cases hcontent
  · obtain rfl := Option.some_inj.mp (hother.symm.trans hcontent)
    exact (own_of_run haddress hnext (by omega) hrest hline (hopened hkept)).trans
      (hspares.own hkept.scope)

theorem text_eq_nil_of_isPopulated {text : Text} (h : node.IsPopulated)
    (hread : ReadFrom number text node) : text = [] := by
  cases h with
  | sequence => cases hread; rfl
  | mapping => cases hread; rfl

/-- A key whose value is populated at the end has none on its line, and the first content below
    is deeper, or it is a list item in the column of the key, and then the value is a sequence. -/
theorem follows_of_run (hrun : initial.run lines 1 = .ok final)
    (haddress : ∀ list index, address ≠ list ++ [.item index])
    (hline : final.tree.keyLine? address key = some number)
    (hat : final.tree.at? (address ++ [.key key]) = some node) (hnode : node.IsPopulated) :
    ∃ (index : Nat) (source : Text) (content next : Content), number = index + 1 ∧
      lines[index]? = some source ∧ content? source = some content ∧ content.isItem = false ∧
      Line.splitPair content.text = some (key, []) ∧
      (lines.drop (index + 1)).findSome? content? = some next ∧
      (content.column < next.column ∨ next.isItem = true ∧ next.column = content.column ∧
        ∃ items line, node = .sequence items line) := by
  obtain ⟨hlines, hnumber, habove, hstep, hbelow, hcontent, hitem, hpair, hread, rfl, hvalue,
    hframes⟩ := keySet_of_run hrun haddress hline
  rename_i above below source text state set content value
  have hindex : number = above.length + 1 := by omega
  have hsource : lines[above.length]? = some source := by simp [hlines]
  have hdrop : lines.drop (above.length + 1) = below := by
    rw [hlines, ← List.drop_drop, List.drop_left]
    rfl
  obtain ⟨-, _, other, hsame, htraced, hfrom⟩ := (traced_of_run hrun).keys.traced hline
  obtain rfl := Option.some_inj.mp (hsame.symm.trans hat)
  obtain rfl : text = other := by
    have hother := htraced.splitPair_field hindex hsource hcontent
    rw [Content.field_eq_text hitem, hpair] at hother
    exact (Prod.mk.inj (Option.some_inj.mp hother)).2
  obtain rfl := text_eq_nil_of_isPopulated hnode hfrom
  obtain rfl : LineValue.nested = value := Except.ok.inj hread
  have hset : set.Sound := (sound_of_run habove).step hstep
  have hempty (h : (final.tree.at? ((state.scopeFor content).target ++ [.key key])).map Node.own =
      (set.tree.at? ((state.scopeFor content).target ++ [.key key])).map Node.own) : False := by
    rw [hvalue, hat, Option.map_some, Option.map_some, Option.some_inj] at h
    cases hnode <;> cases h
  cases hnext : below.findSome? content? with
  | none =>
    -- without content below, the tree stays as the line of the key has left it
    rw [run_of_content?_eq_none (List.findSome?_eq_none_iff.mp hnext)] at hbelow
    cases hbelow
    exact (hempty rfl).elim
  | some next =>
    refine ⟨above.length, source, content, next, hindex, hsource, hcontent, hitem, hpair,
      hdrop ▸ hnext, ?_⟩
    by_cases hdeeper : content.column < next.column
    · exact .inl hdeeper
    by_cases hlist : next.isItem = true ∧ next.column = content.column
    · obtain ⟨items, listLine, hsequence⟩ := sequence_of_first haddress hset (by omega) hframes
        hvalue hnext hlist.1 hlist.2 hbelow hline
      exact .inr ⟨hlist.1, hlist.2, items, listLine,
        Option.some_inj.mp (hat.symm.trans hsequence)⟩
    · have hclosed := (sound_of_run habove).closed_framesFor content key
      exact (hempty (own_of_first haddress hset (by omega) hframes hclosed hnext hdeeper hlist
        hbelow hline)).elim

end State

end Outline

end WorkflowLint
