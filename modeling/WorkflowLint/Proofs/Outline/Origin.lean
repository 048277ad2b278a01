/-
  WorkflowLint/Proofs/Outline/Origin.lean
  =======================================
  **Where a key was set, and what has become of it.**

  The line that is recorded for a key is where a pass has set it.  For a key of a mapping
  that is no item, this line is a pair and no list item, and the pass can be cut there:
  into the lines above, the line itself, and the lines below (`keySet_of_run`).  A line
  below leaves the value of the key alone, unless it is in a scope that leads to the
  value or below it (`Spares`).
-/
import WorkflowLint.Proofs.Outline.Trace

namespace WorkflowLint.Outline

/-! ### What a line leaves of the values of other keys -/

/-- What a change in the scope of a target leaves of the node at a place: unless the place is at
    the target or above it, the node keeps what it says of itself, and a sequence stays one
    anyway. -/
structure Spares (tree tree' : Node) (target place : Address) : Prop where
  own : ¬place <+: target → (tree'.at? place).map Node.own = (tree.at? place).map Node.own
  list : ∀ items line, tree.at? place = some (.sequence items line) →
    ∃ items', tree'.at? place = some (.sequence items' line)

variable {tree middle tree' written item : Node} {target place container address owner : Address}
  {last : Step} {number n : Int} {key set listKey line : Text}

theorem Spares.refl (tree : Node) (target place : Address) : Spares tree tree target place :=
  ⟨fun _ => rfl, fun items _ h => ⟨items, h⟩⟩

theorem Spares.trans (h : Spares tree middle target place)
    (h' : Spares middle tree' target place) : Spares tree tree' target place where
  own hplace := (h'.own hplace).trans (h.own hplace)
  list items line hat := by
    obtain ⟨items', hat'⟩ := h.list items line hat
    exact h'.list items' line hat'

theorem Writes.spares (h : Writes number tree container last written tree')
    (hplace : ¬container ++ [last] <+: place) (hcontainer : place = container → place <+: target) :
    Spares tree tree' target place where
  own htarget := h.own_eq hplace (mt hcontainer htarget)
  list items line hat := by
    obtain ⟨node, hnode, hbare⟩ := h.exists_at? hplace hat
    obtain ⟨items', rfl⟩ := Node.bare_eq_sequence.mp hbare
    exact ⟨items', hnode⟩

theorem concat_item_ne (front address : Address) (index : Nat) (key : Text) :
    address ++ [.key key] ≠ front ++ [.item index] := by
  intro heq
  cases List.append_inj_right' heq rfl

/-- Setting a key gives it the line, and spares the values of all other keys. -/
theorem set_cases {entries : List (Entry Node)} {mapLine : Option Int}
    (hat : tree.at? owner = some (.mapping entries mapLine)) (value : LineValue)
    (howner : owner = target ∨ ∃ index, owner = target ++ [.item index])
    (hline : (tree.put owner (.mapping (Entries.set set (State.nodeOfReading number value)
      (some number) entries) mapLine)).keyLine? address key = some n) :
    address = owner ∧ key = set ∧ n = number ∨
      tree.keyLine? address key = some n ∧ ¬(address = owner ∧ key = set) ∧
        Spares tree (tree.put owner (.mapping (Entries.set set (State.nodeOfReading number value)
          (some number) entries) mapLine)) target (address ++ [.key key]) := by
  have hwrites : Writes number _ _ _ _ _ := .set hat set (State.nodeOfReading number value)
  rcases hwrites.keyLine?_cases (isFresh_nodeOfReading number value) hat (Node.at?_put hat _) hline
    with hnew | ⟨hplace, hold⟩
  · exact .inl hnew
  · refine .inr ⟨hold, ?_, hwrites.spares hplace ?_⟩
    · rintro ⟨rfl, rfl⟩
      exact hplace (List.prefix_refl _)
    · intro heq
      rcases howner with rfl | ⟨index, rfl⟩
      · exact heq ▸ List.prefix_refl _
      · exact absurd heq (concat_item_ne target address index key)

/-- Adding an item records no line, and spares the values of all keys. -/
theorem add_spares {node : Node} {items : List Node} {listLine : Option Int}
    (hat : tree.at? (owner ++ [.key listKey]) = some node)
    (hopens : State.OpensAs number node items listLine) (hitem : item.IsFresh number)
    (hline : (tree.put (owner ++ [.key listKey])
      (.sequence (items ++ [item]) listLine)).keyLine? address key = some n) :
    tree.keyLine? address key = some n ∧
      Spares tree (tree.put (owner ++ [.key listKey]) (.sequence (items ++ [item]) listLine))
        (owner ++ [.key listKey]) (address ++ [.key key]) := by
  obtain ⟨container, last, written, hwrites, hkeyless, hkeyed, -⟩ :=
    (adds_of_opensAs hat hopens hitem).exists_writes
  have hnot := hwrites.not_prefix_of_keyLine? hkeyless hline
  refine ⟨(Node.keyLine?_eq_of_keyed_eq (hkeyed address hnot) key).symm.trans hline, ?_⟩
  cases hopens with
  | start line =>
    have hwrites : Writes number tree _ _ _ _ := .start hat item
    have hnot := hwrites.not_prefix_of_keyLine? (.list hitem) hline
    by_cases heq : address ++ [.key key] = owner ++ [.key listKey]
    · refine ⟨fun hplace => absurd (heq ▸ List.prefix_refl _) hplace, fun items line hold => ?_⟩
      rw [heq, hat] at hold
      cases hold
    · refine hwrites.spares ?_ fun heq => heq ▸ List.prefix_append ..
      rw [List.prefix_concat_iff, not_or]
      exact ⟨Ne.symm heq, hnot⟩
  | resume items line =>
    have hwrites : Writes number tree _ _ _ _ := .append hat item
    have hnot := hwrites.not_prefix_of_keyLine? (.fresh hitem) hline
    refine hwrites.spares ?_ fun heq => heq ▸ List.prefix_refl _
    rw [List.prefix_concat_iff, not_or]
    exact ⟨(concat_item_ne _ address _ key).symm, hnot⟩

/-- A list item sets no key but its own, and spares the values of all others. -/
theorem item_spares {content : Content} {node : Node} {items : List Node} {listLine : Option Int}
    {opened : List Frame} (hat : tree.at? (owner ++ [.key listKey]) = some node)
    (hopens : State.OpensAs number node items listLine)
    (hbecomes : content.Becomes number (owner ++ [.key listKey, .item items.length]) item opened)
    (haddress : address ≠ owner ++ [.key listKey, .item items.length])
    (hline : (tree.put (owner ++ [.key listKey])
      (.sequence (items ++ [item]) listLine)).keyLine? address key = some n) :
    tree.keyLine? address key = some n ∧
      Spares tree (tree.put (owner ++ [.key listKey]) (.sequence (items ++ [item]) listLine))
        (owner ++ [.key listKey]) (address ++ [.key key]) := by
  cases hbecomes with
  | bare => exact add_spares hat hopens .mapping hline
  | text => exact add_spares hat hopens (.scalar _) hline
  | pair hpair hread =>
    rename_i set text value
    -- the item comes without keys, and then gets the key of the line
    have hitem := at?_appended hat items (.mapping [] (some number)) listLine
    have hplace := List.append_cons owner (.key listKey) [.item items.length]
    rw [← put_appended owner items (.mapping [] (some number)) _ listLine] at hline ⊢
    rcases set_cases hitem value (.inr ⟨items.length, hplace⟩) hline with
      ⟨heq, -⟩ | ⟨hmiddle, -, hspares⟩
    · exact absurd heq haddress
    · obtain ⟨hold, hadd⟩ := add_spares hat hopens .mapping hmiddle
      exact ⟨hold, hadd.trans hspares⟩

namespace State

variable {state next final : State} {lines : List Text}

/-! ### Where a key was set -/

/-- The line of a key cuts a run into the lines above it, after which the line sets the key, and
    the lines below it. -/
inductive KeySet (lines : List Text) (final : State) (address : Address) (key : Text)
    (number : Int) : Prop
  | intro {above below : List Text} {line text : Text} {state next : State} {content : Content}
      {value : LineValue} (hlines : lines = above ++ line :: below)
      (hnumber : number = 1 + above.length) (habove : initial.run above 1 = .ok state)
      (hstep : state.step line number = .ok next)
      (hbelow : next.run below (number + 1) = .ok final)
      (hcontent : content? line = some content) (hitem : content.isItem = false)
      (hpair : Line.splitPair content.text = some (key, text))
      (hread : Line.readValue text = .ok value)
      (htarget : (state.scopeFor content).target = address)
      (hvalue : next.tree.at? (address ++ [.key key]) = some (nodeOfReading number value))
      (hframes : next.frames =
        framesBelow address key content.column value ++ state.framesFor content) :
      KeySet lines final address key number

theorem KeySet.append (h : KeySet lines state address key number)
    (hstep : state.step line (1 + lines.length) = .ok next) :
    KeySet (lines ++ [line]) next address key number := by
  obtain ⟨hlines, hnumber, habove, hset, hbelow, hcontent, hitem, hpair, hread, htarget, hvalue,
    hframes⟩ := h
  rename_i above below source _ _ _ _ _
  have hmore : lines ++ [line] = above ++ source :: (below ++ [line]) := by
    rw [hlines, List.append_assoc, List.cons_append]
  refine .intro hmore hnumber habove hset ?_ hcontent hitem hpair hread htarget hvalue hframes
  have hnext : number + 1 + (below.length : Int) = 1 + lines.length := by
    rw [hlines, List.length_append, List.length_cons, hnumber]
    omega
  rw [run_append, hbelow, Except.bind, hnext, run, hstep]
  rfl

theorem keySet_of_run (hrun : initial.run lines 1 = .ok state)
    (haddress : ∀ list index, address ≠ list ++ [.item index])
    (hline : state.tree.keyLine? address key = some number) :
    KeySet lines state address key number := by
  refine run_induction (motive := fun lines state =>
    state.tree.keyLine? address key = some number → KeySet lines state address key number)
    ?_ ?_ hrun hline
  · intro hline
    obtain ⟨-, -, -, -, ⟨index, _, _, -, hsource, -⟩, -⟩ := keysTraced_initial.traced hline
    cases hsource
  · intro lines state next line ih hrun hstep hline
    have hhandles := handles_of_step (sound_of_run hrun) hstep
    cases hhandles with
    | ignored => exact (ih hline).append hstep
    | script => exact (ih hline).append hstep
    | skipped => exact (ih hline).append hstep
    | pair hcontent hscript hpair hread hat hitem =>
      rename_i content set text value entries mapLine
      rcases set_cases hat value (.inl rfl) hline with ⟨rfl, rfl, rfl⟩ | ⟨hold, -⟩
      · have hwrites : Writes (1 + lines.length) state.tree _ _ _ _ :=
          .set hat key (nodeOfReading (1 + lines.length) value)
        have hvalue := hwrites.at?_place []
        rw [Node.at?_nil] at hvalue
        exact .intro rfl rfl hrun hstep rfl hcontent hitem (Content.field_eq_text hitem ▸ hpair)
          hread rfl hvalue (by rw [Content.fieldColumn_eq_column hitem])
      · exact (ih hold).append hstep
    | item hcontent hitem hscope hat hopens hbecomes =>
      refine (ih (item_spares hat hopens hbecomes ?_ hline).1).append hstep
      rw [List.append_cons]
      exact haddress _ _

end State

end WorkflowLint.Outline
