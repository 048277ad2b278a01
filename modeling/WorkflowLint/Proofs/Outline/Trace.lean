/-
  WorkflowLint/Proofs/Outline/Trace.lean
  ======================================
  **From the keys back to the lines.**

  Each key in an outline has a line recorded for it, and what stands on that line is
  a pair with the key; the value is what the line says, or a sequence that a later
  line has started (`parse_traced`).  A line sets at most one key, and what it writes
  has no keys below it at first, so no line is recorded for two keys
  (`KeysTraced.set`).  Items are added at the end of a list, one by a line
  (`ItemsOrdered.add`).
-/
import WorkflowLint.Proofs.Outline.Handling
import WorkflowLint.Proofs.Tree.Recorded

namespace WorkflowLint.Outline

/-! ### Keys and values on their lines -/

/-- What line `number` of a text holds besides blanks, a comment and the dash of a list item is a
    pair. -/
def HasPair (lines : List Text) (number : Int) (key text : Text) : Prop :=
  ∃ (index : Nat) (source : Text) (content : Content), number = index + 1 ∧
    lines[index]? = some source ∧ content? source = some content ∧
      Line.splitPair content.field = some (key, text)

/-- What the value of a key can be when the pass has come to its end, if `text` stands behind the
    key on line `number`. -/
inductive ReadFrom (number : Int) : Text → Node → Prop
  | mapping (entries : List (Entry Node)) : ReadFrom number [] (.mapping entries (some number))
  | sequence (items : List Node) {line : Int} (hline : number < line) :
      ReadFrom number [] (.sequence items (some line))
  | block {text : Text} (hblock : Line.isBlockIndicator text = true) :
      ReadFrom number text (.scalar (.str []) (some number))
  | scalar {text : Text} {value : Scalar} (hne : text ≠ [])
      (hblock : Line.isBlockIndicator text = false) (hread : Line.readScalar text = .ok value) :
      ReadFrom number text (.scalar value (some number))

variable {lines : List Text} {number before : Int} {tree tree' node item : Node}
  {container address owner : Address} {last : Step} {key text : Text}

theorem HasPair.splitPair_field (h : HasPair lines number key text) {index : Nat}
    (hnumber : number = index + 1) {source : Text} (hsource : lines[index]? = some source)
    {content : Content} (hcontent : content? source = some content) :
    Line.splitPair content.field = some (key, text) := by
  obtain ⟨other, source', content', hother, hsource', hcontent', hpair⟩ := h
  obtain rfl : other = index := by omega
  obtain rfl := Option.some_inj.mp (hsource'.symm.trans hsource)
  obtain rfl := Option.some_inj.mp (hcontent'.symm.trans hcontent)
  exact hpair

theorem HasPair.append (h : HasPair lines number key text) (more : List Text) :
    HasPair (lines ++ more) number key text := by
  obtain ⟨index, source, content, hnumber, hsource, hrest⟩ := h
  exact ⟨index, source, content, hnumber, List.getElem?_append_left
    (List.getElem?_eq_some_iff.mp hsource).1 ▸ hsource, hrest⟩

theorem ReadFrom.of_bare_eq (h : ReadFrom number text node) {other : Node}
    (hbare : other.bare = node.bare) : ReadFrom number text other := by
  cases h with
  | mapping entries =>
    obtain ⟨entries', rfl⟩ := Node.bare_eq_mapping.mp hbare
    exact .mapping entries'
  | sequence items hline =>
    obtain ⟨items', rfl⟩ := Node.bare_eq_sequence.mp hbare
    exact .sequence items' hline
  | block hblock =>
    obtain rfl := Node.bare_eq_scalar.mp hbare
    exact .block hblock
  | scalar hne hblock hread =>
    obtain rfl := Node.bare_eq_scalar.mp hbare
    exact .scalar hne hblock hread

theorem readFrom_nodeOfReading {value : LineValue} (h : Line.readValue text = .ok value) :
    ReadFrom number text (State.nodeOfReading number value) := by
  rw [Line.readValue] at h
  split at h
  · rename_i hempty
    cases h
    rw [List.isEmpty_iff.mp hempty]
    exact .mapping []
  · rename_i hne
    split at h
    · rename_i hblock
      cases h
      exact .block hblock
    · rename_i hblock
      cases hread : Line.readScalar text with
      | error fault => simp [hread, Except.map] at h
      | ok scalar =>
        rw [hread] at h
        cases h
        exact .scalar (fun heq => hne (List.isEmpty_iff.mpr heq))
          (Bool.not_eq_true _ ▸ hblock) hread

theorem isFresh_nodeOfReading (number : Int) (value : LineValue) :
    (State.nodeOfReading number value).IsFresh number := by
  cases value with
  | nested => exact .mapping
  | block => exact .scalar _
  | scalar scalar => exact .scalar scalar

/-! ### What a line adds -/

/-- An item without keys is added at the end of a list, or starts the list. -/
inductive Adds (number : Int) (tree : Node) : Node → Prop
  | start {owner : Address} {key : Text} {line : Option Int} {item : Node}
      (hat : tree.at? (owner ++ [.key key]) = some (.mapping [] line))
      (hitem : item.IsFresh number) :
      Adds number tree (tree.put (owner ++ [.key key]) (.sequence [item] (some number)))
  | append {list : Address} {items : List Node} {line : Option Int} {item : Node}
      (hat : tree.at? list = some (.sequence items line)) (hitem : item.IsFresh number) :
      Adds number tree (tree.put list (.sequence (items ++ [item]) line))

/-- The key of a line is set in a mapping. -/
inductive Sets (line : Text) (number : Int) (tree : Node) : Node → Prop
  | set {content : Content} {owner : Address} {key text : Text} {value : LineValue}
      {entries : List (Entry Node)} {mapLine : Option Int}
      (hat : tree.at? owner = some (.mapping entries mapLine))
      (hcontent : content? line = some content)
      (hpair : Line.splitPair content.field = some (key, text))
      (hread : Line.readValue text = .ok value) :
      Sets line number tree
        (tree.put owner (.mapping
          (Entries.set key (State.nodeOfReading number value) (some number) entries) mapLine))

theorem adds_of_opensAs {items : List Node} {listLine : Option Int}
    (hat : tree.at? (owner ++ [.key key]) = some node)
    (hopens : State.OpensAs number node items listLine) (hitem : item.IsFresh number) :
    Adds number tree (tree.put (owner ++ [.key key]) (.sequence (items ++ [item]) listLine)) := by
  cases hopens with
  | start line => exact .start hat hitem
  | resume items line => exact .append hat hitem

/-- A line leaves the tree as it is, or adds an item, or sets its key, in the item that it has
    added or in another mapping. -/
theorem State.Handles.tree_cases {state next : State} {line : Text}
    (h : state.Handles line number next) :
    next.tree = state.tree ∨ Adds number state.tree next.tree ∨
      ∃ middle, (middle = state.tree ∨ Adds number state.tree middle) ∧
        Sets line number middle next.tree := by
  cases h with
  | ignored => exact .inl rfl
  | script => exact .inl rfl
  | skipped => exact .inl rfl
  | pair hcontent hscript hpair hread hat =>
    exact .inr (.inr ⟨_, .inl rfl, .set hat hcontent hpair hread⟩)
  | item hcontent hitem hscope hat hopens hbecomes =>
    rename_i content owner listKey node item items listLine opened
    cases hbecomes with
    | bare hfield => exact .inr (.inl (adds_of_opensAs hat hopens .mapping))
    | text hfield hpair => exact .inr (.inl (adds_of_opensAs hat hopens (.scalar _)))
    | pair hpair hread =>
      rename_i key text value
      -- the item comes without keys, and then gets the key of the line
      have hadds := adds_of_opensAs hat hopens Node.IsFresh.mapping
      have hitem := at?_appended hat items (.mapping [] (some number)) listLine
      have hsets : Sets line number _ _ := .set hitem hcontent hpair hread
      rw [put_appended] at hsets
      exact .inr (.inr ⟨_, .inr hadds, hsets⟩)

namespace Writes

/-- A write leaves the keys with their lines alone that are neither at its place nor below it nor
    in its container. -/
theorem keyed_eq (h : Writes number tree container last written tree')
    (hplace : ¬container ++ [last] <+: address) (hne : address ≠ container) :
    (tree'.at? address).map Node.keyed = (tree.at? address).map Node.keyed :=
  Node.keyed_eq_of_own_eq (h.own_eq hplace hne)

/-- What is written without keys has none at its place or below it. -/
theorem keyed_eq_nil (h : Writes number tree container last written tree')
    (hwritten : written.IsKeyless number) (hplace : container ++ [last] <+: address)
    (hat : tree'.at? address = some node) : node.keyed = [] := by
  obtain ⟨back, rfl⟩ := hplace
  rw [List.append_assoc, List.singleton_append, h.at?_place] at hat
  exact (hwritten.of_at? hat).keyed_eq_nil

theorem not_prefix_of_keyLine? (h : Writes number tree container last written tree')
    (hwritten : written.IsKeyless number) {line : Int}
    (hline : tree'.keyLine? address key = some line) : ¬container ++ [last] <+: address := by
  intro hplace
  rw [Node.keyLine?, Option.bind_eq_some_iff] at hline
  obtain ⟨node, hat, hline⟩ := hline
  rw [← Node.lineOf?_keyed, h.keyed_eq_nil hwritten hplace hat] at hline
  cases hline

/-- The value of a key elsewhere still comes from its line. -/
theorem exists_readFrom (h : Writes number tree container last written tree')
    (hplace : ¬container ++ [last] <+: address) {line : Int}
    (hat : tree.at? address = some node) (hread : ReadFrom line text node) :
    ∃ node', tree'.at? address = some node' ∧ ReadFrom line text node' := by
  obtain ⟨node', hnode', hbare⟩ := h.exists_at? hplace hat
  exact ⟨node', hnode', hread.of_bare_eq hbare⟩

/-- The lines of the items of a list, unless it is at the place of a write or below it or gets
    another item. -/
theorem map_line?_eq (h : Writes number tree container last written tree')
    (hplace : ¬container ++ [last] <+: address)
    (hne : ∀ index, container ++ [last] ≠ address ++ [.item index]) {items : List Node}
    {line : Option Int} (hat : tree'.at? address = some (.sequence items line)) :
    ∃ items', tree.at? address = some (.sequence items' line) ∧
      items.map Node.line? = items'.map Node.line? := by
  have hbare := h.bare_eq hplace
  rw [hat, Option.map_some, eq_comm, Option.map_eq_some_iff] at hbare
  obtain ⟨node, hnode, hbare⟩ := hbare
  obtain ⟨items', rfl⟩ := Node.bare_eq_sequence.mp hbare
  refine ⟨items', hnode, List.ext_getElem? fun index => ?_⟩
  have hitem {tree : Node} {items : List Node}
      (hat : tree.at? address = some (.sequence items line)) :
      items[index]?.map Node.line? =
        ((tree.at? (address ++ [.item index])).map Node.bare).map Node.line? := by
    rw [Node.at?_append, hat, Option.bind_some, Node.at?_cons, Node.child?, Option.map_map]
    cases items[index]? with
    | none => rfl
    | some item => simp [Node.line?_bare]
  have hbelow : ¬container ++ [last] <+: address ++ [.item index] := by
    rw [List.prefix_concat_iff, not_or]
    exact ⟨hne index, hplace⟩
  rw [List.getElem?_map, List.getElem?_map, hitem hat, hitem hnode, h.bare_eq hbelow]

end Writes

/-! ### The lines of the keys -/

/-- The keys of a tree have lines before `before`, which hold their pairs, and no two keys have
    one line. -/
structure KeysTraced (lines : List Text) (before : Int) (tree : Node) : Prop where
  recorded {address : Address} {node : Node} :
    tree.at? address = some node → Entries.Recorded node.keyed
  traced {address : Address} {key : Text} {number : Int} :
    tree.keyLine? address key = some number → number < before ∧ ∃ node text,
      tree.at? (address ++ [.key key]) = some node ∧ HasPair lines number key text ∧
        ReadFrom number text node
  distinct {address address' : Address} {key key' : Text} {number : Int} :
    tree.keyLine? address key = some number → tree.keyLine? address' key' = some number →
      address = address' ∧ key = key'

theorem keysTraced_initial : KeysTraced [] 1 State.initial.tree := by
  have hkeyed {address : Address} {node : Node}
      (hat : State.initial.tree.at? address = some node) : node.keyed = [] := by
    cases address with
    | nil =>
      rw [Node.at?_nil, Option.some_inj] at hat
      rw [← hat]
      rfl
    | cons step rest =>
      rw [Node.at?_cons] at hat
      cases step <;> cases hat
  have hline (address : Address) (key : Text) :
      State.initial.tree.keyLine? address key = none := by
    rw [Node.keyLine?, Option.bind_eq_none_iff]
    intro node hat
    rw [← Node.lineOf?_keyed, hkeyed hat]
    rfl
  refine ⟨fun hat => ?_, fun {address key n} hn => ?_, fun {address _ key _ n} hn => ?_⟩
  · rw [hkeyed hat]
    exact Entries.recorded_nil
  · rw [hline] at hn
    cases hn
  · rw [hline] at hn
    cases hn

theorem KeysTraced.mono (h : KeysTraced lines before tree) (hle : before ≤ number)
    (more : List Text) : KeysTraced (lines ++ more) number tree where
  recorded := h.recorded
  traced hline := by
    obtain ⟨hlt, node, text, hat, hpair, hread⟩ := h.traced hline
    exact ⟨Int.lt_of_lt_of_le hlt hle, node, text, hat, hpair.append more, hread⟩
  distinct := h.distinct

theorem KeysTraced.recorded_entries (h : KeysTraced lines before tree)
    {entries : List (Entry Node)} {line : Option Int}
    (hat : tree.at? address = some (.mapping entries line)) : Entries.Recorded entries :=
  Node.recorded_keyed.mp (h.recorded hat)

theorem KeysTraced.keyLine?_of_mem (h : KeysTraced lines before tree)
    {entries : List (Entry Node)} {line : Option Int}
    (hat : tree.at? address = some (.mapping entries line)) {entry : Entry Node}
    (hentry : entry ∈ entries) : tree.keyLine? address entry.key = entry.line ∧
      tree.at? (address ++ [.key entry.key]) = some entry.value := by
  have hfind := Entries.find?_of_mem (h.recorded_entries hat).1 hentry
  refine ⟨?_, ?_⟩
  · rw [Node.keyLine?_of_at? hat, Entries.lineOf?, Node.entries, hfind, Option.bind_some]
  · rw [Node.at?_append, hat, Option.bind_some, Node.at?_cons, Node.child?, Entries.get?, hfind,
      Option.map_some, Option.bind_some, Node.at?_nil]

theorem KeysTraced.recorded_of_keyed_eq (h : KeysTraced lines before tree)
    (hsame : (tree'.at? address).map Node.keyed = (tree.at? address).map Node.keyed)
    (hnode : tree'.at? address = some node) : Entries.Recorded node.keyed := by
  rw [hnode, Option.map_some, eq_comm, Option.map_eq_some_iff] at hsame
  obtain ⟨old, hold, hsame⟩ := hsame
  rw [← hsame]
  exact h.recorded hold

/-- What an added item changes: at its place there was nothing, or the empty mapping that has kept
    the place of the list, and all keys keep their lines. -/
theorem Adds.exists_writes (h : Adds number tree tree') : ∃ container last written,
    Writes number tree container last written tree' ∧ written.IsKeyless number ∧
      (∀ address, ¬container ++ [last] <+: address →
        (tree'.at? address).map Node.keyed = (tree.at? address).map Node.keyed) ∧
      ∀ node, tree.at? (container ++ [last]) = some node →
        (∃ line, node = .mapping [] line) ∧ ∃ items, written = .sequence items (some number) := by
  cases h with
  | start hat hitem =>
    refine ⟨_, _, _, .start hat _, .list hitem, fun address hplace => ?_, fun node hnode => ?_⟩
    · exact Node.keyed_eq_of_own_eq (Node.own_at?_modifyAt hplace _ tree)
    · rw [hat, Option.some_inj] at hnode
      exact ⟨⟨_, hnode.symm⟩, _, rfl⟩
  | append hat hitem =>
    rename_i list items line item
    have hwrites : Writes number _ _ _ _ _ := .append hat item
    refine ⟨_, _, _, hwrites, .fresh hitem, fun address hplace => ?_, fun node hnode => ?_⟩
    · by_cases hne : address = list
      · rw [hne, Node.at?_put hat, hat]
        rfl
      · exact hwrites.keyed_eq hplace hne
    · -- the place is behind the last item
      rw [Node.at?_append, hat, Option.bind_some, Node.at?_cons, Node.child?,
        List.getElem?_eq_none (Nat.le_refl _)] at hnode
      cases hnode

theorem KeysTraced.add (h : KeysTraced lines number tree) (hadds : Adds number tree tree') :
    KeysTraced lines number tree' := by
  obtain ⟨container, last, written, hwrites, hkeyless, hkeyed, hold⟩ := hadds.exists_writes
  have hline {address : Address} {key : Text} {n : Int}
      (hline : tree'.keyLine? address key = some n) :
      ¬container ++ [last] <+: address ∧ tree.keyLine? address key = some n := by
    have hplace := hwrites.not_prefix_of_keyLine? hkeyless hline
    rw [← hline]
    exact ⟨hplace, (Node.keyLine?_eq_of_keyed_eq (hkeyed address hplace) key).symm⟩
  refine ⟨fun {address node} hnode => ?_, fun {address key n} hn => ?_, fun hn hn' => ?_⟩
  · by_cases hplace : container ++ [last] <+: address
    · rw [hwrites.keyed_eq_nil hkeyless hplace hnode]
      exact Entries.recorded_nil
    · exact h.recorded_of_keyed_eq (hkeyed address hplace) hnode
  · obtain ⟨hplace, hn⟩ := hline hn
    obtain ⟨hlt, node, text, hat, hpair, hread⟩ := h.traced hn
    refine ⟨hlt, ?_⟩
    by_cases hbelow : container ++ [last] <+: address ++ [.key key]
    · -- the value was the empty mapping of this key, and becomes a list on a later line
      have heq := (List.prefix_concat_iff.mp hbelow).resolve_right hplace
      rw [heq] at hold
      obtain ⟨⟨line, rfl⟩, items, rfl⟩ := hold node hat
      have hwritten := hwrites.at?_place []
      rw [Node.at?_nil, heq] at hwritten
      cases hread
      exact ⟨_, [], hwritten, hpair, .sequence items hlt⟩
    · obtain ⟨node', hnode', hread'⟩ := hwrites.exists_readFrom hbelow hat hread
      exact ⟨node', text, hnode', hpair, hread'⟩
  · exact h.distinct (hline hn).2 (hline hn').2

/-- Setting the key of a line: that key gets the line, all others keep theirs. -/
theorem Sets.exists_writes {line : Text} (h : Sets line number tree tree') :
    ∃ owner key text written, Writes number tree owner (.key key) written tree' ∧
      written.IsFresh number ∧ ReadFrom number text written ∧
      (∃ content, content? line = some content ∧
        Line.splitPair content.field = some (key, text)) ∧
      ∃ entries mapLine, tree.at? owner = some (.mapping entries mapLine) ∧
        tree'.at? owner =
          some (.mapping (Entries.set key written (some number) entries) mapLine) := by
  cases h with
  | set hat hcontent hpair hread =>
    rename_i content owner key text value entries mapLine
    exact ⟨owner, key, text, _, .set hat key _, isFresh_nodeOfReading number value,
      readFrom_nodeOfReading hread, ⟨content, hcontent, hpair⟩, entries, mapLine, hat,
      Node.at?_put hat _⟩

/-- After a key is set, it has the line, and all other keys have the lines that they had. -/
theorem Writes.keyLine?_cases {entries : List (Entry Node)} {mapLine : Option Int}
    (h : Writes number tree owner (.key key) written tree') (hwritten : written.IsFresh number)
    (hat : tree.at? owner = some (.mapping entries mapLine))
    (hat' : tree'.at? owner =
      some (.mapping (Entries.set key written (some number) entries) mapLine))
    {other : Text} {line : Int} (hline : tree'.keyLine? address other = some line) :
    address = owner ∧ other = key ∧ line = number ∨
      ¬owner ++ [.key key] <+: address ++ [.key other] ∧
        tree.keyLine? address other = some line := by
  have hplace := h.not_prefix_of_keyLine? (.fresh hwritten) hline
  have hbelow (hne : ¬(address = owner ∧ other = key)) :
      ¬owner ++ [.key key] <+: address ++ [.key other] := by
    rw [List.prefix_concat_iff, not_or]
    refine ⟨fun heq => hne ?_, hplace⟩
    obtain ⟨rfl, hlast⟩ := List.append_inj' heq rfl
    cases hlast
    exact ⟨rfl, rfl⟩
  by_cases howner : address = owner
  · subst howner
    rw [Node.keyLine?_of_at? hat', Node.entries, Entries.lineOf?_set] at hline
    by_cases hkey : key = other
    · rw [if_pos hkey, Option.some_inj] at hline
      exact .inl ⟨rfl, hkey.symm, hline.symm⟩
    · rw [if_neg hkey] at hline
      rw [Node.keyLine?_of_at? hat]
      exact .inr ⟨hbelow fun hboth => hkey hboth.2.symm, hline⟩
  · rw [Node.keyLine?_eq_of_keyed_eq (h.keyed_eq hplace howner)] at hline
    exact .inr ⟨hbelow fun hboth => howner hboth.1, hline⟩

theorem KeysTraced.set {line : Text} (h : KeysTraced lines number tree)
    (hsets : Sets line number tree tree') (hnumber : number = lines.length + 1) :
    KeysTraced (lines ++ [line]) (number + 1) tree' := by
  obtain ⟨owner, key, text, written, hwrites, hfresh, hread, ⟨content, hcontent, hpair⟩,
    entries, mapLine, hat, hat'⟩ := hsets.exists_writes
  have hkeyless := Node.IsKeyless.fresh hfresh
  refine ⟨fun {address node} hnode => ?_, fun {address other n} hn => ?_,
    fun {address address' other other' n} hn hn' => ?_⟩
  · by_cases hplace : owner ++ [.key key] <+: address
    · rw [hwrites.keyed_eq_nil hkeyless hplace hnode]
      exact Entries.recorded_nil
    · by_cases howner : address = owner
      · rw [howner, hat', Option.some_inj] at hnode
        rw [← hnode, Node.recorded_keyed]
        exact (h.recorded_entries hat).set key written number
      · exact h.recorded_of_keyed_eq (hwrites.keyed_eq hplace howner) hnode
  · rcases hwrites.keyLine?_cases hfresh hat hat' hn with ⟨rfl, rfl, rfl⟩ | ⟨hplace, hn⟩
    · have hwritten := hwrites.at?_place []
      rw [Node.at?_nil] at hwritten
      refine ⟨Int.lt_succ n, written, text, hwritten, ?_, hread⟩
      exact ⟨lines.length, line, content, hnumber, List.getElem?_concat_length, hcontent, hpair⟩
    · obtain ⟨hlt, node, text, hat, hpair, hread⟩ := h.traced hn
      obtain ⟨node', hnode', hread'⟩ := hwrites.exists_readFrom hplace hat hread
      exact ⟨Int.lt_trans hlt (Int.lt_succ _), node', text, hnode', hpair.append _, hread'⟩
  · have hlt {address : Address} {other : Text} {n : Int}
        (hn : tree.keyLine? address other = some n) : n < number := (h.traced hn).1
    rcases hwrites.keyLine?_cases hfresh hat hat' hn with ⟨rfl, rfl, rfl⟩ | ⟨-, hn⟩
    · rcases hwrites.keyLine?_cases hfresh hat hat' hn' with ⟨rfl, rfl, -⟩ | ⟨-, hn'⟩
      · exact ⟨rfl, rfl⟩
      · exact absurd (hlt hn') (Int.lt_irrefl _)
    · rcases hwrites.keyLine?_cases hfresh hat hat' hn' with ⟨-, -, rfl⟩ | ⟨-, hn'⟩
      · exact absurd (hlt hn) (Int.lt_irrefl _)
      · exact h.distinct hn hn'

/-! ### The lines of the items -/

/-- In all lists of a tree, the items have lines, which increase and are before `before`. -/
def ItemsOrdered (before : Int) (tree : Node) : Prop :=
  ∀ (address : Address) (items : List Node) (line : Option Int),
    tree.at? address = some (.sequence items line) → ∃ numbers : List Int,
      items.map Node.line? = numbers.map some ∧ numbers.Pairwise (· < ·) ∧
        ∀ number ∈ numbers, number < before

theorem ItemsOrdered.mono (h : ItemsOrdered before tree) (hle : before ≤ number) :
    ItemsOrdered number tree := by
  intro address items line hat
  obtain ⟨numbers, hitems, hnumbers, hlt⟩ := h _ _ _ hat
  exact ⟨numbers, hitems, hnumbers, fun n hn => Int.lt_of_lt_of_le (hlt n hn) hle⟩

theorem concat_key_ne (owner address : Address) (key : Text) (index : Nat) :
    owner ++ [.key key] ≠ address ++ [.item index] := by
  intro heq
  cases List.append_inj_right' heq rfl

theorem ItemsOrdered.set {line : Text} (h : ItemsOrdered before tree)
    (hsets : Sets line number tree tree') : ItemsOrdered before tree' := by
  obtain ⟨owner, key, text, written, hwrites, hfresh, -⟩ := hsets.exists_writes
  intro address items listLine hat
  by_cases hplace : owner ++ [.key key] <+: address
  · obtain ⟨back, rfl⟩ := hplace
    rw [List.append_assoc, List.singleton_append, hwrites.at?_place] at hat
    obtain ⟨-, rfl⟩ := hfresh.eq_nil_of_at? hat
    cases hfresh
  · obtain ⟨items', hat, hlines⟩ := hwrites.map_line?_eq hplace (concat_key_ne owner address key) hat
    rw [hlines]
    exact h _ _ _ hat

theorem ItemsOrdered.add (h : ItemsOrdered number tree) (hadds : Adds number tree tree') :
    ItemsOrdered (number + 1) tree' := by
  have hmono := h.mono (Int.le_of_lt (Int.lt_succ number))
  intro address items' line' hat'
  cases hadds with
  | start hat hitem =>
    rename_i owner key line item
    have hwrites : Writes number _ _ _ _ _ := .start hat item
    by_cases hplace : owner ++ [.key key] <+: address
    · obtain ⟨back, rfl⟩ := hplace
      rw [List.append_assoc, List.singleton_append, hwrites.at?_place] at hat'
      cases (Node.IsKeyless.list hitem).of_at? hat' with
      | fresh hfresh => cases hfresh
      | list hfresh =>
        refine ⟨[number], ?_, List.pairwise_singleton .., fun n hn => ?_⟩
        · rw [List.map_singleton, List.map_singleton, hfresh.line?_eq]
        · rw [List.mem_singleton.mp hn]
          exact Int.lt_succ number
    · obtain ⟨items, hat, hlines⟩ :=
        hwrites.map_line?_eq hplace (concat_key_ne owner address key) hat'
      rw [hlines]
      exact hmono _ _ _ hat
  | append hat hitem =>
    rename_i list items line item
    have hwrites : Writes number _ _ _ _ _ := .append hat item
    by_cases hplace : list ++ [.item items.length] <+: address
    · obtain ⟨back, rfl⟩ := hplace
      rw [List.append_assoc, List.singleton_append, hwrites.at?_place] at hat'
      obtain ⟨-, rfl⟩ := hitem.eq_nil_of_at? hat'
      cases hitem
    · by_cases hlist : address = list
      · -- the line is after all lines with items so far
        rw [hlist, Node.at?_put hat] at hat'
        cases hat'
        obtain ⟨numbers, hlines, hnumbers, hlt⟩ := h _ _ _ hat
        refine ⟨numbers ++ [number], ?_, List.pairwise_append.mpr ⟨hnumbers,
          List.pairwise_singleton .., fun n hn last hlast => ?_⟩, fun n hn => ?_⟩
        · rw [List.map_append, List.map_append, hlines, List.map_singleton, List.map_singleton,
            hitem.line?_eq]
        · rw [List.mem_singleton.mp hlast]
          exact hlt n hn
        · rcases List.mem_append.mp hn with hn | hn
          · exact Int.lt_trans (hlt n hn) (Int.lt_succ number)
          · rw [List.mem_singleton.mp hn]
            exact Int.lt_succ number
      · have hne (index : Nat) : list ++ [.item items.length] ≠ address ++ [.item index] :=
          fun heq => hlist (List.append_inj_left' heq rfl).symm
        obtain ⟨items, hat, hlines⟩ := hwrites.map_line?_eq hplace hne hat'
        rw [hlines]
        exact hmono _ _ _ hat

theorem KeysTraced.exists_hasPair (h : KeysTraced lines before tree)
    {entries : List (Entry Node)} {line : Option Int}
    (hat : tree.at? address = some (.mapping entries line)) {entry : Entry Node}
    (hentry : entry ∈ entries) : ∃ number value, entry.line = some number ∧
      HasPair lines number entry.key value ∧ ReadFrom number value entry.value := by
  obtain ⟨number, hnumber⟩ :=
    Option.isSome_iff_exists.mp ((h.recorded_entries hat).2 entry hentry)
  obtain ⟨hkeyLine, hget⟩ := h.keyLine?_of_mem hat hentry
  obtain ⟨-, node, value, hnode, hpair, hread⟩ := h.traced (hkeyLine.trans hnumber)
  rw [hget, Option.some_inj] at hnode
  exact ⟨number, value, hnumber, hpair, hnode ▸ hread⟩

/-! ### Whole texts -/

/-- What holds of the tree before line `number`. -/
structure Traced (lines : List Text) (number : Int) (tree : Node) : Prop where
  keys : KeysTraced lines number tree
  items : ItemsOrdered number tree

theorem traced_initial : Traced [] 1 State.initial.tree := by
  refine ⟨keysTraced_initial, fun address items line hat => ?_⟩
  cases address with
  | nil => cases hat
  | cons step rest =>
    rw [Node.at?_cons] at hat
    cases step <;> cases hat

theorem Traced.step {state next : State} {line : Text} (h : Traced lines number state.tree)
    (hnumber : number = lines.length + 1) (hhandles : state.Handles line number next) :
    Traced (lines ++ [line]) (number + 1) next.tree := by
  have hle : number ≤ number + 1 := Int.le_of_lt (Int.lt_succ number)
  rcases hhandles.tree_cases with htree | hadds | ⟨middle, hmiddle, hsets⟩
  · rw [htree]
    exact ⟨h.keys.mono hle _, h.items.mono hle⟩
  · exact ⟨(h.keys.add hadds).mono hle _, h.items.add hadds⟩
  · have hkeys : KeysTraced lines number middle := by
      rcases hmiddle with rfl | hadds
      · exact h.keys
      · exact h.keys.add hadds
    have hitems : ItemsOrdered (number + 1) middle := by
      rcases hmiddle with rfl | hadds
      · exact h.items.mono hle
      · exact h.items.add hadds
    exact ⟨hkeys.set hsets hnumber, hitems.set hsets⟩

theorem traced_of_run {state : State} (hrun : State.initial.run lines 1 = .ok state) :
    Traced lines (1 + lines.length) state.tree := by
  refine State.run_induction
    (motive := fun lines state => Traced lines (1 + (lines.length : Int)) state.tree)
    (by simpa using traced_initial) ?_ hrun
  intro lines state next line htraced hrun hstep
  have hhandles := State.handles_of_step (State.sound_of_run hrun) hstep
  have hnext := htraced.step (Int.add_comm ..) hhandles
  have hnumber : 1 + ((lines ++ [line]).length : Int) = 1 + lines.length + 1 := by
    rw [List.length_append, List.length_singleton]
    omega
  rwa [hnumber]

/-- Each key of each mapping in an outline has the number of a line recorded for it whose content
    is a pair with that key, and what stands behind the key there gives its value.  No line is
    recorded for two keys, and the lines of the items of each sequence increase. -/
theorem parse_traced {text : Text} {outline : Outline} (h : parse text = .ok outline) :
    (∀ address entries line, outline.tree.at? address = some (.mapping entries line) →
      (Entries.keys entries).Nodup ∧ ∀ entry ∈ entries, ∃ number value,
        entry.line = some number ∧ HasPair (Text.lines text) number entry.key value ∧
          ReadFrom number value entry.value) ∧
    (∀ address entries line address' entries' line',
      outline.tree.at? address = some (.mapping entries line) →
      outline.tree.at? address' = some (.mapping entries' line') →
      ∀ entry ∈ entries, ∀ entry' ∈ entries', entry.line = entry'.line →
        address = address' ∧ entry.key = entry'.key) ∧
    ∀ address items line, outline.tree.at? address = some (.sequence items line) →
      ∃ numbers : List Int, items.map Node.line? = numbers.map some ∧ numbers.Pairwise (· < ·) := by
  rw [parse] at h
  cases hrun : State.initial.run (Text.lines text) 1 with
  | error fault => simp [hrun, Except.map] at h
  | ok state =>
    rw [hrun] at h
    cases h
    have htraced := traced_of_run hrun
    refine ⟨fun address entries line hat => ?_, ?_, fun address items line hat => ?_⟩
    · exact ⟨(htraced.keys.recorded_entries hat).1,
        fun entry hentry => htraced.keys.exists_hasPair hat hentry⟩
    · intro address entries line address' entries' line' hat hat' entry hentry entry' hentry' heq
      have hrecorded := htraced.keys.recorded_entries hat
      obtain ⟨number, hnumber⟩ := Option.isSome_iff_exists.mp (hrecorded.2 entry hentry)
      have hline := (htraced.keys.keyLine?_of_mem hat hentry).1
      have hline' := (htraced.keys.keyLine?_of_mem hat' hentry').1
      exact htraced.keys.distinct (hline.trans hnumber) (hline'.trans (heq.symm.trans hnumber))
    · obtain ⟨numbers, hlines, hnumbers, -⟩ := htraced.items _ _ _ hat
      exact ⟨numbers, hlines, hnumbers⟩

/-- A key that is written twice has its last line, and a list started below a key has a line of
    its own. -/
theorem parse_traced_workflow :
    let text : Text := "name: a\non:\n- push\nname: 'b' # last\nrun: |2\n   make: all"
    let entries : List (Entry Node) :=
      [⟨"name", some 4, .scalar (.str "b") (some 4)⟩,
        ⟨"on", some 2, .sequence [.scalar (.str "push") (some 3)] (some 3)⟩,
        ⟨"run", some 5, .scalar (.str []) (some 5)⟩]
    parse text = .ok ⟨.mapping entries none, []⟩ ∧
      ∀ entry ∈ entries, ∃ number value, entry.line = some number ∧
        HasPair (Text.lines text) number entry.key value ∧ ReadFrom number value entry.value := by
  intro text entries
  have hparse : parse text = .ok ⟨.mapping entries none, []⟩ := rfl
  exact ⟨hparse, ((parse_traced hparse).1 [] entries none rfl).2⟩

end WorkflowLint.Outline
