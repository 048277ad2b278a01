/-
  WorkflowLint/Proofs/Outline/RoundTrip.lean
  ==========================================
  **Reading what was written.**

  The lines of a draft are read as its tree, no line is skipped, and the layout
  does not show in the value (`parse_entriesLines`).  The induction follows the
  draft.  Its invariant says where a run of lines leaves the pass: one node has
  been put in its place, and on top of the frames from before stand only such
  frames as close for the next line of the block (`State.Leaves`).
-/
import WorkflowLint.Proofs.Outline.Place
import WorkflowLint.Proofs.Text.Lines

namespace WorkflowLint.Outline

open Line (IsKey IsPlainText HoldsNoPair isIgnorable)

namespace State

variable {closes : Frame → Prop} {state : State} {lines more : List Text} {number : Int}
  {tree tree' : Node} {base base' : List Frame}

/-- Running the lines leaves the tree `tree` and no new skips, and above the frames `base`
    only frames of the given kind. -/
def Leaves (closes : Frame → Prop) (state : State) (lines : List Text) (number : Int)
    (tree : Node) (base : List Frame) : Prop :=
  ∃ above, (∀ frame ∈ above, closes frame) ∧
    state.run lines number = .ok ⟨tree, above ++ base, state.skipped⟩

theorem Leaves.cons {line : Text} {next : State} (hstep : state.step line number = .ok next)
    (hskipped : next.skipped = state.skipped)
    (h : next.Leaves closes lines (number + 1) tree base) :
    state.Leaves closes (line :: lines) number tree base := by
  obtain ⟨above, habove, hrun⟩ := h
  refine ⟨above, habove, ?_⟩
  rw [run, hstep, ← hskipped]
  exact hrun

theorem Leaves.append {closes' : Frame → Prop} (h : state.Leaves closes lines number tree base)
    (hmore : ∀ above, (∀ frame ∈ above, closes frame) →
      Leaves closes' ⟨tree, above ++ base, state.skipped⟩ more (number + lines.length) tree'
        base') :
    state.Leaves closes' (lines ++ more) number tree' base' := by
  obtain ⟨above, habove, hrun⟩ := h
  obtain ⟨above', habove', hrun'⟩ := hmore above habove
  refine ⟨above', habove', ?_⟩
  rw [run_append, hrun]
  exact hrun'

/-- Frames may be counted as standing above the others if they are of the kind in question. -/
theorem Leaves.absorb {closes' : Frame → Prop} {extra : List Frame}
    (h : state.Leaves closes lines number tree (extra ++ base))
    (hcloses : ∀ frame, closes frame → closes' frame) (hextra : ∀ frame ∈ extra, closes' frame) :
    state.Leaves closes' lines number tree base := by
  obtain ⟨above, habove, hrun⟩ := h
  refine ⟨above ++ extra, ?_, by rw [hrun, List.append_assoc]⟩
  intro frame hframe
  rcases List.mem_append.mp hframe with hmem | hmem
  · exact hcloses frame (habove frame hmem)
  · exact hextra frame hmem

end State

/-! ### Keys of entries -/

theorem keys_append_singleton (entries : List (Entry Node)) (entry : Entry Node) :
    Entries.keys (entries ++ [entry]) = Entries.keys entries ++ [entry.key] :=
  List.map_append

theorem not_mem_of_nodup {key : Text} {old keys : List Text}
    (h : (old ++ key :: keys).Nodup) : key ∉ old :=
  fun hmem => (List.nodup_append.mp h).2.2 key hmem key (List.mem_cons_self ..) rfl

/-! ### What is to be shown of each part of a draft -/

/-- The lines below a key in a column complete the value of the key. -/
def Draft.Reads (column : Nat) (draft : Draft) : Prop :=
  ∀ ⦃tree : Node⦄ ⦃frames : List Frame⦄ ⦃skipped : List Skip⦄ ⦃address : Address⦄
    ⦃entries : List (Entry Node)⦄ ⦃line : Option Int⦄ ⦃key : Text⦄ (number : Int),
    tree.at? address = some (.mapping entries line) → key ∉ Entries.keys entries →
    State.Leaves (Frame.ClosesForPair column)
      (State.assign address key draft.reading column number ⟨tree, frames, skipped⟩) draft.body
      (number + 1)
      (tree.put address (.mapping (entries ++ [⟨key, some number, draft.node number⟩]) line)) frames

/-- The lines of entries in a column add the entries to the mapping that encloses them. -/
def EntriesRead (column : Nat) (entries : List (Text × Draft)) : Prop :=
  ∀ (number : Int) (above base : List Frame) (skipped : List Skip) ⦃tree : Node⦄
    ⦃address : Address⦄ ⦃old : List (Entry Node)⦄ ⦃line : Option Int⦄,
    (∀ frame ∈ above, frame.ClosesForPair column) → Encloses base column address →
    tree.at? address = some (.mapping old line) →
    (Entries.keys old ++ draftKeys entries).Nodup →
    State.Leaves (Frame.ClosesForPair column) ⟨tree, above ++ base, skipped⟩
      (entriesLines column entries) number
      (tree.put address (.mapping (old ++ entryNodes number entries) line)) base

/-- The lines of an item add it to the sequence of the key above it. -/
def DraftItem.Reads (column : Nat) (item : DraftItem) : Prop :=
  ∀ (number : Int) (above base : List Frame) (skipped : List Skip) ⦃tree : Node⦄
    ⦃owner : Address⦄ ⦃key : Text⦄ ⦃keyColumn : Nat⦄ ⦃node : Node⦄ ⦃items : List Node⦄
    ⦃line : Option Int⦄, (∀ frame ∈ above, frame.ClosesForItem column) → keyColumn ≤ column →
    tree.at? (owner ++ [.key key]) = some node → State.OpensAs number node items line →
    State.Leaves (Frame.ClosesForItem column)
      ⟨tree, above ++ ⟨keyColumn, ⟨owner, some key, false⟩⟩ :: base, skipped⟩ (item.lines column)
      number (tree.put (owner ++ [.key key]) (.sequence (items ++ [item.node number]) line))
      (⟨keyColumn, ⟨owner, some key, false⟩⟩ :: base)

/-- The lines of items add them to the sequence of the key above them. -/
def ItemsRead (column : Nat) (drafts : List DraftItem) : Prop :=
  ∀ (number : Int) (above base : List Frame) (skipped : List Skip) ⦃tree : Node⦄
    ⦃owner : Address⦄ ⦃key : Text⦄ ⦃keyColumn : Nat⦄ ⦃items : List Node⦄ ⦃line : Option Int⦄,
    (∀ frame ∈ above, frame.ClosesForItem column) → keyColumn ≤ column →
    tree.at? (owner ++ [.key key]) = some (.sequence items line) →
    State.Leaves (Frame.ClosesForItem column)
      ⟨tree, above ++ ⟨keyColumn, ⟨owner, some key, false⟩⟩ :: base, skipped⟩
      (itemsLines column drafts) number
      (tree.put (owner ++ [.key key]) (.sequence (items ++ itemNodes column number drafts) line))
      (⟨keyColumn, ⟨owner, some key, false⟩⟩ :: base)

/-! ### Values -/

variable {column : Nat}

/-- A value that stands on the line of its key has nothing below it. -/
theorem reads_scalar {draft : Draft} {scalar : Scalar} (hbody : draft.body = [])
    (hreading : draft.reading = .scalar scalar)
    (hnode : ∀ number, draft.node number = .scalar scalar (some number)) :
    draft.Reads column := by
  intro tree frames skipped address entries line key number hat hkey
  rw [State.assign_eq hat hkey, hbody, hreading, hnode]
  exact ⟨[], by simp, rfl⟩

theorem reads_script (indicator : Text) {body : List Text}
    (hbody : ∀ line ∈ body, isIgnorable line = true ∨ column < Text.blankWidth line) :
    (Draft.script indicator body).Reads column := by
  intro tree frames skipped address entries line key number hat hkey
  rw [State.assign_eq hat hkey]
  refine ⟨[⟨column, ⟨address, some key, true⟩⟩], ?_, ?_⟩
  · simp [Frame.ClosesForPair]
  · refine State.run_of_step (fun text htext bodyNumber => ?_) (number + 1)
    exact State.step_script rfl rfl (hbody text htext)

/-- The frame of a key takes the deeper pairs into the value of the key. -/
theorem encloses_key {inner : Nat} (hdeeper : column < inner) (address : Address) (key : Text)
    (frames : List Frame) :
    Encloses (⟨column, ⟨address, some key, false⟩⟩ :: frames) inner (address ++ [.key key]) := by
  refine ⟨?_, rfl, rfl⟩
  rintro frame ⟨⟩
  exact hdeeper

theorem closesForPair_key (address : Address) (key : Text) :
    ∀ frame ∈ [(⟨column, ⟨address, some key, false⟩⟩ : Frame)], frame.ClosesForPair column := by
  simp [Frame.ClosesForPair]

theorem reads_mapping {inner : Nat} {inside : List (Text × Draft)} (hdeeper : column < inner)
    (hkeys : (draftKeys inside).Nodup) (hinside : EntriesRead inner inside) :
    (Draft.mapping inner inside).Reads column := by
  intro tree frames skipped address entries line key number hat hkey
  rw [State.assign_eq hat hkey]
  have hlines := hinside (number + 1) [] (⟨column, ⟨address, some key, false⟩⟩ :: frames) skipped
    (by simp)
    (encloses_key hdeeper address key frames)
    (at?_assigned hat hkey (some number) (.mapping [] (some number))) hkeys
  rw [put_assigned hkey, List.nil_append] at hlines
  refine State.Leaves.absorb hlines ?_ (closesForPair_key address key)
  intro frame hframe
  exact Nat.le_trans (Nat.le_of_lt hdeeper) hframe

theorem reads_sequence {inner : Nat} {first : DraftItem} {others : List DraftItem}
    (hcolumn : column ≤ inner) (hfirst : first.Reads inner) (hothers : ItemsRead inner others) :
    (Draft.sequence inner first others).Reads column := by
  intro tree frames skipped address entries line key number hat hkey
  rw [State.assign_eq hat hkey]
  -- the first item turns the empty mapping of the key into a sequence
  have hchild := at?_assigned hat hkey (some number) (.mapping [] (some number))
  have hlines := hfirst (number + 1) [] frames skipped (by simp) hcolumn hchild
    (.start (some number))
  have hall := hlines.append fun above habove =>
    hothers (number + 1 + (first.lines inner).length) above frames skipped habove hcolumn
      (Node.at?_put hchild _)
  rw [Node.put_put, put_assigned hkey] at hall
  refine State.Leaves.absorb hall ?_ (closesForPair_key address key)
  intro frame hframe
  exact Nat.le_trans hcolumn hframe.closesForPair

/-! ### Entries -/

theorem entriesRead_nil : EntriesRead column [] := by
  intro number above base skipped tree address old line habove hbase hat hkeys
  refine ⟨above, habove, ?_⟩
  rw [entriesLines, entryNodes, List.append_nil, Node.put_self hat]
  rfl

/-- Once a pair has been assigned, the lines below it complete the pair and add the entries
    that follow. -/
theorem leaves_assigned {key : Text} {value : Draft} {others : List (Text × Draft)}
    {tree : Node} {address : Address} {old : List (Entry Node)} {line : Option Int}
    (hvalue : value.Reads column) (hothers : EntriesRead column others) (number : Int)
    {base : List Frame} (skipped : List Skip) (hbase : Encloses base column address)
    (hat : tree.at? address = some (.mapping old line))
    (hkeys : (Entries.keys old ++ key :: draftKeys others).Nodup) :
    State.Leaves (Frame.ClosesForPair column)
      (State.assign address key value.reading column number ⟨tree, base, skipped⟩)
      (value.body ++ entriesLines column others) (number + 1)
      (tree.put address (.mapping (old ++ entryNodes number ((key, value) :: others)) line))
      base := by
  have hfresh : key ∉ Entries.keys old := not_mem_of_nodup hkeys
  have hkeys' (node : Node) :
      (Entries.keys (old ++ [⟨key, some number, node⟩]) ++ draftKeys others).Nodup := by
    rw [keys_append_singleton, List.append_assoc]
    exact hkeys
  -- what the value leaves open is no shallower than its key, so the next key closes it
  refine State.Leaves.append (hvalue number hat hfresh) ?_
  intro above habove
  rw [State.assign_eq hat hfresh]
  have hrest := hothers (number + 1 + value.body.length) above base skipped habove hbase
    (Node.at?_put hat (.mapping (old ++ [⟨key, some number, value.node number⟩]) line))
    (hkeys' (value.node number))
  rw [Node.put_put, List.append_assoc] at hrest
  exact hrest

theorem entriesRead_cons {key : Text} {value : Draft} {others : List (Text × Draft)}
    (hkey : IsKey key) (hfits : value.Fits column) (hvalue : value.Reads column)
    (hothers : EntriesRead column others) : EntriesRead column ((key, value) :: others) := by
  intro number above base skipped tree address old line habove hbase hat hkeys
  refine State.Leaves.cons (State.step_pairText hkey hfits.isContent_head hfits.readValue_head rfl
    habove hbase hat) ?_ ?_
  · rw [State.assign_eq hat (not_mem_of_nodup hkeys)]
  · exact leaves_assigned hvalue hothers number skipped hbase hat hkeys

/-! ### Items -/

theorem reads_textItem {value : Text} (hplain : IsPlainText value) (hpair : HoldsNoPair value) :
    (DraftItem.text value).Reads column := by
  intro number above base skipped tree owner key keyColumn node items line habove hcolumn hat hopens
  refine State.Leaves.cons (State.step_textItem hplain hpair hat hopens hcolumn rfl habove) rfl ?_
  exact ⟨[], by simp, rfl⟩

theorem encloses_item (column : Nat) (address : Address) (frames : List Frame) :
    Encloses (⟨column, ⟨address, none, false⟩⟩ :: frames) (column + 2) address := by
  refine ⟨?_, rfl, rfl⟩
  rintro frame ⟨⟩
  exact Nat.lt_add_of_pos_right (by decide)

theorem closesForItem_item (column : Nat) (address : Address) :
    ∀ frame ∈ [(⟨column, ⟨address, none, false⟩⟩ : Frame)], frame.ClosesForItem column := by
  simp [Frame.ClosesForItem]

theorem reads_mappingItem {key : Text} {value : Draft} {others : List (Text × Draft)}
    (hkeys : (key :: draftKeys others).Nodup) (hkey : IsKey key) (hfits : value.Fits (column + 2))
    (hvalue : value.Reads (column + 2)) (hothers : EntriesRead (column + 2) others) :
    (DraftItem.mapping key value others).Reads column := by
  intro number above base skipped tree owner listKey keyColumn node items line habove hcolumn hat
    hopens
  have hitem := at?_appended hat items (.mapping [] (some number)) line
  refine State.Leaves.cons (State.step_mappingItem hkey hfits.isContent_head hfits.readValue_head
    hat hopens hcolumn rfl habove) ?_ ?_
  · rw [State.assign_eq hitem List.not_mem_nil]
  -- the frame of the dash takes the entries of the item, and the next dash closes it
  have hlines := leaves_assigned hvalue hothers number skipped
    (encloses_item column _ (⟨keyColumn, ⟨owner, some listKey, false⟩⟩ :: base)) hitem hkeys
  rw [put_appended, List.nil_append] at hlines
  refine State.Leaves.absorb hlines ?_ (closesForItem_item column _)
  intro frame hframe
  exact Or.inl (Nat.lt_of_lt_of_le (Nat.lt_add_of_pos_right (by decide)) hframe)

theorem itemsRead_nil : ItemsRead column [] := by
  intro number above base skipped tree owner key keyColumn items line habove hcolumn hat
  refine ⟨above, habove, ?_⟩
  rw [itemsLines, itemNodes, List.append_nil, Node.put_self hat]
  rfl

theorem itemsRead_cons {item : DraftItem} {others : List DraftItem} (hitem : item.Reads column)
    (hothers : ItemsRead column others) : ItemsRead column (item :: others) := by
  intro number above base skipped tree owner key keyColumn items line habove hcolumn hat
  refine State.Leaves.append
    (hitem number above base skipped habove hcolumn hat (.resume items line)) ?_
  intro above' habove'
  have hrest := hothers (number + (item.lines column).length) above' base skipped habove' hcolumn
    (Node.at?_put hat (.sequence (items ++ [item.node number]) line))
  rw [Node.put_put, List.append_assoc] at hrest
  exact hrest

/-! ### The induction -/

mutual

theorem Draft.Fits.reads {column : Nat} :
    ∀ {draft : Draft}, draft.Fits column → draft.Reads column
  | .text _, _ => reads_scalar rfl rfl fun _ => rfl
  | .flag _, _ => reads_scalar rfl rfl fun _ => rfl
  | .number _, _ => reads_scalar rfl rfl fun _ => rfl
  | .script indicator _, h => reads_script indicator fun line hline => (h.2 line hline).2
  | .mapping _ _, h => reads_mapping h.1 h.2.1 (entriesRead_of_entriesFit h.2.2)
  | .sequence _ _ _, h => reads_sequence h.1 h.2.1.reads (itemsRead_of_itemsFit h.2.2)

theorem entriesRead_of_entriesFit {column : Nat} :
    ∀ {entries : List (Text × Draft)}, EntriesFit column entries → EntriesRead column entries
  | [], _ => entriesRead_nil
  | (_, _) :: _, h => entriesRead_cons h.1 h.2.1 h.2.1.reads (entriesRead_of_entriesFit h.2.2)

theorem DraftItem.Fits.reads {column : Nat} :
    ∀ {item : DraftItem}, item.Fits column → item.Reads column
  | .text _, h => reads_textItem h.1 h.2
  | .mapping _ _ _, h =>
    reads_mappingItem h.1 h.2.1 h.2.2.1 h.2.2.1.reads (entriesRead_of_entriesFit h.2.2.2)

theorem itemsRead_of_itemsFit {column : Nat} :
    ∀ {items : List DraftItem}, ItemsFit column items → ItemsRead column items
  | [], _ => itemsRead_nil
  | _ :: _, h => itemsRead_cons h.1.reads (itemsRead_of_itemsFit h.2)

end

/-! ### Whole documents -/

theorem encloses_root (column : Nat) : Encloses [] column [] := by
  refine ⟨?_, rfl, rfl⟩
  intro frame hframe
  cases hframe

/-- The lines of a document, with blank lines and comments after them, put the entries of
    the document into the root. -/
theorem run_entriesLines {entries : List (Text × Draft)} (hkeys : (draftKeys entries).Nodup)
    (hfit : EntriesFit column entries) {tail : List Text}
    (htail : ∀ line ∈ tail, isIgnorable line = true) :
    ∃ frames, State.initial.run (entriesLines column entries ++ tail) 1 =
      .ok ⟨.mapping (entryNodes 1 entries) none, frames, []⟩ := by
  have hroot : (Node.mapping [] none).at? [] = some (.mapping [] none) := rfl
  obtain ⟨frames, -, hrun⟩ := entriesRead_of_entriesFit hfit 1 [] [] []
    (by simp) (encloses_root column) hroot hkeys
  refine ⟨frames ++ [], ?_⟩
  rw [State.run_append, State.initial]
  rw [List.append_nil] at hrun
  rw [hrun]
  exact State.run_of_step (fun line hline _ => State.step_ignorable (htail line hline)) _

/-- A document that is written in block style is read as what it is: every node and every
    key with its line, and nothing skipped. -/
theorem parse_entriesLines {entries : List (Text × Draft)} (hkeys : (draftKeys entries).Nodup)
    (hfit : EntriesFit column entries) {tail : List Text}
    (htail : ∀ line ∈ tail, '\n' ∉ line ∧ isIgnorable line = true) :
    ∃ outline, parse (Text.joinLines (entriesLines column entries ++ tail)) = .ok outline ∧
      outline.tree = .mapping (entryNodes 1 entries) none ∧
      outline.tree.toJson = .object (plainEntries entries) ∧
      outline.skipped = [] ∧ outline.log = [] := by
  obtain ⟨frames, hrun⟩ := run_entriesLines hkeys hfit fun line hline => (htail line hline).2
  refine ⟨⟨.mapping (entryNodes 1 entries) none, []⟩, ?_, rfl, ?_, rfl, rfl⟩
  · have hlines : State.initial.run
        (Text.lines (Text.joinLines (entriesLines column entries ++ tail))) 1 =
          State.initial.run (entriesLines column entries ++ tail) 1 := by
      cases hempty : entriesLines column entries ++ tail with
      | nil => rfl
      | cons first others =>
        rw [← hempty, Text.lines_joinLines (by simp [hempty])]
        intro line hline
        rcases List.mem_append.mp hline with hentries | hmem
        · exact feed_entriesLines hfit line hentries
        · exact (htail line hmem).1
    rw [parse, hlines, hrun]
    rfl
  · rw [Node.toJson, toJson_entryNodes]

/-- A workflow with one list in the column of its key and one deeper. -/
def workflowDraft : List (Text × Draft) :=
  [("on", .mapping 3 [("push", .sequence 3 (.text "main") [])]),
   ("jobs", .mapping 2 [("build", .mapping 4
    [("retries", .number 2),
     ("steps", .sequence 6
      (.mapping "run" (.script "|" ["           - make: all"]) [("shell", .text "bash")])
      [.text "end"])])])]

theorem parse_entriesLines_workflow :
    (draftKeys workflowDraft).Nodup ∧ EntriesFit 0 workflowDraft ∧
      ∃ outline, parse ("on:\n   push:\n   - main\njobs:\n  build:\n    retries: 2\n" ++
          "    steps:\n      - run: |\n           - make: all\n        shell: bash\n" ++
          "      - end\n" : String) = .ok outline ∧
        outline.tree.toJson = .object
          [("on", .object [("push", .array [.str "main"])]),
           ("jobs", .object [("build", .object
            [("retries", .int 2),
             ("steps", .array
              [.object [("run", .str []), ("shell", .str "bash")], .str "end"])])])] ∧
        outline.log = [] := by
  have hkeys : (draftKeys workflowDraft).Nodup := by decide
  have hfit : EntriesFit 0 workflowDraft := by decide +kernel
  have htail : ∀ line ∈ ([[]] : List Text), '\n' ∉ line ∧ isIgnorable line = true := by decide
  obtain ⟨outline, hparse, -, hvalue, -, hlog⟩ := parse_entriesLines hkeys hfit htail
  have htext : Text.joinLines (entriesLines 0 workflowDraft ++ [[]]) =
      ("on:\n   push:\n   - main\njobs:\n  build:\n    retries: 2\n" ++
        "    steps:\n      - run: |\n           - make: all\n        shell: bash\n" ++
        "      - end\n" : String).toList := by decide +kernel
  rw [htext] at hparse
  exact ⟨hkeys, hfit, outline, hparse, hvalue, hlog⟩

end WorkflowLint.Outline
