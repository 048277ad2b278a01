/-
  WorkflowLint/Proofs/Outline/Draft.lean
  ======================================
  **Documents as they are laid out.**

  A draft is a document value together with the columns in which it is written in
  block style.  It has lines, a tree and a plain value: `entriesLines` writes it
  down, `entryNodes` is the tree that these lines stand for, with the line of
  every node and key, and `plainEntries` is the value alone, on which the columns
  have no influence (`toJson_entryNodes`).  `EntriesFit` says which columns keep
  the blocks apart and which texts can be written without quotes.
-/
import WorkflowLint.Json.Tree
import WorkflowLint.Outline.Parse
import WorkflowLint.Proofs.Line.Value

namespace WorkflowLint.Outline

open Line (IsPlainText IsString HoldsNoPair IsKey IsContent pairText isBlockIndicator isIgnorable)

mutual

/-- A value with its layout: a mapping and a sequence are written below their key, in a
    column of their own. -/
inductive Draft where
  | text (value : Text)
  | flag (value : Bool)
  | number (value : Nat)
  | script (indicator : Text) (body : List Text)
  | mapping (column : Nat) (entries : List (Text × Draft))
  | sequence (column : Nat) (first : DraftItem) (others : List DraftItem)

/-- An item of a sequence: a text, or a mapping whose first entry stands on the line of
    the dash. -/
inductive DraftItem where
  | text (value : Text)
  | mapping (key : Text) (value : Draft) (others : List (Text × Draft))

end

/-! ### Lines -/

/-- A text behind spaces. -/
def indent (column : Nat) (text : Text) : Text := List.replicate column ' ' ++ text

/-- What stands behind the colon of the key. -/
def Draft.head : Draft → Text
  | .text value => value
  | .flag value => if value then "true" else "false"
  | .number value => Text.ofNat value
  | .script indicator _ => indicator
  | .mapping _ _ => []
  | .sequence _ _ _ => []

mutual

/-- The lines below the line of the key. -/
def Draft.body : Draft → List Text
  | .script _ body => body
  | .mapping column entries => entriesLines column entries
  | .sequence column first others => first.lines column ++ itemsLines column others
  | .text _ => []
  | .flag _ => []
  | .number _ => []

/-- The lines of entries in a column. -/
def entriesLines (column : Nat) : List (Text × Draft) → List Text
  | [] => []
  | (key, value) :: others =>
    indent column (pairText key value.head) :: (value.body ++ entriesLines column others)

def DraftItem.lines (column : Nat) : DraftItem → List Text
  | .text value => [indent column ('-' :: ' ' :: value)]
  | .mapping key value others =>
    -- the first key stands two columns right of the dash, and so do the others
    indent column ('-' :: ' ' :: pairText key value.head) ::
      (value.body ++ entriesLines (column + 2) others)

def itemsLines (column : Nat) : List DraftItem → List Text
  | [] => []
  | item :: others => item.lines column ++ itemsLines column others

end

/-! ### Trees -/

mutual

/-- The tree of a value whose key stands on a line. -/
def Draft.node (line : Int) : Draft → Node
  | .text value => .scalar (.str value) (some line)
  | .flag value => .scalar (.bool value) (some line)
  | .number value => .scalar (.int value) (some line)
  | .script _ _ => .scalar (.str []) (some line)
  | .mapping _ entries => .mapping (entryNodes (line + 1) entries) (some line)
  | .sequence column first others =>
    -- a sequence has the line of its first dash
    .sequence (first.node (line + 1) ::
      itemNodes column (line + 1 + (first.lines column).length) others) (some (line + 1))

/-- The entries that are written from a line on. -/
def entryNodes (line : Int) : List (Text × Draft) → List (Entry Node)
  | [] => []
  | (key, value) :: others =>
    ⟨key, some line, value.node line⟩ :: entryNodes (line + 1 + value.body.length) others

def DraftItem.node (line : Int) : DraftItem → Node
  | .text value => .scalar (.str value) (some line)
  | .mapping key value others =>
    .mapping (⟨key, some line, value.node line⟩ ::
      entryNodes (line + 1 + value.body.length) others) (some line)

def itemNodes (column : Nat) (line : Int) : List DraftItem → List Node
  | [] => []
  | item :: others =>
    item.node line :: itemNodes column (line + (item.lines column).length) others

end

/-! ### Plain values -/

mutual

/-- The value without its layout; the body of a block scalar is not part of it. -/
def Draft.plain : Draft → Json
  | .text value => .str value
  | .flag value => .bool value
  | .number value => .int value
  | .script _ _ => .str []
  | .mapping _ entries => .object (plainEntries entries)
  | .sequence _ first others => .array (first.plain :: plainItems others)

def plainEntries : List (Text × Draft) → List (Text × Json)
  | [] => []
  | (key, value) :: others => (key, value.plain) :: plainEntries others

def DraftItem.plain : DraftItem → Json
  | .text value => .str value
  | .mapping key value others => .object ((key, value.plain) :: plainEntries others)

def plainItems : List DraftItem → List Json
  | [] => []
  | item :: others => item.plain :: plainItems others

end

/-! ### Layouts that keep blocks apart -/

def draftKeys (entries : List (Text × Draft)) : List Text := entries.map Prod.fst

mutual

/-- Whether a value can be written below a key in a column: a mapping and the body of a
    block scalar are deeper than the key, the dashes of a sequence are not shallower, and
    the keys of every mapping are distinct. -/
def Draft.Fits (column : Nat) : Draft → Prop
  | .text value => IsString value
  | .flag _ => True
  | .number value => (Text.ofNat value).length ≤ digitLimit
  | .script indicator body => isBlockIndicator indicator = true ∧
      ∀ line ∈ body, '\n' ∉ line ∧ (isIgnorable line = true ∨ column < Text.blankWidth line)
  | .mapping inner entries => column < inner ∧ (draftKeys entries).Nodup ∧ EntriesFit inner entries
  | .sequence inner first others => column ≤ inner ∧ first.Fits inner ∧ ItemsFit inner others

def EntriesFit (column : Nat) : List (Text × Draft) → Prop
  | [] => True
  | (key, value) :: others => IsKey key ∧ value.Fits column ∧ EntriesFit column others

def DraftItem.Fits (column : Nat) : DraftItem → Prop
  | .text value => IsPlainText value ∧ HoldsNoPair value
  | .mapping key value others =>
    (key :: draftKeys others).Nodup ∧ IsKey key ∧ value.Fits (column + 2) ∧
      EntriesFit (column + 2) others

def ItemsFit (column : Nat) : List DraftItem → Prop
  | [] => True
  | item :: others => item.Fits column ∧ ItemsFit column others

end

mutual

instance Draft.decideFits (column : Nat) : (draft : Draft) → Decidable (draft.Fits column)
  | .text value => inferInstanceAs (Decidable (IsString value))
  | .flag _ => inferInstanceAs (Decidable True)
  | .number value => inferInstanceAs (Decidable ((Text.ofNat value).length ≤ digitLimit))
  | .script indicator body => inferInstanceAs (Decidable (isBlockIndicator indicator = true ∧
      ∀ line ∈ body, '\n' ∉ line ∧ (isIgnorable line = true ∨ column < Text.blankWidth line)))
  | .mapping inner entries =>
    have := decideEntriesFit inner entries
    inferInstanceAs (Decidable (column < inner ∧ (draftKeys entries).Nodup ∧
      EntriesFit inner entries))
  | .sequence inner first others =>
    have := first.decideFits inner
    have := decideItemsFit inner others
    inferInstanceAs (Decidable (column ≤ inner ∧ first.Fits inner ∧ ItemsFit inner others))

instance decideEntriesFit (column : Nat) :
    (entries : List (Text × Draft)) → Decidable (EntriesFit column entries)
  | [] => inferInstanceAs (Decidable True)
  | (key, value) :: others =>
    have := value.decideFits column
    have := decideEntriesFit column others
    inferInstanceAs (Decidable (IsKey key ∧ value.Fits column ∧ EntriesFit column others))

instance DraftItem.decideFits (column : Nat) : (item : DraftItem) → Decidable (item.Fits column)
  | .text value => inferInstanceAs (Decidable (IsPlainText value ∧ HoldsNoPair value))
  | .mapping key value others =>
    have := value.decideFits (column + 2)
    have := decideEntriesFit (column + 2) others
    inferInstanceAs (Decidable ((key :: draftKeys others).Nodup ∧ IsKey key ∧
      value.Fits (column + 2) ∧ EntriesFit (column + 2) others))

instance decideItemsFit (column : Nat) :
    (items : List DraftItem) → Decidable (ItemsFit column items)
  | [] => inferInstanceAs (Decidable True)
  | item :: others =>
    have := item.decideFits column
    have := decideItemsFit column others
    inferInstanceAs (Decidable (item.Fits column ∧ ItemsFit column others))

end

/-! ### Values of trees -/

mutual

theorem Draft.toJson_node (line : Int) : ∀ draft : Draft, (draft.node line).toJson = draft.plain
  | .text _ => rfl
  | .flag _ => rfl
  | .number _ => rfl
  | .script _ _ => rfl
  | .mapping _ entries => by
    rw [Draft.node, Node.toJson, toJson_entryNodes, Draft.plain]
  | .sequence column first others => by
    rw [Draft.node, Node.toJson, Node.itemsToJson, first.toJson_node, toJson_itemNodes,
      Draft.plain]

/-- The columns and lines of a draft do not show in the values of its entries. -/
theorem toJson_entryNodes (line : Int) : ∀ entries : List (Text × Draft),
    Node.entriesToJson (entryNodes line entries) = plainEntries entries
  | [] => rfl
  | (key, value) :: others => by
    rw [entryNodes, Node.entriesToJson, value.toJson_node, toJson_entryNodes, plainEntries]

theorem DraftItem.toJson_node (line : Int) :
    ∀ item : DraftItem, (item.node line).toJson = item.plain
  | .text _ => rfl
  | .mapping key value others => by
    rw [DraftItem.node, Node.toJson, Node.entriesToJson, value.toJson_node, toJson_entryNodes,
      DraftItem.plain]

theorem toJson_itemNodes (column : Nat) (line : Int) : ∀ items : List DraftItem,
    Node.itemsToJson (itemNodes column line items) = plainItems items
  | [] => rfl
  | item :: others => by
    rw [itemNodes, Node.itemsToJson, item.toJson_node, toJson_itemNodes, plainItems]

end

/-! ### What is read behind a colon -/

/-- What stands behind the colon of the key, as it is read. -/
def Draft.reading : Draft → LineValue
  | .text value => .scalar (.str value)
  | .flag value => .scalar (.bool value)
  | .number value => .scalar (.int value)
  | .script _ _ => .block
  | .mapping _ _ => .nested
  | .sequence _ _ _ => .nested

theorem Draft.Fits.isContent_head {column : Nat} {draft : Draft} (h : draft.Fits column) :
    draft.head = [] ∨ IsContent draft.head := by
  cases draft with
  | text value => exact Or.inr (IsPlainText.isContent h.1)
  | flag value =>
    refine Or.inr (Line.isContent_of_forall ?_ ?_)
    · cases value <;> decide
    · cases value <;> exact Text.forall_mem_of_all (by decide)
  | number value => exact Or.inr (Line.isDigits_ofNat value).isContent
  | script indicator body => exact Or.inr (Line.isContent_of_isBlockIndicator h.1)
  | mapping inner entries => exact Or.inl rfl
  | sequence inner first others => exact Or.inl rfl

theorem Draft.Fits.readValue_head {column : Nat} {draft : Draft} (h : draft.Fits column) :
    Line.readValue draft.head = .ok draft.reading := by
  cases draft with
  | text value => exact Line.IsString.readValue_eq h
  | flag value => cases value <;> rfl
  | number value => exact Line.readValue_ofNat h
  | script indicator body => exact Line.readValue_of_isBlockIndicator h.1
  | mapping inner entries => rfl
  | sequence inner first others => rfl

/-! ### Lines that can be joined -/

theorem feed_indent {column : Nat} {text : Text} (h : IsContent text) :
    '\n' ∉ indent column text := by
  rw [indent, List.mem_append, not_or]
  exact ⟨fun hmem => absurd (List.eq_of_mem_replicate hmem) (by decide), h.feed⟩

theorem isContent_dash {text : Text} (h : IsContent text) : IsContent ('-' :: ' ' :: text) := by
  have hhead : ∀ c, ['-', ' '].head? = some c → Text.isBlank c = false := by
    rintro c ⟨⟩
    rfl
  exact h.prepend hhead (Text.forall_mem_of_all (by decide))

mutual

theorem Draft.Fits.feed_body {column : Nat} :
    ∀ {draft : Draft}, draft.Fits column → ∀ line ∈ draft.body, '\n' ∉ line
  | .text _, _ => by simp [Draft.body]
  | .flag _, _ => by simp [Draft.body]
  | .number _, _ => by simp [Draft.body]
  | .script _ _, h => fun line hline => (h.2 line hline).1
  | .mapping _ _, h => feed_entriesLines h.2.2
  | .sequence _ _ _, h => by
    intro line hline
    rw [Draft.body, List.mem_append] at hline
    rcases hline with hfirst | hothers
    · exact h.2.1.feed_lines line hfirst
    · exact feed_itemsLines h.2.2 line hothers

theorem feed_entriesLines {column : Nat} :
    ∀ {entries : List (Text × Draft)}, EntriesFit column entries →
      ∀ line ∈ entriesLines column entries, '\n' ∉ line
  | [], _ => by simp [entriesLines]
  | (key, value) :: others, h => by
    intro line hline
    rw [entriesLines, List.mem_cons, List.mem_append] at hline
    rcases hline with rfl | hbody | hothers
    · exact feed_indent (Line.isContent_pairText h.1 h.2.1.isContent_head)
    · exact h.2.1.feed_body line hbody
    · exact feed_entriesLines h.2.2 line hothers

theorem DraftItem.Fits.feed_lines {column : Nat} :
    ∀ {item : DraftItem}, item.Fits column → ∀ line ∈ item.lines column, '\n' ∉ line
  | .text value, h => by
    intro line hline
    rw [DraftItem.lines, List.mem_singleton] at hline
    rw [hline]
    exact feed_indent (isContent_dash (IsPlainText.isContent h.1))
  | .mapping key value others, h => by
    intro line hline
    rw [DraftItem.lines, List.mem_cons, List.mem_append] at hline
    obtain ⟨-, hkey, hvalue, hentries⟩ := h
    rcases hline with rfl | hbody | hothers
    · exact feed_indent (isContent_dash (Line.isContent_pairText hkey hvalue.isContent_head))
    · exact hvalue.feed_body line hbody
    · exact feed_entriesLines hentries line hothers

theorem feed_itemsLines {column : Nat} :
    ∀ {items : List DraftItem}, ItemsFit column items →
      ∀ line ∈ itemsLines column items, '\n' ∉ line
  | [], _ => by simp [itemsLines]
  | item :: others, h => by
    intro line hline
    rw [itemsLines, List.mem_append] at hline
    rcases hline with hitem | hothers
    · exact h.1.feed_lines line hitem
    · exact feed_itemsLines h.2 line hothers

end

end WorkflowLint.Outline
