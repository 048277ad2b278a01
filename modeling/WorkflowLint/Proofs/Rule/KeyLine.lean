/-
  WorkflowLint/Proofs/Rule/KeyLine.lean
  =====================================
  **Where an unknown key is reported.**

  The rule on unknown keys at the root looks for the line of a key a second time, on the
  text: it takes the first line that starts with the key and its colon, whatever this
  line belongs to.  So its finding has the line that is recorded for the key if and only
  if that line is the first such line (`evaluate_unknownKey`).  The line that is recorded
  does start with the key, but it may have blanks before the colon, and then the rule
  does not find it.
-/
import WorkflowLint.Proofs.Outline.Origin
import WorkflowLint.Proofs.Rule.Exempt
import WorkflowLint.Proofs.Rule.Found

namespace WorkflowLint

open Text (allBlank)
open Outline (Content content?)

/-! ### Lines that start with a key -/

namespace Line

variable {key gap line : Text} {content : Content}

/-- A line that starts with a key, bare or in quotes, and a colon, with `gap` between the two. -/
def StartsWithKey (key gap line : Text) : Prop :=
  ∃ quote rest, IsQuoting quote ∧ Text.trim line = quote ++ key ++ quote ++ gap ++ ':' :: rest

theorem startsWithKey_iff :
    Document.startsWithKey key (Text.trim line) = true ↔ StartsWithKey key [] line := by
  have hquote (quote : Text) : (quote ++ key ++ quote ++ ":").isPrefixOf (Text.trim line) = true ↔
      ∃ rest, Text.trim line = quote ++ key ++ quote ++ [] ++ ':' :: rest := by
    rw [List.isPrefixOf_iff_prefix, List.append_nil]
    constructor
    · rintro ⟨rest, h⟩
      exact ⟨rest, by rw [← h, List.append_assoc _ _ rest]; rfl⟩
    · rintro ⟨rest, h⟩
      exact ⟨rest, by rw [h, List.append_assoc _ _ rest]; rfl⟩
  have hnone : key ++ ":".toList = [] ++ key ++ [] ++ ":".toList := by
    rw [List.nil_append, List.append_nil]
  have hdouble : "\"".toList ++ key ++ "\":".toList = ['"'] ++ key ++ ['"'] ++ ":".toList :=
    List.append_cons (['"'] ++ key) '"' ":".toList
  have hsingle : "'".toList ++ key ++ "':".toList = ['\''] ++ key ++ ['\''] ++ ":".toList :=
    List.append_cons (['\''] ++ key) '\'' ":".toList
  rw [Document.startsWithKey, Bool.or_eq_true, Bool.or_eq_true, hnone, hdouble, hsingle, hquote,
    hquote, hquote]
  constructor
  · rintro ((⟨rest, h⟩ | ⟨rest, h⟩) | ⟨rest, h⟩)
    · exact ⟨[], rest, .inl rfl, h⟩
    · exact ⟨['"'], rest, .inr (.inl rfl), h⟩
    · exact ⟨['\''], rest, .inr (.inr rfl), h⟩
  · rintro ⟨quote, rest, rfl | rfl | rfl, h⟩
    · exact .inl (.inl ⟨rest, h⟩)
    · exact .inl (.inr ⟨rest, h⟩)
    · exact .inr ⟨rest, h⟩

instance : Decidable (StartsWithKey key [] line) := decidable_of_iff _ startsWithKey_iff

theorem startsWithKey_of_splitPair (hcontent : content? line = some content) {value : Text}
    (hpair : splitPair content.text = some (key, value)) :
    ∃ gap, allBlank gap = true ∧ StartsWithKey key gap line := by
  obtain ⟨margin, quote, gap, after, hmargin, hquote, hgap, htext, -⟩ :=
    eq_append_of_splitPair hpair
  obtain ⟨-, rfl⟩ := Outline.content?_eq_some_iff.mp hcontent
  simp only at htext
  obtain ⟨tail, htail⟩ := stripComment_prefix (Text.trim line)
  have htight := tight_stripComment (Text.tight_trim line)
  -- the content starts where the line without its blanks does, so no margin is left
  cases margin with
  | nil => exact ⟨gap, hgap, quote, after ++ tail, hquote, by rw [← htail, htext]; simp⟩
  | cons c margin =>
    rw [Text.allBlank_cons, Bool.and_eq_true] at hmargin
    have hhead := htight.1 c (by rw [htext]; rfl)
    rw [hmargin.1] at hhead
    cases hhead

end Line

/-! ### The first line of a key -/

open Line (StartsWithKey)

variable {key line : Text} {lines : List Text} {index : Nat}

/-- The first of the lines that start with a key and its colon. -/
def IsFirstWithKey (key : Text) (lines : List Text) (index : Nat) : Prop :=
  StartsWithKey key [] (lineAt lines index) ∧
    ∀ above < index, ¬StartsWithKey key [] (lineAt lines above)

instance : Decidable (IsFirstWithKey key lines index) := inferInstanceAs (Decidable (_ ∧ _))

theorem not_isFirstWithKey_nil : ¬IsFirstWithKey key [] index := by
  rintro ⟨⟨quote, rest, -, h⟩, -⟩
  have hnil : quote ++ key ++ quote ++ [] ++ ':' :: rest = [] := h.symm
  exact List.cons_ne_nil _ _ (List.append_eq_nil_iff.mp hnil).2

theorem isFirstWithKey_zero :
    IsFirstWithKey key (line :: lines) 0 ↔ StartsWithKey key [] line := by
  simp [IsFirstWithKey, lineAt]

theorem isFirstWithKey_succ : IsFirstWithKey key (line :: lines) (index + 1) ↔
    ¬StartsWithKey key [] line ∧ IsFirstWithKey key lines index := by
  have habove : (∀ above < index + 1, ¬StartsWithKey key [] (lineAt (line :: lines) above)) ↔
      ¬StartsWithKey key [] line ∧ ∀ above < index, ¬StartsWithKey key [] (lineAt lines above) :=
    Nat.forall_lt_succ_left
  rw [IsFirstWithKey, habove, and_left_comm]
  rfl

theorem Document.findKeyLineFrom?_eq_some_iff {number n : Int} :
    findKeyLineFrom? key number lines = some n ↔
      ∃ index : Nat, n = number + index ∧ IsFirstWithKey key lines index := by
  induction lines generalizing number with
  | nil =>
    refine iff_of_false (fun h => by cases h) ?_
    rintro ⟨index, -, h⟩
    exact not_isFirstWithKey_nil h
  | cons line rest ih =>
    rw [findKeyLineFrom?]
    by_cases hstart : StartsWithKey key [] line
    · rw [if_pos (Line.startsWithKey_iff.mpr hstart), Option.some_inj]
      constructor
      · rintro rfl
        exact ⟨0, (Int.add_zero _).symm, isFirstWithKey_zero.mpr hstart⟩
      · rintro ⟨index, rfl, hfirst⟩
        cases index with
        | zero => exact (Int.add_zero _).symm
        | succ index => exact absurd hstart (isFirstWithKey_succ.mp hfirst).1
    · rw [if_neg (mt Line.startsWithKey_iff.mp hstart), ih]
      constructor
      · rintro ⟨index, rfl, hfirst⟩
        exact ⟨index + 1, by omega, isFirstWithKey_succ.mpr ⟨hstart, hfirst⟩⟩
      · rintro ⟨index, rfl, hfirst⟩
        cases index with
        | zero => exact absurd (isFirstWithKey_zero.mp hfirst) hstart
        | succ index => exact ⟨index, by omega, (isFirstWithKey_succ.mp hfirst).2⟩

/-! ### Findings about unknown keys -/

/-- The message about an unknown key at the root. -/
def unknownKeyMessage (key : Text) : Text := "Unknown top-level key: \"" ++ key ++ "\""

theorem unknownKeyMessage_inj {key other : Text} :
    unknownKeyMessage key = unknownKeyMessage other ↔ key = other := by
  have hcancel (front back : Text) :
      front ++ key ++ back = front ++ other ++ back ↔ key = other := by
    rw [List.append_cancel_right_eq, List.append_cancel_left_eq]
  exact hcancel _ _

/-- The finding about an unknown key at the root. -/
def unknownKeyFinding (key : Text) (line : Option Int) : Diagnostic :=
  { severity := .warning
    message := unknownKeyMessage key
    line := line
    ruleId := some "structure/unknown-top-level-key" }

namespace Document

variable {text : Text} {document : Document} {entry : Entry Node}

/-- The rule on unknown keys finds each of them once. -/
theorem filter_analyze_unknownTopLevelKey (hnodup : (Entries.keys document.entries).Nodup)
    (hentry : entry ∈ document.entries) (hkey : entry.key ∉ Catalog.workflowKeys) :
    (StructureRule.unknownTopLevelKey.analyze document).filter
        (fun finding => finding.message = unknownKeyMessage entry.key) =
      [unknownKeyFinding entry.key (document.findKeyLine? entry.key)] := by
  have hone : (unknownEntries Catalog.workflowKeys document.entries).filter
      (fun other => unknownKeyMessage other.key = unknownKeyMessage entry.key) = [entry] := by
    simp only [unknownKeyMessage_inj]
    rw [unknownEntries, List.filter_filter, ← Entries.filter_of_mem hnodup hentry]
    refine List.filter_congr fun other _ => ?_
    rw [← Bool.decide_and]
    exact decide_eq_decide.mpr (and_iff_left_of_imp fun hother => hother ▸ hkey)
  have hmap := congrArg (List.map fun other =>
    unknownKeyFinding other.key (document.findKeyLine? other.key)) hone
  rw [StructureRule.analyze, List.filter_map]
  exact hmap

theorem at?_nil_of_load (hload : load text = .ok document) :
    document.outline.tree.at? [] = some (.mapping document.entries none) := by
  obtain ⟨state, hrun, htree⟩ := exists_run_of_load hload
  obtain ⟨entries, hroot⟩ := (Outline.State.sound_of_run hrun).root
  rw [Node.at?_nil, Document.entries, ← htree, hroot]
  rfl

end Document

/-- An unknown key at the root has one finding, with the first line that starts with the key and
    its colon.  The line that is recorded for the key starts with it as well, perhaps with blanks
    before the colon; the finding has this line if and only if it is that first line. -/
theorem evaluate_unknownKey {text : Text} {document : Document}
    (hload : Document.load text = .ok document) {entry : Entry Node}
    (hentry : entry ∈ document.entries) (hkey : entry.key ∉ Catalog.workflowKeys)
    (strict : Bool) :
    ∃ (index : Nat) (gap : Text) (found : Option Int), entry.line = some (index + 1 : Int) ∧
      allBlank gap = true ∧ StartsWithKey entry.key gap (lineAt (Text.lines text) index) ∧
      (document.foundBy strict "structure/unknown-top-level-key").filter
          (fun finding => finding.message = unknownKeyMessage entry.key) =
        [unknownKeyFinding entry.key found] ∧
      (∀ number, found = some number ↔
        ∃ other : Nat, number = other + 1 ∧ IsFirstWithKey entry.key (Text.lines text) other) ∧
      (found = entry.line ↔ IsFirstWithKey entry.key (Text.lines text) index) := by
  have hkeys := Document.keysRecorded_of_load hload
  have hat := Document.at?_nil_of_load hload
  have hblank := Document.allBlank_eq_false hload hat hentry
  obtain ⟨state, number, hrun, hnumber, hline, -⟩ := Document.exists_run_of_mem hload hat hentry
  -- the root is no list item, so the line of the key is a pair without a dash
  obtain ⟨hlines, habove, -, -, -, hcontent, -, hpair, -, -, -, -⟩ :=
    Outline.State.keySet_of_run hrun (by simp) hline
  rename_i above below line _ _ _ _ _
  obtain ⟨gap, hgap, hstart⟩ := Line.startsWithKey_of_splitPair hcontent hpair
  rw [Document.lines_of_load hload] at hlines
  have hlineAt : lineAt (Text.lines text) above.length = line := by
    rw [hlines, lineAt]
    simp
  have hfound (number : Int) : document.findKeyLine? entry.key = some number ↔
      ∃ other : Nat, number = other + 1 ∧
        IsFirstWithKey entry.key (Text.lines text) other := by
    rw [Document.findKeyLine?, Document.findKeyLineFrom?_eq_some_iff,
      Document.lines_of_load hload]
    simp only [Int.add_comm]
  rw [hnumber, habove, Int.add_comm]
  refine ⟨above.length, gap, document.findKeyLine? entry.key, rfl, hgap, hlineAt.symm ▸ hstart,
    ?_, hfound, ?_⟩
  · refine Eq.trans (congrArg _ (Document.foundBy_structureRule hblank strict
      .unknownTopLevelKey)) ?_
    exact Document.filter_analyze_unknownTopLevelKey (hkeys.recorded_entries hat).1 hentry hkey
  · rw [hfound]
    constructor
    · rintro ⟨other, hother, hfirst⟩
      obtain rfl : above.length = other := by omega
      exact hfirst
    · exact fun hfirst => ⟨_, rfl, hfirst⟩

/-- A key in quotes below another one. -/
theorem evaluate_unknownKey_colour :
    let text : Text := "name: x\n\"colour\": red # of the badge"
    let name : Entry Node := ⟨"name", some 1, .scalar (.str "x") (some 1)⟩
    let colour : Entry Node := ⟨"colour", some 2, .scalar (.str "red") (some 2)⟩
    let document : Document := ⟨text, Text.lines text, .mapping [name, colour] none, []⟩
    Document.load text = .ok document ∧ colour.key ∉ Catalog.workflowKeys ∧
      (document.foundBy false "structure/unknown-top-level-key").filter
          (fun finding => finding.message = unknownKeyMessage "colour") =
        [unknownKeyFinding "colour" (some 2)] := by
  intro text name colour document
  have hload : Document.load text = .ok document := rfl
  have hkey : colour.key ∉ Catalog.workflowKeys := by decide
  obtain ⟨index, gap, found, hindex, -, -, hfound, -, hline⟩ :=
    evaluate_unknownKey hload (List.mem_cons_of_mem _ (List.mem_singleton_self _)) hkey false
  obtain rfl : index = 1 := by
    have := Option.some_inj.mp hindex
    omega
  obtain rfl : found = some 2 := hline.mpr (by decide)
  exact ⟨hload, hkey, hfound⟩

/-- A key that also stands in a job further up is reported there. -/
theorem evaluate_unknownKey_nested :
    let text : Text :=
      "on: push\njobs:\n  b:\n    runs-on: x\n    timeout-minutes: 5\ntimeout-minutes: 10"
    ∃ document, Document.load text = .ok document ∧ ∃ entry ∈ document.entries,
      entry.key ∉ Catalog.workflowKeys ∧ entry.line = some 6 ∧
        document.foundBy false "structure/unknown-top-level-key" =
          [unknownKeyFinding entry.key (some 5)] := by
  intro text
  refine ⟨_, rfl, _, List.mem_cons_of_mem _ (List.mem_cons_of_mem _ (List.mem_singleton_self _)),
    ?_⟩
  decide +kernel

end WorkflowLint
