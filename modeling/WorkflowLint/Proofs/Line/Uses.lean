/-
  WorkflowLint/Proofs/Line/Uses.lean
  ==================================
  **Lines that use an action.**

  `UsesLine` is a line that names an action, with a gap where the reference
  stands.  Every line from which a word is read as a reference is such a line
  (`exists_usesLine`), and another word in the gap is read in the same way
  (`usesReference?_line`).  Substituting one reference for another is therefore
  filling the gap anew.
-/
import WorkflowLint.Line.Uses
import WorkflowLint.Proofs.Line.Comment
import WorkflowLint.Proofs.Text.Part

namespace WorkflowLint.Line

open Text (isBlank allBlank)

/-! ### Reading in steps -/

theorem after?_append (word rest : Text) : after? word (word ++ rest) = some rest := by
  rw [after?, Text.isPrefixOf_append_self, if_pos rfl, List.drop_left]

theorem eq_append_of_after? {word text rest : Text} (h : after? word text = some rest) :
    text = word ++ rest := by
  rw [after?] at h
  split at h
  · rename_i hprefix
    obtain ⟨back, rfl⟩ := List.isPrefixOf_iff_prefix.mp hprefix
    rw [List.drop_left, Option.some_inj] at h
    rw [h]
  · exact absurd h (by simp)

theorem after?_eq_none {word text : Text} (h : word.isPrefixOf text = false) :
    after? word text = none := by
  rw [after?, h]
  rfl

theorem wholeLine?_of_not_mem {text : Text} (h : '\n' ∉ text) : wholeLine? text = some text := by
  rw [wholeLine?, Text.cutAt?_eq_none h]

/-- A dash with the blanks after it, or nothing. -/
def IsDash (dash : Text) : Prop :=
  dash = [] ∨ ∃ c blanks, dash = '-' :: c :: blanks ∧ isBlank c = true ∧ allBlank blanks = true

theorem dropDash_of_ne {c : Char} (h : c ≠ '-') (text : Text) :
    dropDash (c :: text) = c :: text := by
  rw [dropDash]
  intro d rest hc
  exact absurd (List.cons.inj hc).1 h

/-- A dash is dropped from a text that starts with no blank and no dash. -/
theorem dropDash_append {dash : Text} (h : IsDash dash) {c : Char} (hblank : isBlank c = false)
    (hc : c ≠ '-') (text : Text) : dropDash (dash ++ c :: text) = c :: text := by
  rcases h with rfl | ⟨d, blanks, rfl, hd, hblanks⟩
  · exact dropDash_of_ne hc text
  · rw [List.cons_append, List.cons_append, dropDash, hd, if_pos rfl, Text.trimLeft_append hblanks]
    refine Text.trimLeft_of_head ?_
    intro x hx
    obtain rfl : c = x := by simpa using hx
    exact hblank

theorem exists_dropDash (text : Text) : ∃ dash, IsDash dash ∧ text = dash ++ dropDash text := by
  rw [dropDash.eq_def]
  split
  · rename_i c rest
    split
    · rename_i hc
      refine ⟨'-' :: c :: rest.takeWhile isBlank, Or.inr ⟨c, _, rfl, hc, ?_⟩, ?_⟩
      · exact Text.allBlank_takeWhile rest
      · simp only [List.cons_append, Text.takeWhile_append_trimLeft]
    · exact ⟨[], Or.inl rfl, rfl⟩
  · exact ⟨[], Or.inl rfl, rfl⟩

/-! ### Quotes -/

/-- What may stand on both sides of a reference. -/
def IsQuoting (quote : Text) : Prop := quote = [] ∨ quote = ['"'] ∨ quote = ['\'']

theorem stripQuotes_of_head {text : Text} (h : ∀ c, text.head? = some c → isQuote c = false) :
    stripQuotes text = text := by
  cases text with
  | nil => rfl
  | cons c rest => rw [stripQuotes, h c rfl, Bool.false_and, if_neg Bool.false_ne_true]

theorem stripQuotes_quoted {quote : Char} (h : isQuote quote = true) (text : Text) :
    stripQuotes (quote :: (text ++ [quote])) = text := by
  rw [stripQuotes, h, List.getLast?_concat, Bool.true_and, if_pos (beq_self_eq_true _),
    List.dropLast_concat]

/-- A word in quotes or without them. -/
theorem stripQuotes_quoting {quote word : Text} (hquote : IsQuoting quote) (hword : IsWord word) :
    stripQuotes (quote ++ word ++ quote) = word := by
  rcases hquote with rfl | rfl | rfl
  · rw [List.nil_append, List.append_nil]
    refine stripQuotes_of_head ?_
    intro c hc
    exact isQuote_of_isPlainChar (hword.plain c (List.mem_of_head? hc))
  · exact stripQuotes_quoted (by decide) word
  · exact stripQuotes_quoted (by decide) word

theorem isValue_quoting {quote word : Text} (hquote : IsQuoting quote) (hword : IsWord word) :
    IsValue (quote ++ word ++ quote) := by
  rcases hquote with rfl | rfl | rfl
  · rw [List.nil_append, List.append_nil]
    exact hword.isValue
  · exact hword.isValue_quoted (by decide)
  · exact hword.isValue_quoted (by decide)

theorem isQuoting_of_isQuote {c : Char} (h : isQuote c = true) : IsQuoting [c] := by
  simp only [isQuote, Bool.or_eq_true, beq_iff_eq] at h
  rcases h with rfl | rfl
  · exact Or.inr (Or.inl rfl)
  · exact Or.inr (Or.inr rfl)

theorem exists_quoting {text word : Text} (h : stripQuotes text = word) :
    ∃ quote, IsQuoting quote ∧ text = quote ++ word ++ quote := by
  cases text with
  | nil => exact ⟨[], Or.inl rfl, by rw [← h]; rfl⟩
  | cons c rest =>
    rw [stripQuotes] at h
    split at h
    · rename_i hc
      rw [Bool.and_eq_true, beq_iff_eq] at hc
      refine ⟨[c], isQuoting_of_isQuote hc.1, ?_⟩
      obtain ⟨word, rfl⟩ := List.getLast?_eq_some_iff.mp hc.2
      rw [← h, List.dropLast_concat]
      rfl
    · exact ⟨[], Or.inl rfl, by rw [← h, List.nil_append, List.append_nil]⟩

theorem stripQuotes_sublist (text : Text) : (stripQuotes text).Sublist text := by
  obtain ⟨quote, -, htext⟩ := exists_quoting (show stripQuotes text = _ from rfl)
  conv => rhs; rw [htext]
  exact (List.sublist_append_right _ _).trans (List.sublist_append_left _ _)

/-! ### Lines that start with the key -/

/-- A line that starts with `uses:`, after blanks and perhaps a dash. -/
def IsUsesLine (line : Text) : Prop :=
  ∃ margin dash rest, line = margin ++ (dash ++ ("uses:" ++ rest)) ∧ allBlank margin = true ∧
    IsDash dash

variable {margin dash rest : Text}

theorem IsDash.head (h : IsDash dash) (rest : Text) :
    ∀ c, (dash ++ ("uses:".toList ++ rest)).head? = some c → isBlank c = false := by
  intro c hc
  rcases h with rfl | ⟨d, blanks, rfl, -, -⟩
  · obtain rfl : 'u' = c := by simpa using hc
    decide
  · obtain rfl : '-' = c := by simpa using hc
    decide

theorem after?_dropDash (hmargin : allBlank margin = true) (hdash : IsDash dash) (rest : Text) :
    after? "uses:" (dropDash (Text.trimLeft (margin ++ (dash ++ ("uses:" ++ rest))))) =
      some rest := by
  have hdrop : dropDash (dash ++ ("uses:" ++ rest)) = "uses:" ++ rest :=
    dropDash_append (c := 'u') hdash (by decide) (by decide) _
  rw [Text.trimLeft_append hmargin, Text.trimLeft_of_head (hdash.head rest), hdrop, after?_append]

theorem exists_of_after?_dropDash {line : Text}
    (h : after? "uses:" (dropDash (Text.trimLeft line)) = some rest) :
    ∃ margin dash, line = margin ++ (dash ++ ("uses:" ++ rest)) ∧ allBlank margin = true ∧
      IsDash dash := by
  obtain ⟨dash, hdash, htext⟩ := exists_dropDash (Text.trimLeft line)
  rw [eq_append_of_after? h] at htext
  refine ⟨line.takeWhile isBlank, dash, ?_, Text.allBlank_takeWhile line, hdash⟩
  rw [← htext, Text.takeWhile_append_trimLeft]

instance : DecidablePred IsUsesLine := fun line =>
  decidable_of_iff ((after? "uses:" (dropDash (Text.trimLeft line))).isSome = true) <| by
    constructor
    · intro h
      obtain ⟨rest, hrest⟩ := Option.isSome_iff_exists.mp h
      obtain ⟨margin, dash, hline⟩ := exists_of_after?_dropDash hrest
      exact ⟨margin, dash, rest, hline⟩
    · rintro ⟨margin, dash, rest, rfl, hmargin, hdash⟩
      rw [after?_dropDash hmargin hdash]
      rfl

theorem usesReference?_append (hmargin : allBlank margin = true) (hdash : IsDash dash)
    (hrest : '\n' ∉ rest) : usesReference? (margin ++ (dash ++ ("uses:" ++ rest))) =
      some (stripQuotes (stripComment (Text.trim rest))) := by
  rw [usesReference?, after?_dropDash hmargin hdash, Option.bind_some, wholeLine?_of_not_mem hrest]
  rfl

/-! ### Lines with a gap for a reference -/

/-- A line that uses an action, without the reference: `uses:` after blanks and perhaps a
    dash, the blanks and the quote before the reference, and what ends the line after
    it. -/
structure UsesLine where
  margin : Text
  dash : Text
  gap : Text
  quote : Text
  tail : Text
  margin_blank : allBlank margin = true
  dash_isDash : IsDash dash
  gap_blank : allBlank gap = true
  quote_isQuoting : IsQuoting quote
  tail_endsValue : EndsValue tail
  gap_line : '\n' ∉ gap
  tail_line : '\n' ∉ tail

namespace UsesLine

/-- What stands before the reference. -/
def before (uses : UsesLine) : Text :=
  uses.margin ++ (uses.dash ++ ("uses:" ++ (uses.gap ++ uses.quote)))

/-- What stands after the reference. -/
def after (uses : UsesLine) : Text := uses.quote ++ uses.tail

/-- The line with a reference in its place. -/
def line (uses : UsesLine) (reference : Text) : Text :=
  uses.before ++ (reference ++ uses.after)

theorem line_eq (uses : UsesLine) (reference : Text) :
    uses.line reference = uses.margin ++ (uses.dash ++ ("uses:" ++
      (uses.gap ++ (uses.quote ++ reference ++ uses.quote) ++ uses.tail))) := by
  simp only [line, before, after, List.append_assoc]

/-- The reference in a line is read off the line. -/
theorem usesReference?_line (uses : UsesLine) {reference : Text} (h : IsWord reference)
    (hline : '\n' ∉ reference) : usesReference? (uses.line reference) = some reference := by
  have hvalue : IsValue (uses.quote ++ reference ++ uses.quote) :=
    isValue_quoting uses.quote_isQuoting h
  have hquote : '\n' ∉ uses.quote := by
    rcases uses.quote_isQuoting with hquote | hquote | hquote <;> rw [hquote] <;> decide
  have hrest : '\n' ∉ uses.gap ++ (uses.quote ++ reference ++ uses.quote) ++ uses.tail := by
    simp only [List.mem_append, not_or]
    exact ⟨⟨uses.gap_line, ⟨hquote, hline⟩, hquote⟩, uses.tail_line⟩
  rw [line_eq, usesReference?_append uses.margin_blank uses.dash_isDash hrest,
    stripComment_trim hvalue uses.gap_blank uses.tail_endsValue,
    stripQuotes_quoting uses.quote_isQuoting h]

end UsesLine

/-- Where a word is read as a reference, it stands in a line that uses an action. -/
theorem exists_usesLine {line reference : Text} (hline : '\n' ∉ line) (hne : reference ≠ [])
    (h : usesReference? line = some reference) :
    ∃ uses : UsesLine, line = uses.line reference := by
  rw [usesReference?] at h
  obtain ⟨rest, hrest, hvalue⟩ := Option.bind_eq_some_iff.mp h
  obtain ⟨margin, dash, rfl, hmargin, hdash⟩ := exists_of_after?_dropDash hrest
  have hmem : '\n' ∉ rest := by
    intro hmem
    simp only [List.mem_append, not_or] at hline
    exact hline.2.2.2 hmem
  rw [wholeLine?_of_not_mem hmem, Option.map_some, Option.some_inj] at hvalue
  obtain ⟨quote, hquote, hstrip⟩ := exists_quoting hvalue
  have hvalue_ne : quote ++ reference ++ quote ≠ [] := by
    intro hnil
    exact hne (List.append_eq_nil_iff.mp (List.append_eq_nil_iff.mp hnil).1).2
  obtain ⟨gap, tail, hgap, hblank, htail⟩ := exists_endsValue hvalue_ne hstrip
  rw [hgap] at hmem
  simp only [List.mem_append, not_or] at hmem
  refine ⟨⟨margin, dash, gap, quote, tail, hmargin, hdash, hblank, hquote, htail, hmem.1.1,
    hmem.2⟩, ?_⟩
  rw [UsesLine.line_eq, hgap]

end WorkflowLint.Line
