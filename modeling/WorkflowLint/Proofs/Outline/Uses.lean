/-
  WorkflowLint/Proofs/Outline/Uses.lean
  =====================================
  **Where a reference ends up in the tree.**

  On a line that uses an outdated action, the reference is the string value of
  its key, or part of the string of a list item, or in no tree at all.  Another
  reference in its place is read in the same way, so the contents of the two
  lines are alike (`UsesLine.alike`).
-/
import WorkflowLint.Proofs.Line.Outdated
import WorkflowLint.Proofs.Line.Pair
import WorkflowLint.Proofs.Outline.Redact

namespace WorkflowLint

namespace Catalog

theorem Known.replacement_head {entry : Deprecation} (h : Known entry) :
    entry.replacement.head? = some 'a' := by
  have hhead := congrArg List.head? h.blur_eq
  rw [Text.head?_blur, Text.head?_blur, h.outdated_head, Option.map_some] at hhead
  obtain ⟨c, hc, hblur⟩ := Option.map_eq_some_iff.mp hhead
  have hfirst : Text.blurChar c = 'a' := hblur
  rw [hc, (Text.blurChar_eq_iff (by decide)).mp hfirst]

end Catalog

namespace Line

open Text (isBlank allBlank)

/-! ### Reading a reference as a value -/

/-- A word that no key word and no number can be. -/
structure IsReference (reference : Text) : Prop extends IsWord reference where
  head : reference.head? = some 'a'

theorem digits?_reference {reference : Text} (h : IsReference reference) :
    digits? reference = none := by
  obtain ⟨rest, rfl⟩ := List.head?_eq_some_iff.mp h.head
  have hlast : ('a' :: rest).getLast? ≠ some '\n' := by
    intro hlast
    exact absurd (h.plain '\n' (List.mem_of_getLast? hlast)) (by decide)
  rw [digits?]
  simp only [if_neg hlast, List.isEmpty_cons, Bool.false_eq_true, if_false]
  rw [List.mapM_cons, show Text.digitValue? 'a' = none by decide]
  rfl

theorem readScalar_quoting {quote reference : Text} (hquote : IsQuoting quote)
    (h : IsReference reference) :
    readScalar (quote ++ reference ++ quote) = .ok (.str reference) := by
  have hne (text : Text) (htext : text.head? ≠ some 'a') : reference ≠ text := by
    rintro rfl
    exact htext h.head
  rw [readScalar, (isValue_quoting hquote h.toIsWord).tight.trim_eq,
    stripQuotes_quoting hquote h.toIsWord]
  simp only [if_neg (hne "true" (by decide)), if_neg (hne "false" (by decide)),
    digits?_reference h]

theorem head?_quoting {quote reference : Text} (hquote : IsQuoting quote)
    (h : IsReference reference) {c : Char} (hc : (quote ++ reference ++ quote).head? = some c) :
    c = 'a' ∨ c = '"' ∨ c = '\'' := by
  obtain ⟨rest, rfl⟩ := List.head?_eq_some_iff.mp h.head
  rcases hquote with rfl | rfl | rfl
  · exact Or.inl (by simpa using hc.symm)
  · exact Or.inr (Or.inl (by simpa using hc.symm))
  · exact Or.inr (Or.inr (by simpa using hc.symm))

theorem readValue_quoting {quote reference : Text} (hquote : IsQuoting quote)
    (h : IsReference reference) :
    readValue (quote ++ reference ++ quote) = .ok (.scalar (.str reference)) := by
  have hindicator : isBlockIndicator (quote ++ reference ++ quote) = false := by
    cases htext : quote ++ reference ++ quote with
    | nil => rfl
    | cons c rest =>
      have hc := head?_quoting hquote h (c := c) (by rw [htext]; rfl)
      rw [isBlockIndicator]
      rcases hc with rfl | rfl | rfl <;> rfl
  have hempty : (quote ++ reference ++ quote).isEmpty = false := by
    rw [← Bool.not_eq_true, List.isEmpty_iff]
    exact (isValue_quoting hquote h.toIsWord).ne_nil
  rw [readValue, hempty, hindicator, readScalar_quoting hquote h]
  rfl

/-! ### The content of a line -/

theorem ne_hash_of_allBlank {text : Text} (h : allBlank text = true) :
    ∀ c ∈ text, c ≠ '#' ∧ isQuote c = false := by
  intro c hc
  have hblank := Text.allBlank_iff.mp h c hc
  refine ⟨?_, ?_⟩
  · rintro rfl
    exact absurd hblank (by decide)
  · rw [← Bool.not_eq_true, isQuote, Bool.or_eq_true, beq_iff_eq, beq_iff_eq]
    rintro (rfl | rfl)
    · exact absurd hblank (by decide)
    · exact absurd hblank (by decide)

theorem isIgnorable_of_stripComment_ne_nil {line : Text}
    (h : stripComment (Text.trim line) ≠ []) : isIgnorable line = false := by
  cases htrim : Text.trim line with
  | nil =>
    rw [htrim] at h
    exact absurd rfl h
  | cons c rest =>
    rw [isIgnorable, htrim, List.isEmpty_cons, Bool.false_or, List.head?_cons,
      beq_eq_false_iff_ne]
    intro hhash
    obtain rfl : c = '#' := by simpa using hhash
    rw [htrim] at h
    exact h rfl

namespace UsesLine

/-- The part of a line that is read, without a dash. -/
def field (uses : UsesLine) (reference : Text) : Text :=
  "uses:" ++ (uses.gap ++ (uses.quote ++ reference ++ uses.quote))

/-- The part of a line that is read. -/
def read (uses : UsesLine) (reference : Text) : Text := uses.dash ++ uses.field reference

variable (uses : UsesLine) {reference : Text}

theorem line_eq_read (reference : Text) :
    uses.line reference = uses.margin ++ uses.read reference ++ uses.tail := by
  rw [line_eq, read, field]
  simp only [List.append_assoc]

theorem isValue_field (h : IsWord reference) : IsValue (uses.field reference) := by
  have hvalue := isValue_quoting uses.quote_isQuoting h
  rw [field, ← List.append_assoc]
  have huses : ∀ c ∈ "uses:".toList, c ≠ '#' ∧ isQuote c = false :=
    Text.forall_mem_of_all (by decide)
  refine hvalue.prepend ?_ ?_
  · intro c hc
    rcases List.mem_append.mp hc with hc | hc
    · exact huses c hc
    · exact ne_hash_of_allBlank uses.gap_blank c hc
  · intro c hc
    obtain rfl : 'u' = c := by simpa using hc
    decide

theorem isValue_read (h : IsWord reference) : IsValue (uses.read reference) := by
  refine (uses.isValue_field h).prepend ?_ ?_
  · intro c hc
    rcases uses.dash_isDash with hdash | ⟨d, blanks, hdash, hd, hblanks⟩
    · rw [hdash] at hc
      exact absurd hc List.not_mem_nil
    · rw [hdash] at hc
      rcases List.mem_cons.mp hc with rfl | hc
      · decide
      · refine ne_hash_of_allBlank ?_ c hc
        rw [Text.allBlank_cons, hd, hblanks]
        rfl
  · intro c hc
    rcases uses.dash_isDash with hdash | ⟨d, blanks, hdash, -, -⟩
    · rw [hdash] at hc
      exact absurd hc (by simp)
    · rw [hdash] at hc
      obtain rfl : '-' = c := by simpa using hc
      decide

theorem content?_line (h : IsWord reference) :
    Outline.content? (uses.line reference) =
      some ⟨Text.blankWidth (uses.line reference), uses.read reference⟩ := by
  have hread : stripComment (Text.trim (uses.line reference)) = uses.read reference := by
    rw [line_eq_read]
    exact stripComment_trim (uses.isValue_read h) uses.margin_blank uses.tail_endsValue
  have hignorable : isIgnorable (uses.line reference) = false := by
    refine isIgnorable_of_stripComment_ne_nil ?_
    rw [hread]
    exact (uses.isValue_read h).ne_nil
  rw [Outline.content?, hignorable, if_neg Bool.false_ne_true, hread]

/-! ### Another reference in the same place -/

theorem isItem_of_blur_eq {content other : Outline.Content}
    (h : Text.blur other.text = Text.blur content.text) : other.isItem = content.isItem := by
  have hdash : ∀ c ∈ ['-'], c ∉ Text.versionDigits := Text.forall_mem_of_all (by decide)
  have hspace : ∀ c ∈ ['-', ' '], c ∉ Text.versionDigits :=
    Text.forall_mem_of_all (by decide)
  rw [Outline.Content.isItem, Outline.Content.isItem, ← Text.beq_blur hdash other.text,
    ← Text.isPrefixOf_blur hspace other.text, h, Text.beq_blur hdash, Text.isPrefixOf_blur hspace]

/-- What stands before a reference decides whether it is the value of a key. -/
theorem pairOf_field {front : Text} (hne : front ≠ []) (hcolon : ':' ∉ front)
    (hquote : ∀ c, front.head? = some c → isQuote c = false) (h : IsReference reference) :
    Outline.pairOf true (front ++ ':' :: (uses.gap ++ (uses.quote ++ reference ++ uses.quote))) =
      if uses.gap = [] then none
      else some (stripQuotes (Text.trim front), .ok (.scalar (.str []))) := by
  have hvalue := isValue_quoting uses.quote_isQuoting h.toIsWord
  split
  · rename_i hgap
    have hhead : ∀ c, (front ++ ':' :: (uses.gap ++ (uses.quote ++ reference ++
        uses.quote))).head? = some c → isQuote c = false := by
      intro c hc
      cases front with
      | nil => exact absurd rfl hne
      | cons d front => exact hquote c hc
    have hnot : ':' ∉ uses.quote ++ reference ++ uses.quote := by
      have hplain : ':' ∉ reference := h.toIsWord.not_mem (by decide)
      rcases uses.quote_isQuoting with hq | hq | hq <;> simp [hq, hplain]
    rw [Outline.pairOf, splitPair_of_cut_none hhead, Option.map_none]
    rw [hgap, List.nil_append]
    refine cutAtColon?_append_eq_none hcolon ?_ (cutAtColon?_eq_none hnot)
    exact startsBlank_of_head hvalue.ne_nil hvalue.tight.1
  · rename_i hgap
    have htrim : Text.trim (uses.gap ++ (uses.quote ++ reference ++ uses.quote)) =
        uses.quote ++ reference ++ uses.quote := by
      rw [Text.trim_append_left uses.gap_blank, hvalue.tight.trim_eq]
    rw [Outline.pairOf, splitPair_append hne hcolon hquote
      (startsBlank_of_allBlank uses.gap_blank _ hgap), Option.map_some, htrim,
      readValue_quoting uses.quote_isQuoting h]
    rfl

theorem trim_drop_read (hitem : (⟨0, uses.read reference⟩ : Outline.Content).isItem = true)
    (h : IsWord reference) :
    Text.blankWidth ((uses.read reference).drop 1) = (uses.dash.drop 1).length ∧
      Text.trim ((uses.read reference).drop 1) = uses.field reference := by
  rcases uses.dash_isDash with hdash | ⟨c, blanks, hdash, hc, hblanks⟩
  · rw [Outline.Content.isItem, read, hdash] at hitem
    exact absurd hitem (by simp [field])
  · have hblank : allBlank (c :: blanks) = true := by
      rw [Text.allBlank_cons, hc, hblanks]
      rfl
    have htight := (uses.isValue_field h).tight
    rw [read, hdash, List.cons_append, List.drop_succ_cons, List.drop_zero, List.drop_succ_cons,
      List.drop_zero, Text.blankWidth_append hblank htight.1, Text.trim_append_left hblank,
      htight.trim_eq]
    exact ⟨rfl, rfl⟩

theorem field_eq (reference : Text) :
    uses.field reference =
      "uses".toList ++ ':' :: (uses.gap ++ (uses.quote ++ reference ++ uses.quote)) := by
  rw [field]
  simp

theorem read_eq (reference : Text) :
    uses.read reference = uses.dash ++ "uses".toList ++ ':' ::
      (uses.gap ++ (uses.quote ++ reference ++ uses.quote)) := by
  rw [read, field]
  simp

theorem colon_key : ':' ∉ uses.dash ++ "uses".toList := by
  rw [List.mem_append, not_or]
  refine ⟨?_, by decide⟩
  rcases uses.dash_isDash with hdash | ⟨c, blanks, hdash, hc, hblanks⟩
  · rw [hdash]
    exact List.not_mem_nil
  · have hblank : allBlank (c :: blanks) = true := by
      rw [Text.allBlank_cons, hc, hblanks]
      rfl
    rw [hdash, List.mem_cons, not_or]
    exact ⟨by decide, not_mem_of_allBlank hblank (by decide)⟩

theorem head_key : ∀ c, (uses.dash ++ "uses".toList).head? = some c → isQuote c = false := by
  intro c hc
  rcases uses.dash_isDash with hdash | ⟨d, blanks, hdash, -, -⟩
  · rw [hdash] at hc
    obtain rfl : 'u' = c := by simpa using hc
    decide
  · rw [hdash] at hc
    obtain rfl : '-' = c := by simpa using hc
    decide

/-- The content of a line with an outdated reference and the one with its replacement. -/
theorem alike {entry : Catalog.Deprecation} (h : Catalog.Known entry) :
    (⟨Text.blankWidth (uses.line entry.outdated), uses.read entry.outdated⟩ :
      Outline.Content).Alike true
      ⟨Text.blankWidth (uses.line entry.replacement), uses.read entry.replacement⟩ := by
  have houtdated : IsReference entry.outdated := ⟨h.isWord_outdated, h.outdated_head⟩
  have hreplacement : IsReference entry.replacement := ⟨h.isWord_replacement, h.replacement_head⟩
  have hblur : Text.blur (uses.read entry.replacement) = Text.blur (uses.read entry.outdated) := by
    simp only [read, field, Text.blur_append, h.blur_eq]
  have hitem (column column' : Nat) :
      (⟨column', uses.read entry.replacement⟩ : Outline.Content).isItem =
        (⟨column, uses.read entry.outdated⟩ : Outline.Content).isItem :=
    isItem_of_blur_eq hblur
  refine ⟨?_, hitem _ _, ?_, ?_, ?_, ?_, ?_⟩
  · show Text.blankWidth _ = Text.blankWidth _
    rw [← Text.blankWidth_blur, uses.blur_line h, Text.blankWidth_blur]
  · intro _
    show Outline.pairOf _ _ = Outline.pairOf _ _
    rw [read_eq, read_eq, uses.pairOf_field (by simp) uses.colon_key uses.head_key hreplacement,
      uses.pairOf_field (by simp) uses.colon_key uses.head_key houtdated]
  · intro hdash
    have hdash' := (hitem 0 0).trans hdash
    exact (uses.trim_drop_read hdash' h.isWord_replacement).1.trans
      (uses.trim_drop_read hdash h.isWord_outdated).1.symm
  · intro hdash
    have hdash' := (hitem 0 0).trans hdash
    show (Text.trim _).isEmpty = (Text.trim _).isEmpty
    rw [(uses.trim_drop_read hdash' h.isWord_replacement).2,
      (uses.trim_drop_read hdash h.isWord_outdated).2]
    rfl
  · intro hdash
    have hdash' := (hitem 0 0).trans hdash
    have huses : ∀ c, "uses".toList.head? = some c → isQuote c = false := by
      intro c hc
      obtain rfl : 'u' = c := by simpa using hc
      decide
    show Outline.pairOf _ (Text.trim _) = Outline.pairOf _ (Text.trim _)
    rw [(uses.trim_drop_read hdash' h.isWord_replacement).2,
      (uses.trim_drop_read hdash h.isWord_outdated).2, field_eq, field_eq,
      uses.pairOf_field (by simp) (by decide) huses hreplacement,
      uses.pairOf_field (by simp) (by decide) huses houtdated]
  · exact fun _ hfalse => Bool.noConfusion hfalse

end UsesLine

end Line

end WorkflowLint
