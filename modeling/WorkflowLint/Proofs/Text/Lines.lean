/-
  WorkflowLint/Proofs/Text/Lines.lean
  ===================================
  **Cutting and joining.**

  Cutting a text into lines undoes joining them (`lines_joinLines`), as long as
  there is a line and no line holds a line feed.  Lines that come from a text are
  of this kind (`not_mem_of_mem_lines`), so a text may be changed line by line.
-/
import WorkflowLint.Proofs.Text.Trim

namespace WorkflowLint.Text

variable {mark : Char}

theorem pieces_of_not_mem {text : Text} (h : mark ∉ text) : pieces mark text = [text] := by
  induction text with
  | nil => rfl
  | cons c rest ih =>
    rw [List.mem_cons, not_or] at h
    rw [pieces, if_neg (fun e => h.1 e.symm), ih h.2]

/-- The pieces before a mark, and the pieces after it. -/
theorem pieces_append (text rest : Text) :
    pieces mark (text ++ mark :: rest) = pieces mark text ++ pieces mark rest := by
  induction text with
  | nil =>
    rw [List.nil_append, pieces.eq_2, if_pos rfl]
    rfl
  | cons c text ih =>
    rw [List.cons_append, pieces, pieces, ih]
    split
    · rfl
    · cases hpieces : pieces mark text with
      | nil => exact absurd hpieces (pieces_ne_nil mark text)
      | cons first others => rfl

/-- Cutting at the mark undoes joining with it. -/
theorem pieces_join {texts : List Text} (hne : texts ≠ []) (h : ∀ text ∈ texts, mark ∉ text) :
    pieces mark (join [mark] texts) = texts := by
  induction texts with
  | nil => exact absurd rfl hne
  | cons text others ih =>
    have htext : mark ∉ text := h text (List.mem_cons_self ..)
    cases others with
    | nil => exact pieces_of_not_mem htext
    | cons next others =>
      have hothers : ∀ other ∈ next :: others, mark ∉ other :=
        fun other hother => h other (List.mem_cons_of_mem _ hother)
      rw [join_cons [mark] (List.cons_ne_nil _ _), List.append_assoc, List.singleton_append,
        pieces_append, pieces_of_not_mem htext, ih (List.cons_ne_nil _ _) hothers]
      rfl

theorem not_mem_of_mem_pieces {text piece : Text} (h : piece ∈ pieces mark text) :
    mark ∉ piece := by
  induction text generalizing piece with
  | nil =>
    rw [pieces, List.mem_singleton] at h
    rw [h]
    exact List.not_mem_nil
  | cons c rest ih =>
    rw [pieces] at h
    split at h
    · rcases List.mem_cons.mp h with rfl | hpiece
      · exact List.not_mem_nil
      · exact ih hpiece
    · rename_i hc
      split at h
      · rw [List.mem_singleton] at h
        simpa [h] using fun e => hc e.symm
      · rename_i first others hfirst
        rcases List.mem_cons.mp h with rfl | hpiece
        · rw [List.mem_cons, not_or]
          exact ⟨fun e => hc e.symm, ih (by rw [hfirst]; exact List.mem_cons_self ..)⟩
        · exact ih (by rw [hfirst]; exact List.mem_cons_of_mem _ hpiece)

/-- No line holds a line feed. -/
theorem not_mem_of_mem_lines {text line : Text} (h : line ∈ lines text) : '\n' ∉ line :=
  not_mem_of_mem_pieces h

/-- Cutting into lines undoes joining them. -/
theorem lines_joinLines {texts : List Text} (hne : texts ≠ [])
    (h : ∀ text ∈ texts, '\n' ∉ text) : lines (joinLines texts) = texts :=
  pieces_join hne h

theorem allBlank_joinLines (texts : List Text) :
    allBlank (joinLines texts) = texts.all allBlank := by
  induction texts with
  | nil => rfl
  | cons text others ih =>
    cases others with
    | nil => simp [joinLines, join]
    | cons next others =>
      have hfeed : allBlank ['\n'] = true := by decide
      rw [joinLines, join_cons _ (List.cons_ne_nil _ _), allBlank_append, allBlank_append, hfeed,
        Bool.and_true, List.all_cons, ← ih, joinLines]

/-! ### Lines above a text -/

/-- A text with some lines put above it. -/
def below (front : List Text) (text : Text) : Text := front.flatMap (· ++ ['\n']) ++ text

theorem lines_below {front : List Text} (h : ∀ line ∈ front, '\n' ∉ line) (text : Text) :
    lines (below front text) = front ++ lines text := by
  induction front with
  | nil => rfl
  | cons line rest ih =>
    have hcons : below (line :: rest) text = line ++ '\n' :: below rest text := by simp [below]
    rw [hcons, lines, pieces_append, pieces_of_not_mem (h line (List.mem_cons_self ..))]
    exact congrArg (line :: ·) (ih fun other hother => h other (List.mem_cons_of_mem _ hother))

theorem joinLines_append (front : List Text) {texts : List Text} (h : texts ≠ []) :
    joinLines (front ++ texts) = below front (joinLines texts) := by
  induction front with
  | nil => rfl
  | cons line rest ih =>
    have hne : rest ++ texts ≠ [] := List.append_ne_nil_of_right_ne_nil rest h
    rw [List.cons_append, joinLines, join_cons _ hne]
    rw [joinLines] at ih
    rw [ih]
    simp [below]

/-- What is no line feed stands on a line. -/
theorem mem_joinLines {c : Char} (hc : c ≠ '\n') {texts : List Text} :
    c ∈ joinLines texts ↔ ∃ text ∈ texts, c ∈ text := by
  induction texts with
  | nil => simp [joinLines, join]
  | cons text others ih =>
    cases others with
    | nil => simp [joinLines, join]
    | cons next others =>
      rw [joinLines] at ih ⊢
      rw [join_cons _ (List.cons_ne_nil _ _), List.mem_append, List.mem_append, ih]
      simp [hc]

/-- The first line starts a text. -/
theorem head?_joinLines_cons {c : Char} (hc : c ≠ '\n') (text : Text) (others : List Text) :
    (joinLines (text :: others)).head? = some c ↔ text.head? = some c := by
  cases others with
  | nil => rfl
  | cons next others =>
    rw [joinLines, join_cons _ (List.cons_ne_nil _ _)]
    cases text with
    | nil => simp [hc.symm]
    | cons d text => simp

end WorkflowLint.Text
