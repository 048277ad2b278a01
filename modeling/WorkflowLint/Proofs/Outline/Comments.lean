/-
  WorkflowLint/Proofs/Outline/Comments.lean
  =========================================
  **Comments and blanks say nothing.**

  The reader of an outline sees of a line its column and its text up to a comment
  (`content?`).  Blank lines and comments have neither.  What is put behind the content of
  a line changes neither, if it is blank or if it is a comment and no quote is open where
  it starts (`content?_append`).  So a text may be decorated on all its lines at once, and
  the outline stays what it is (`parse_eq_of_decorated`).
-/
import Mathlib.Data.List.Forall2
import WorkflowLint.Proofs.Line.Comment
import WorkflowLint.Proofs.Outline.Handling
import WorkflowLint.Proofs.Text.Lines

namespace WorkflowLint

namespace Line

open Text (isBlank allBlank)

/-- Whether a comment may follow a line: the line has one, or it leaves no quotes open. -/
def TakesComment (line : Text) : Prop :=
  (commentStart? (Text.trim line)).isSome = true ∨ quotingAfter (Text.trim line) = .none

instance : DecidablePred TakesComment := fun _ => inferInstanceAs (Decidable (_ ∨ _))

/-- What may end a value on a line may follow the line, if it may take a comment. -/
theorem stripComment_trim_append {line tail : Text} (hne : Text.trim line ≠ [])
    (htakes : TakesComment line) (htail : EndsValue tail) :
    stripComment (Text.trim (line ++ tail)) = stripComment (Text.trim line) := by
  cases hstart : commentStart? (Text.trim line) with
  | some start =>
    -- the comment that is there goes on
    obtain ⟨more, hmore⟩ := Text.exists_trim_append hne tail
    obtain ⟨comment, hcomment, -⟩ := exists_of_commentStartFrom hstart
    have hlength : start ≤ (Text.trim line).length := by
      have hlength := congrArg List.length hcomment
      rw [List.length_append, List.length_take, List.length_cons] at hlength
      omega
    have happend : commentStart? (Text.trim line ++ more) = some start :=
      commentStartFrom_append hstart more
    rw [hmore, stripComment, stripComment, happend, hstart]
    simp only [List.take_append_of_le_length hlength]
  | none =>
    have hquoting : quotingAfter (Text.trim line) = .none := by
      rcases htakes with hsome | hquoting
      · simp [hstart] at hsome
      · exact hquoting
    have hvalue := isValue_of_quotingAfter (Text.tight_trim line) hne hstart hquoting
    obtain ⟨back, hback, hline⟩ := Text.exists_trim line
    have hsplit : line ++ tail = line.takeWhile isBlank ++ Text.trim line ++ (back ++ tail) := by
      conv => lhs; rw [hline]
      simp only [List.append_assoc]
    rw [hsplit, stripComment_trim hvalue (Text.allBlank_takeWhile line)
      (htail.blanks_append hback), hvalue.stripComment_eq]

/-- A line and the same line decorated: for a blank line or a comment another one, for any other
    line what comes of it if blanks are put behind it, or blanks and a comment if it may take
    one. -/
inductive Decorated : Text → Text → Prop
  | passedOver {line other : Text} (hline : isIgnorable line = true)
      (hother : isIgnorable other = true) : Decorated line other
  | append {line tail : Text} (hline : isIgnorable line = false)
      (htail : allBlank tail = true ∨ TakesComment line ∧ EndsValue tail) :
      Decorated line (line ++ tail)

end Line

namespace Outline

open Line (isIgnorable Decorated)

variable {line other tail : Text} {lines others : List Text}

theorem content?_append (hline : isIgnorable line = false)
    (htail : Text.allBlank tail = true ∨ Line.TakesComment line ∧ Line.EndsValue tail) :
    content? (line ++ tail) = content? line := by
  have hne : Text.trim line ≠ [] := by
    intro hnil
    simp [isIgnorable, hnil] at hline
  obtain ⟨more, hmore⟩ := Text.exists_trim_append hne tail
  have hignorable : isIgnorable (line ++ tail) = isIgnorable line := by
    rw [isIgnorable, isIgnorable, hmore]
    cases htrim : Text.trim line with
    | nil => exact absurd htrim hne
    | cons c rest => rfl
  have htext : Line.stripComment (Text.trim (line ++ tail)) =
      Line.stripComment (Text.trim line) := by
    rcases htail with hblank | ⟨htakes, hends⟩
    · rw [Text.trim_append line hblank]
    · exact Line.stripComment_trim_append hne htakes hends
  rw [content?, content?, hignorable, htext, Text.blankWidth_append_right hne]

theorem content?_of_decorated (h : Decorated line other) : content? other = content? line := by
  cases h with
  | passedOver hline hother =>
    rw [State.content?_eq_none_iff.mpr hline, State.content?_eq_none_iff.mpr hother]
  | append hline htail => exact content?_append hline htail

/-- A pass sees of its lines nothing but their contents. -/
theorem State.run_congr (h : List.Forall₂ (fun line other => content? other = content? line)
    lines others) (number : Int) (state : State) :
    state.run others number = state.run lines number := by
  induction h generalizing number state with
  | nil => rfl
  | cons hline _ ih =>
    rw [run, run, step, step, hline]
    congr 1
    funext next
    exact ih (number + 1) next

/-- Lines may be decorated, as many as one likes: blank lines and comments with others of their
    kind, all other lines with blanks behind them, and with comments behind blanks if their own
    scan has found one or has ended outside quotes.  The outline stays the same with its lines and
    its skipped lines, or the text fails as it did. -/
theorem parse_eq_of_decorated {text other : Text}
    (h : List.Forall₂ Decorated (Text.lines text) (Text.lines other)) :
    parse other = parse text := by
  have hcontents := h.imp fun line other => content?_of_decorated
  rw [parse, parse, State.run_congr hcontents]

/-- A hash sign behind an escaped quote, quotes in a comment, and quotes that stay open, behind
    which there may be blanks but no comment. -/
theorem parse_eq_of_decorated_quotes :
    let text : Text := "# a\nb: \"c # \\\" # d\"\ne: # '\n-\n  f: it's\ng \"h"
    let other : Text := "\nb: \"c # \\\" # d\"\t# '\"\ne: # ' # \"\n- #: i\n  f: it's  \ng \"h"
    parse other = parse text ∧ parse text = .ok
      ⟨.mapping
        [⟨"b", some 2, .scalar (.str "c # \\\" # d") (some 2)⟩,
          ⟨"e", some 3, .sequence
            [.mapping [⟨"f", some 5, .scalar (.str "it's") (some 5)⟩] (some 4)] (some 4)⟩] none,
        [⟨6, "g \"h"⟩]⟩ := by
  intro text other
  have htext : Text.lines text =
      ["# a", "b: \"c # \\\" # d\"", "e: # '", "-", "  f: it's", "g \"h"] := by decide
  have hother : Text.lines other =
      [[], ("b: \"c # \\\" # d\"" : Text) ++ ("\t# '\"" : Text),
        ("e: # '" : Text) ++ (" # \"" : Text), ("-" : Text) ++ (" #: i" : Text),
        ("  f: it's" : Text) ++ ("  " : Text), ("g \"h" : Text) ++ ([] : Text)] := by decide
  have hcomment {line : Text} (hline : isIgnorable line = false)
      (htakes : Line.TakesComment line) (blank : Char) (hblank : Text.isBlank blank = true)
      (more : Text) : Decorated line (line ++ blank :: '#' :: more) :=
    .append hline (.inr ⟨htakes, .inr ⟨[blank], more, by simp, by simp [hblank], rfl⟩⟩)
  refine ⟨?_, rfl⟩
  apply parse_eq_of_decorated
  rw [htext, hother]
  refine .cons (.passedOver (by decide) (by decide)) ?_
  refine .cons (hcomment (by decide) (by decide) '\t' (by decide) " '\"") ?_
  refine .cons (hcomment (by decide) (by decide) ' ' (by decide) " \"") ?_
  refine .cons (hcomment (by decide) (by decide) ' ' (by decide) ": i") ?_
  refine .cons (.append (by decide) (.inl (by decide))) ?_
  exact .cons (.append (by decide) (.inl (by decide))) .nil

end Outline

end WorkflowLint
