/-
  WorkflowLint/Proofs/Terminal/Markup.lean
  ========================================
  **Escaped text can be shown.**

  Tags must match, so text from elsewhere could break what is printed around it.  Escaped text
  cannot (`shows_escape`): each of its tags has an odd number of backslashes before it, and an
  opening bracket that begins no tag in the text begins none in what is printed, as long as
  nothing that follows could close it.
-/
import WorkflowLint.Proofs.Console.Markup
import WorkflowLint.Terminal.Markup
import Mathlib.Tactic.MkIffOfInductiveProp

namespace WorkflowLint.Terminal

open WorkflowLint.Console (IsPlain closeTag openTag styled styled_append)

variable {stack stack' : List OpenTag} {pieces : List Piece} {position skip slashes : Nat}
  {text rest body more post style : Text} {c : Char}

/-! ### Showing pieces -/

/-- What pieces look like, if their styles can be read. -/
def shown (stack : List OpenTag) (pieces : List Piece) : Except MarkupFault Text := do
  let text ← showPieces stack pieces
  pieces.forM Piece.checkStyle
  pure text

theorem render_eq (markup : Text) :
    render markup = (shown [] (piecesFrom 0 0 0 markup)).map withoutControls := by
  rw [render, shown, Terminal.pieces]
  cases showPieces [] (piecesFrom 0 0 0 markup) with
  | error fault => rfl
  | ok text =>
    simp only [Except.bind, bind]
    cases (piecesFrom 0 0 0 markup).forM Piece.checkStyle with
    | error fault => rfl
    | ok => rfl

theorem forM_cons (piece : Piece) (pieces : List Piece) :
    (piece :: pieces).forM Piece.checkStyle =
      piece.checkStyle >>= fun _ => pieces.forM Piece.checkStyle := rfl

theorem forM_consPlain (c : Char) (pieces : List Piece) :
    (consPlain c pieces).forM Piece.checkStyle = pieces.forM Piece.checkStyle := by
  rw [consPlain.eq_def]
  split <;> rfl

/-- Pieces that can be shown. -/
def Showable (stack : List OpenTag) (pieces : List Piece) : Prop :=
  ∃ text, shown stack pieces = .ok text

theorem showable_iff : Showable stack pieces ↔
    (∃ text, showPieces stack pieces = .ok text) ∧ pieces.forM Piece.checkStyle = .ok () := by
  rw [Showable, shown]
  cases showPieces stack pieces with
  | error fault => simp [Except.bind, bind]
  | ok text =>
    simp only [Except.bind, bind]
    cases pieces.forM Piece.checkStyle with
    | error fault => simp
    | ok => simp [pure, Except.pure]

theorem Showable.consPlain (h : Showable stack pieces) (c : Char) :
    Showable stack (consPlain c pieces) := by
  rw [showable_iff] at h ⊢
  obtain ⟨⟨later, hlater⟩, hstyles⟩ := h
  refine ⟨?_, by rw [forM_consPlain, hstyles]⟩
  rw [consPlain.eq_def]
  split
  · rename_i text others
    rw [showPieces] at hlater ⊢
    cases hothers : showPieces stack others with
    | error fault =>
      rw [hothers] at hlater
      cases hlater
    | ok later => exact ⟨_, rfl⟩
  · rw [showPieces, hlater]
    exact ⟨_, rfl⟩

theorem Showable.consMany (h : Showable stack pieces) (count : Nat) (c : Char) :
    Showable stack (consMany count c pieces) := by
  induction count with
  | zero => exact h
  | succ count ih => exact ih.consPlain c

/-- A tag with an odd number of backslashes before it is plain text. -/
theorem Showable.tag_odd (h : Showable stack pieces) (position : Nat) (hodd : slashes % 2 = 1)
    (body : Text) : Showable stack (.tag position slashes body :: pieces) := by
  rw [showable_iff] at h ⊢
  obtain ⟨⟨later, hlater⟩, hstyles⟩ := h
  constructor
  · rw [showPieces]
    simp only [hodd, if_true, hlater]
    exact ⟨_, rfl⟩
  · rw [forM_cons, hstyles, Piece.checkStyle]
    simp [hodd, bind, Except.bind]

/-! ### Tags of styles -/

/-- A style that is written in its normal form, with nothing in it that would end a tag. -/
@[mk_iff]
structure IsStyle (style : Text) : Prop where
  normalForm : (Style.normalForm style).toOption = some style
  tagName : tagName style = style
  head : style.head? ≠ some '/'
  trim : Text.trim style = style
  ne_nil : style ≠ []
  opening : tagBody? (style ++ [']']) = some style
  closing : tagBody? ('/' :: style ++ [']']) = some ('/' :: style)

instance (style : Text) : Decidable (IsStyle style) := decidable_of_iff' _ (isStyle_iff style)

namespace IsStyle

variable (h : IsStyle style)

include h

theorem normalForm_eq : Style.normalForm style = .ok style := by
  have hnormal := h.normalForm
  cases hresult : Style.normalForm style with
  | error fault => simp [hresult, Except.toOption] at hnormal
  | ok normal =>
    rw [hresult] at hnormal
    rw [Option.some.inj hnormal]

theorem ofBody_eq : OpenTag.ofBody style = .ok ⟨style, none⟩ := by
  rw [OpenTag.ofBody, h.tagName, h.normalForm_eq]
  simp [Except.map]

/-- An opening tag opens its style. -/
theorem shown_open (position : Nat) (pieces : List Piece) :
    shown stack (.tag position 0 style :: pieces) = shown (⟨style, none⟩ :: stack) pieces := by
  have hafter (position : Nat) :
      afterTag position style stack = .ok (⟨style, none⟩ :: stack) := by
    rw [afterTag, h.tagName]
    split
    · rename_i hslash
      exact absurd rfl h.head
    · rw [h.ofBody_eq]
      rfl
  have hcheck : (Piece.tag position 0 style).checkStyle = .ok () := by
    have hstyle : OpenTag.styleText ⟨style, none⟩ = style := by simp [OpenTag.styleText]
    simp only [Piece.checkStyle, h.ofBody_eq, bind, Except.bind, hstyle, Style.checkComponents,
      h.normalForm_eq]
    split <;> rfl
  rw [shown, shown, forM_cons, hcheck, showPieces]
  simp only [hafter, bind, Except.bind]
  cases showPieces (⟨style, none⟩ :: stack) pieces with
  | error fault => rfl
  | ok later => rfl

/-- A closing tag closes the style that was opened last. -/
theorem shown_close (position : Nat) (heven : slashes % 2 = 0) (pieces : List Piece) :
    shown (⟨style, none⟩ :: stack) (.tag position slashes ('/' :: style) :: pieces) =
      (shown stack pieces).map (List.replicate (slashes / 2) '\\' ++ ·) := by
  have hclosing (position : Nat) :
      afterTag position ('/' :: style) (⟨style, none⟩ :: stack) = .ok stack := by
    have hname : Terminal.tagName ('/' :: style) = '/' :: style := by
      rw [Terminal.tagName, List.takeWhile_cons_of_pos (by decide)]
      exact congrArg _ h.tagName
    have hnonempty : style.isEmpty = false := List.isEmpty_eq_false_iff.mpr h.ne_nil
    have hclose : OpenTag.close ⟨style, none⟩ = .ok () := by
      rw [OpenTag.close]
      split
      · rename_i hparameters
        cases hparameters
      · rfl
    have hfound : (Style.normalForm style).mapError MarkupFault.component = .ok style := by
      rw [h.normalForm_eq]
      rfl
    rw [afterTag, hname]
    simp only [afterClosing, h.trim, hnonempty, hfound, takeOut?, bind, Except.bind,
      Bool.false_eq_true, if_false, if_true, hclose]
    rfl
  have hcheck : (Piece.tag position slashes ('/' :: style)).checkStyle = .ok () := by
    simp [Piece.checkStyle]
  have hodd : ¬slashes % 2 = 1 := by omega
  rw [shown, shown, forM_cons, hcheck, showPieces, if_neg hodd]
  simp only [hclosing, bind, Except.bind]
  cases showPieces stack pieces with
  | error fault => rfl
  | ok later =>
    simp only [pure, Except.pure]
    cases pieces.forM Piece.checkStyle with
    | error fault => rfl
    | ok => rfl

end IsStyle

/-! ### Tags in a text -/

theorem upToBracket?_append (h : upToBracket? text = some body) (more : Text) :
    upToBracket? (body ++ ']' :: more) = some body := by
  induction text generalizing body with
  | nil => cases h
  | cons c rest ih =>
    rw [upToBracket?] at h
    split at h
    · cases h
      rfl
    · rename_i hclose
      split at h
      · cases h
      · rename_i hopen
        obtain ⟨inner, hinner, rfl⟩ := Option.map_eq_some_iff.mp h
        rw [List.cons_append, upToBracket?, if_neg hclose, if_neg hopen, ih hinner]
        rfl

theorem tagBody?_append (h : tagBody? text = some body) (more : Text) :
    tagBody? (body ++ ']' :: more) = some body := by
  cases text with
  | nil => cases h
  | cons c rest =>
    rw [tagBody?] at h
    split at h
    · rename_i hstarts
      obtain ⟨inner, hinner, rfl⟩ := Option.map_eq_some_iff.mp h
      rw [List.cons_append, tagBody?, if_pos hstarts, upToBracket?_append hinner]
      rfl
    · cases h

theorem upToBracket?_replicate (count : Nat) (text : Text) :
    upToBracket? (List.replicate count '\\' ++ text) = none ↔ upToBracket? text = none := by
  induction count with
  | zero => rfl
  | succ count ih =>
    rw [List.replicate_succ, List.cons_append, upToBracket?, if_neg (by decide),
      if_neg (by decide), Option.map_eq_none_iff, ih]

/-! ### Pieces of a text -/

/-- A text can be shown after some backslashes, wherever it stands. -/
def Shows (stack : List OpenTag) (slashes : Nat) (text : Text) : Prop :=
  ∀ position, Showable stack (piecesFrom position 0 slashes text)

theorem shows_nil (stack : List OpenTag) (slashes : Nat) : Shows stack slashes [] := by
  intro position
  have hnil : Showable stack [] := ⟨[], rfl⟩
  exact hnil.consMany slashes '\\'

theorem piecesFrom_cons (hslash : c ≠ '\\') (hbracket : c ≠ '[') (rest : Text) :
    piecesFrom position 0 slashes (c :: rest) =
      consMany slashes '\\' (consPlain c (piecesFrom (position + 1) 0 0 rest)) := by
  rw [piecesFrom]
  simp only [if_neg hslash, if_neg hbracket]

theorem piecesFrom_slash (rest : Text) :
    piecesFrom position 0 slashes ('\\' :: rest) =
      piecesFrom (position + 1) 0 (slashes + 1) rest := by
  rw [piecesFrom]
  rfl

theorem piecesFrom_bracket (h : tagBody? rest = none) :
    piecesFrom position 0 slashes ('[' :: rest) =
      consMany slashes '\\' (consPlain '[' (piecesFrom (position + 1) 0 0 rest)) := by
  rw [piecesFrom]
  simp only [if_neg (show ¬ '[' = '\\' by decide), if_true, h]

theorem piecesFrom_skip (position : Nat) (front back : Text) :
    piecesFrom position front.length 0 (front ++ back) =
      piecesFrom (position + front.length) 0 0 back := by
  induction front generalizing position with
  | nil => rfl
  | cons c front ih =>
    rw [List.cons_append, List.length_cons, piecesFrom]
    simp only [ih]
    rw [Nat.add_right_comm, Nat.add_assoc]

theorem piecesFrom_tag (h : tagBody? text = some body) (more : Text) :
    piecesFrom position 0 slashes ('[' :: (body ++ ']' :: more)) =
      .tag (position - slashes) slashes body ::
        piecesFrom (position + 1 + (body.length + 1)) 0 0 more := by
  rw [piecesFrom]
  simp only [if_neg (show ¬ '[' = '\\' by decide), if_true, tagBody?_append h]
  have hskip := piecesFrom_skip (position + 1) (body ++ [']']) more
  rw [List.append_assoc, List.length_append] at hskip
  exact congrArg _ hskip

theorem Shows.cons (h : Shows stack 0 rest) (hslash : c ≠ '\\') (hbracket : c ≠ '[')
    (slashes : Nat) : Shows stack slashes (c :: rest) := by
  intro position
  rw [piecesFrom_cons hslash hbracket]
  exact ((h _).consPlain c).consMany slashes '\\'

theorem Shows.slash (h : Shows stack (slashes + 1) rest) : Shows stack slashes ('\\' :: rest) := by
  intro position
  rw [piecesFrom_slash]
  exact h _

theorem Shows.replicate {count : Nat} (h : Shows stack (slashes + count) rest) :
    Shows stack slashes (List.replicate count '\\' ++ rest) := by
  induction count generalizing slashes with
  | zero => exact h
  | succ count ih =>
    have hcount : slashes + (count + 1) = slashes + 1 + count := by omega
    exact (ih (hcount ▸ h)).slash

theorem Shows.bracket (h : Shows stack 0 rest) (htag : tagBody? rest = none) (slashes : Nat) :
    Shows stack slashes ('[' :: rest) := by
  intro position
  rw [piecesFrom_bracket htag]
  exact ((h _).consPlain '[').consMany slashes '\\'

theorem Shows.tag_odd (h : Shows stack 0 more) (htag : tagBody? text = some body)
    (hodd : slashes % 2 = 1) : Shows stack slashes ('[' :: (body ++ ']' :: more)) := by
  intro position
  rw [piecesFrom_tag htag]
  exact (h _).tag_odd _ hodd body

theorem Shows.open_tag (hstyle : IsStyle style) (h : Shows (⟨style, none⟩ :: stack) 0 more) :
    Shows stack 0 (openTag style ++ more) := by
  intro position
  have htext : openTag style ++ more = '[' :: (style ++ ']' :: more) := by simp [openTag]
  rw [htext, piecesFrom_tag hstyle.opening]
  obtain ⟨text, htext⟩ := h (position + 1 + (style.length + 1))
  exact ⟨text, by rw [hstyle.shown_open, htext]⟩

theorem Shows.close_open_tag (hstyle : IsStyle style) (h : Shows stack 0 more) :
    Shows (⟨style, none⟩ :: stack) 0 (closeTag style ++ more) := by
  intro position
  have htext : closeTag style ++ more = '[' :: (('/' :: style) ++ ']' :: more) := by
    simp [closeTag]
  rw [htext, piecesFrom_tag hstyle.closing]
  obtain ⟨text, htext⟩ := h (position + 1 + (('/' :: style).length + 1))
  refine ⟨text, ?_⟩
  rw [hstyle.shown_close _ rfl, htext]
  rfl

/-- A closing tag closes its style, or is plain text. -/
theorem Shows.close_tag (hstyle : IsStyle style) (h : ∀ stack, Shows stack 0 more)
    (slashes : Nat) : Shows (⟨style, none⟩ :: stack) slashes (closeTag style ++ more) := by
  intro position
  have htext : closeTag style ++ more = '[' :: (('/' :: style) ++ ']' :: more) := by
    simp [closeTag]
  rw [htext]
  by_cases hodd : slashes % 2 = 1
  · exact (h _).tag_odd hstyle.closing hodd position
  · rw [piecesFrom_tag hstyle.closing]
    obtain ⟨text, htext⟩ := h stack (position + 1 + (('/' :: style).length + 1))
    refine ⟨List.replicate (slashes / 2) '\\' ++ text, ?_⟩
    rw [hstyle.shown_close _ (by omega), htext]
    rfl

/-! ### Plain text -/

theorem Shows.plain (htext : IsPlain text) (h : Shows stack 0 rest) :
    Shows stack 0 (text ++ rest) := by
  induction text with
  | nil => exact h
  | cons c text ih =>
    obtain ⟨⟨hslash, hbracket, -⟩, hlater⟩ := List.forall_mem_cons.mp htext
    exact (ih hlater).cons hslash hbracket 0

theorem Shows.styled (hstyle : IsStyle style) (htext : IsPlain text) (h : Shows stack 0 rest) :
    Shows stack 0 (styled style text ++ rest) := by
  rw [styled_append]
  exact ((h.close_open_tag hstyle).plain htext).open_tag hstyle

/-! ### Escaped text -/

/-- What is written for a text, leaving out its first `skip` characters, if `slashes`
    backslashes stand right before it. -/
def escapedFrom (skip slashes : Nat) : Text → Text
  | [] => List.replicate slashes '\\'
  | c :: rest =>
    match skip with
    | skip + 1 => escapedFrom skip 0 rest
    | 0 =>
      if c = '\\' then escapedFrom 0 (slashes + 1) rest
      else if c = '[' then
        match tagBody? rest with
        | some body =>
          List.replicate (2 * slashes + 1) '\\' ++
            '[' :: (body ++ ']' :: escapedFrom (body.length + 1) 0 rest)
        | none => List.replicate slashes '\\' ++ '[' :: escapedFrom 0 0 rest
      else List.replicate slashes '\\' ++ c :: escapedFrom 0 0 rest

theorem flatMap_escaped_consPlain (c : Char) (pieces : List Piece) :
    (consPlain c pieces).flatMap Piece.escaped = c :: pieces.flatMap Piece.escaped := by
  rw [consPlain.eq_def]
  split <;> simp [Piece.escaped]

theorem flatMap_escaped_consMany (count : Nat) (c : Char) (pieces : List Piece) :
    (consMany count c pieces).flatMap Piece.escaped =
      List.replicate count c ++ pieces.flatMap Piece.escaped := by
  induction count with
  | zero => rfl
  | succ count ih =>
    rw [List.replicate_succ, List.cons_append, ← ih]
    exact flatMap_escaped_consPlain c _

theorem flatMap_escaped_piecesFrom (position skip slashes : Nat) (text : Text) :
    (piecesFrom position skip slashes text).flatMap Piece.escaped =
      escapedFrom skip slashes text := by
  induction text generalizing position skip slashes with
  | nil =>
    have hnil : piecesFrom position skip slashes [] = consMany slashes '\\' [] := by
      cases skip <;> rfl
    rw [hnil, flatMap_escaped_consMany, escapedFrom, List.flatMap_nil, List.append_nil]
  | cons c rest ih =>
    cases skip with
    | succ skip =>
      rw [piecesFrom, escapedFrom]
      exact ih ..
    | zero =>
      rw [piecesFrom, escapedFrom]
      split
      · exact ih ..
      · split
        · cases tagBody? rest with
          | some body => simp [Piece.escaped, ih]
          | none => simp only [flatMap_escaped_consMany, flatMap_escaped_consPlain, ih]
        · rw [flatMap_escaped_consMany, flatMap_escaped_consPlain, ih]

theorem exists_escapedFrom_slash (slashes : Nat) (text : Text) :
    ∃ tail, escapedFrom 0 (slashes + 1) text = '\\' :: tail := by
  induction text generalizing slashes with
  | nil => exact ⟨_, rfl⟩
  | cons c rest ih =>
    rw [escapedFrom]
    split
    · exact ih _
    · split
      · split
        · exact ⟨_, rfl⟩
        · exact ⟨_, rfl⟩
      · exact ⟨_, rfl⟩

section Escaped

variable (hopen : upToBracket? post = none)

include hopen

/-- A bracket that is not closed in a text is not closed in what is written for it. -/
theorem upToBracket?_escapedFrom (h : upToBracket? text = none) (slashes : Nat) :
    upToBracket? (escapedFrom 0 slashes text ++ post) = none := by
  induction text generalizing slashes with
  | nil => exact (upToBracket?_replicate slashes post).mpr hopen
  | cons c rest ih =>
    rw [upToBracket?] at h
    rw [escapedFrom]
    split at h
    · cases h
    · rename_i hclose
      split
      · rename_i hslash
        rw [hslash, if_neg (by decide), Option.map_eq_none_iff] at h
        exact ih h _
      · split
        -- an opening bracket comes before any closing one
        · split
          · rw [List.append_assoc, upToBracket?_replicate]
            rfl
          · rw [List.append_assoc, upToBracket?_replicate]
            rfl
        · rename_i hbracket
          rw [if_neg hbracket, Option.map_eq_none_iff] at h
          rw [List.append_assoc, upToBracket?_replicate, List.cons_append, upToBracket?,
            if_neg hclose, if_neg hbracket, ih h]
          rfl

variable (hpost : tagBody? post = none)

include hpost

/-- What begins no tag in a text begins none in what is written for it. -/
theorem tagBody?_escapedFrom (h : tagBody? text = none) :
    tagBody? (escapedFrom 0 0 text ++ post) = none := by
  cases text with
  | nil => exact hpost
  | cons c rest =>
    rw [escapedFrom]
    split
    · obtain ⟨tail, htail⟩ := exists_escapedFrom_slash 0 rest
      rw [htail]
      rfl
    · split
      · split <;> rfl
      · rename_i hslash hbracket
        rw [tagBody?] at h
        rw [List.replicate_zero, List.nil_append, List.cons_append, tagBody?]
        split
        · rename_i hstarts
          rw [if_pos hstarts, Option.map_eq_none_iff] at h
          rw [upToBracket?_escapedFrom hopen h]
          rfl
        · rfl

theorem shows_escapedFrom (h : ∀ slashes, Shows stack slashes post) (skip slashes : Nat)
    (text : Text) : Shows stack 0 (escapedFrom skip slashes text ++ post) := by
  induction text generalizing skip slashes with
  | nil => exact Shows.replicate (h _)
  | cons c rest ih =>
    cases skip with
    | succ skip =>
      rw [escapedFrom]
      exact ih skip 0
    | zero =>
      rw [escapedFrom]
      split
      · exact ih 0 (slashes + 1)
      · split
        · split
          · rename_i body htag
            have hodd : (0 + (2 * slashes + 1)) % 2 = 1 := by omega
            have hrest := (ih (body.length + 1) 0).tag_odd htag hodd
            rw [List.append_assoc, List.cons_append, List.append_assoc, List.cons_append]
            exact hrest.replicate
          · rename_i htag
            rw [List.append_assoc, List.cons_append]
            exact ((ih 0 0).bracket (tagBody?_escapedFrom hopen hpost htag) _).replicate
        · rename_i hslash hbracket
          rw [List.append_assoc, List.cons_append]
          exact ((ih 0 0).cons hslash hbracket _).replicate

/-- Escaped text can be shown before whatever can be shown after it. -/
theorem shows_escape (h : ∀ slashes, Shows stack slashes post) (text : Text) :
    Shows stack 0 (escape text ++ post) := by
  rw [escape, Terminal.pieces, flatMap_escaped_piecesFrom, guardEnd]
  split
  · rw [List.append_assoc]
    have hopen' : upToBracket? ('\\' :: post) = none :=
      (upToBracket?_replicate 1 post).mpr hopen
    exact shows_escapedFrom hopen' rfl (fun slashes => (h _).slash) 0 0 text
  · exact shows_escapedFrom hopen hpost h 0 0 text

end Escaped

/-- Escaped text can be shown in a style. -/
theorem Shows.styled_escape (hstyle : IsStyle style) (h : ∀ stack, Shows stack 0 rest)
    (text : Text) :
    Shows (⟨style, none⟩ :: stack) 0 (escape text ++ (closeTag style ++ rest)) :=
  shows_escape rfl rfl (fun slashes => close_tag hstyle h slashes) text

end WorkflowLint.Terminal
