/-
  WorkflowLint/Proofs/Line/Blur.lean
  ==================================
  **What does not depend on version digits.**

  A reference to an outdated action and the one to use instead differ in one
  digit from 1 to 5.  Blurring a text replaces each of these digits by 1, so the
  two become the same text.  Nearly every test of the linter gives the same
  answer on a blurred text; this file says so for each of them, and the effect of
  a substitution on these tests needs no further thought.
-/
import WorkflowLint.Proofs.Text.Part
import WorkflowLint.Rule.Content
import WorkflowLint.Rule.Layout

namespace WorkflowLint

namespace Text

/-! ### Blurred characters -/

/-- The digits that blurring identifies. -/
def versionDigits : List Char := ['1', '2', '3', '4', '5']

/-- The character 1 for a version digit, and any other character itself. -/
def blurChar (c : Char) : Char := if c ∈ versionDigits then '1' else c

/-- The text with its version digits blurred. -/
def blur (text : Text) : Text := text.map blurChar

/-- A test that does not tell version digits apart does not see blurring. -/
theorem apply_blurChar {α : Type} {f : Char → α} (h : ∀ d ∈ versionDigits, f '1' = f d)
    (c : Char) : f (blurChar c) = f c := by
  rw [blurChar]
  split
  · rename_i hc
    exact h c hc
  · rfl

@[simp] theorem isBlank_blurChar (c : Char) : isBlank (blurChar c) = isBlank c :=
  apply_blurChar (forall_mem_of_all (by decide)) c

theorem blurChar_eq_iff {c d : Char} (hd : d ∉ versionDigits) : blurChar c = d ↔ c = d := by
  rw [blurChar]
  split
  · rename_i hc
    constructor
    · rintro rfl
      exact absurd (by decide) hd
    · rintro rfl
      exact absurd hc hd
  · rfl

theorem beq_blurChar {c d : Char} (hd : d ∉ versionDigits) : (blurChar c == d) = (c == d) := by
  rw [Bool.eq_iff_iff, beq_iff_eq, beq_iff_eq]
  exact blurChar_eq_iff hd

/-! ### Blurred texts -/

@[simp] theorem blur_nil : blur [] = [] := rfl

@[simp] theorem blur_cons (c : Char) (text : Text) :
    blur (c :: text) = blurChar c :: blur text := rfl

@[simp] theorem blur_append (front back : Text) : blur (front ++ back) = blur front ++ blur back :=
  List.map_append

@[simp] theorem isEmpty_blur (text : Text) : (blur text).isEmpty = text.isEmpty := by
  cases text <;> rfl

theorem head?_blur (text : Text) : (blur text).head? = text.head?.map blurChar := by
  cases text <;> rfl

theorem takeWhile_blur {p : Char → Bool} (hp : ∀ c, p (blurChar c) = p c) (text : Text) :
    (blur text).takeWhile p = blur (text.takeWhile p) := by
  rw [blur, List.takeWhile_map, show p ∘ blurChar = p from funext hp]
  rfl

theorem dropWhile_blur {p : Char → Bool} (hp : ∀ c, p (blurChar c) = p c) (text : Text) :
    (blur text).dropWhile p = blur (text.dropWhile p) := by
  rw [blur, List.dropWhile_map, show p ∘ blurChar = p from funext hp]
  rfl

theorem reverse_blur (text : Text) : (blur text).reverse = blur text.reverse :=
  List.map_reverse.symm

theorem trimLeft_blur (text : Text) : trimLeft (blur text) = blur (trimLeft text) :=
  dropWhile_blur isBlank_blurChar text

theorem trimRight_blur (text : Text) : trimRight (blur text) = blur (trimRight text) := by
  rw [trimRight, trimRight, dropRightWhile, dropRightWhile, reverse_blur,
    dropWhile_blur isBlank_blurChar, reverse_blur]

theorem trim_blur (text : Text) : trim (blur text) = blur (trim text) := by
  rw [trim, trim, trimLeft_blur, trimRight_blur]

theorem blankWidth_blur (text : Text) : blankWidth (blur text) = blankWidth text := by
  rw [blankWidth, takeWhile_blur isBlank_blurChar, blur, List.length_map]
  rfl

theorem isPrefixOf_blur {part : Text} (h : ∀ c ∈ part, c ∉ versionDigits) (text : Text) :
    part.isPrefixOf (blur text) = part.isPrefixOf text := by
  induction part generalizing text with
  | nil => simp
  | cons c part ih =>
    cases text with
    | nil => rfl
    | cons d text =>
      have hc : c ∉ versionDigits := h c (List.mem_cons_self ..)
      rw [blur_cons, List.isPrefixOf_cons_cons, List.isPrefixOf_cons_cons,
        ih (fun x hx => h x (List.mem_cons_of_mem _ hx)), BEq.comm, beq_blurChar hc, BEq.comm]

theorem hasPart_blur {part : Text} (h : ∀ c ∈ part, c ∉ versionDigits) (text : Text) :
    hasPart part (blur text) = hasPart part text := by
  induction text with
  | nil => rfl
  | cons c text ih =>
    have hprefix := isPrefixOf_blur h (c :: text)
    rw [blur_cons] at hprefix ⊢
    rw [hasPart, hasPart, hprefix, ih]

theorem beq_blur {part : Text} (h : ∀ c ∈ part, c ∉ versionDigits) (text : Text) :
    (blur text == part) = (text == part) := by
  induction part generalizing text with
  | nil => cases text <;> rfl
  | cons c part ih =>
    cases text with
    | nil => rfl
    | cons d text =>
      have hc : c ∉ versionDigits := h c (List.mem_cons_self ..)
      rw [blur_cons, List.cons_beq_cons, List.cons_beq_cons, beq_blurChar hc,
        ih (fun x hx => h x (List.mem_cons_of_mem _ hx))]

end Text

namespace Line

open Text (blur blurChar blur_cons)

/-! ### Comments and block indicators -/

theorem quoting_next_blurChar (quoting : Quoting) (c : Char) :
    quoting.next (blurChar c) = quoting.next c :=
  Text.apply_blurChar (f := quoting.next)
    (by cases quoting <;> exact Text.forall_mem_of_all (by decide)) c

theorem commentStartFrom_blur (quoting : Quoting) (afterBlank : Bool) (text : Text) :
    commentStartFrom quoting afterBlank (blur text) = commentStartFrom quoting afterBlank text := by
  induction text generalizing quoting afterBlank with
  | nil => rfl
  | cons c text ih =>
    have hhash : blurChar c = '#' ↔ c = '#' := Text.blurChar_eq_iff (by decide)
    simp only [blur_cons, commentStartFrom, hhash, quoting_next_blurChar, Text.isBlank_blurChar, ih]

theorem stripComment_blur (text : Text) : stripComment (blur text) = blur (stripComment text) := by
  have hstart : commentStart? (blur text) = commentStart? text := commentStartFrom_blur ..
  rw [stripComment, stripComment, hstart]
  cases commentStart? text with
  | none => rfl
  | some start =>
    rw [← Text.trimRight_blur]
    exact congrArg Text.trimRight List.map_take.symm

theorem isChompSign_blurChar (c : Char) : isChompSign (blurChar c) = isChompSign c :=
  Text.apply_blurChar (Text.forall_mem_of_all (by decide)) c

theorem isIndentDigit_blurChar (c : Char) : isIndentDigit (blurChar c) = isIndentDigit c :=
  Text.apply_blurChar (Text.forall_mem_of_all (by decide)) c

theorem isBlockHeader_blur (text : Text) : isBlockHeader (blur text) = isBlockHeader text := by
  match text with
  | [] => rfl
  | [c] => simp only [blur_cons, Text.blur_nil, isBlockHeader, isChompSign_blurChar,
      isIndentDigit_blurChar]
  | [c, d] => simp only [blur_cons, Text.blur_nil, isBlockHeader, isChompSign_blurChar,
      isIndentDigit_blurChar]
  | _ :: _ :: _ :: _ => rfl

theorem isBlockIndicator_blur (text : Text) :
    isBlockIndicator (blur text) = isBlockIndicator text := by
  cases text with
  | nil => rfl
  | cons c text =>
    have hbar : (blurChar c == '|') = (c == '|') := Text.beq_blurChar (by decide)
    have hfold : (blurChar c == '>') = (c == '>') := Text.beq_blurChar (by decide)
    rw [blur_cons, isBlockIndicator, isBlockIndicator, isBlockHeader_blur, hbar, hfold]

theorem endsInBlockIndicator_blur (text : Text) :
    endsInBlockIndicator (blur text) = endsInBlockIndicator text := by
  have hblank (c : Char) : (!Text.isBlank (blurChar c)) = !Text.isBlank c := by simp
  rw [endsInBlockIndicator, endsInBlockIndicator, Text.reverse_blur, Text.takeWhile_blur hblank,
    Text.reverse_blur, isBlockIndicator_blur]

/-! ### Layout -/

theorem isKeyChar_blurChar (c : Char) : isKeyChar (blurChar c) = isKeyChar c :=
  Text.apply_blurChar (Text.forall_mem_of_all (by decide)) c

theorem count_colon_blur (text : Text) : (blur text).count ':' = text.count ':' := by
  induction text with
  | nil => rfl
  | cons c text ih =>
    rw [blur_cons, List.count_cons, List.count_cons, ih, Text.beq_blurChar (by decide)]

theorem hasDoubleColon_blur (text : Text) : hasDoubleColon (blur text) = hasDoubleColon text := by
  have hhead : (blur text).head?.any isKeyChar = text.head?.any isKeyChar := by
    cases text with
    | nil => rfl
    | cons c text => exact isKeyChar_blurChar c
  rw [hasDoubleColon, hasDoubleColon, hhead, Text.dropWhile_blur isKeyChar_blurChar,
    Text.isPrefixOf_blur (Text.forall_mem_of_all (by decide)), count_colon_blur]

/-! ### Secrets -/

theorem isQuote_blurChar (c : Char) : isQuote (blurChar c) = isQuote c :=
  Text.apply_blurChar (Text.forall_mem_of_all (by decide)) c

theorem afterWord?_blur {word : Text}
    (hword : ∀ letter ∈ word, ∀ d ∈ Text.versionDigits, sameLetter letter '1' = sameLetter letter d)
    (text : Text) : afterWord? word (blur text) = (afterWord? word text).map blur := by
  induction word generalizing text with
  | nil => cases text <;> rfl
  | cons letter word ih =>
    cases text with
    | nil => rfl
    | cons c text =>
      have hsame : sameLetter letter (blurChar c) = sameLetter letter c :=
        Text.apply_blurChar (f := sameLetter letter) (hword letter (List.mem_cons_self ..)) c
      rw [blur_cons, afterWord?, afterWord?, hsame,
        ih (fun x hx => hword x (List.mem_cons_of_mem _ hx))]
      split <;> rfl

theorem dropQuote_blur (text : Text) : dropQuote (blur text) = blur (dropQuote text) := by
  cases text with
  | nil => rfl
  | cons c text =>
    rw [blur_cons, dropQuote, dropQuote, isQuote_blurChar]
    split <;> rfl

theorem startsWithLiteral_blur (text : Text) :
    startsWithLiteral (blur text) = startsWithLiteral text := by
  cases text with
  | nil => rfl
  | cons c text =>
    have hblank (c : Char) : (!Text.isBlank (blurChar c)) = !Text.isBlank c := by simp
    have hdrop (text : Text) : ((blur text).drop 1).any isQuote = (text.drop 1).any isQuote := by
      rw [blur, ← List.map_drop, List.any_map,
        show isQuote ∘ blurChar = isQuote from funext isQuote_blurChar]
    rw [blur_cons, startsWithLiteral, startsWithLiteral, isQuote_blurChar,
      Text.takeWhile_blur hblank, hdrop]

theorem startsWithAssignment_blur (text : Text) :
    startsWithAssignment (blur text) = startsWithAssignment text := by
  rw [startsWithAssignment, startsWithAssignment, dropQuote_blur, Text.trimLeft_blur]
  cases Text.trimLeft (dropQuote text) with
  | nil => rfl
  | cons c rest =>
    have hcolon : (blurChar c == ':') = (c == ':') := Text.beq_blurChar (by decide)
    have hequals : (blurChar c == '=') = (c == '=') := Text.beq_blurChar (by decide)
    simp only [blur_cons, hcolon, hequals, Text.trimLeft_blur, startsWithLiteral_blur]

theorem startsWithSecret_blur (text : Text) :
    startsWithSecret (blur text) = startsWithSecret text := by
  have hall : (secretWords.all fun word => word.all fun letter => Text.versionDigits.all fun d =>
      sameLetter letter '1' == sameLetter letter d) = true := by decide
  have hwords : ∀ word ∈ secretWords, ∀ letter ∈ word, ∀ d ∈ Text.versionDigits,
      sameLetter letter '1' = sameLetter letter d := by
    simpa only [List.all_eq_true, beq_iff_eq] using hall
  rw [startsWithSecret, startsWithSecret, Bool.eq_iff_iff, List.any_eq_true, List.any_eq_true]
  have hany (word : Text) (hword : word ∈ secretWords) :
      (afterWord? word (blur text)).any startsWithAssignment =
        (afterWord? word text).any startsWithAssignment := by
    rw [afterWord?_blur (hwords word hword), Option.any_map]
    congr
    funext rest
    exact startsWithAssignment_blur rest
  constructor
  · rintro ⟨word, hword, h⟩
    exact ⟨word, hword, hany word hword ▸ h⟩
  · rintro ⟨word, hword, h⟩
    exact ⟨word, hword, (hany word hword).symm ▸ h⟩

theorem hasSecret_blur (text : Text) : hasSecret (blur text) = hasSecret text := by
  induction text with
  | nil => rfl
  | cons c text ih =>
    have hstart := startsWithSecret_blur (c :: text)
    rw [blur_cons] at hstart ⊢
    rw [hasSecret, hasSecret, hstart, ih]

/-! ### Dashes -/

theorem dropDash_blur (text : Text) : dropDash (blur text) = blur (dropDash text) := by
  match text with
  | [] => rfl
  | [c] =>
    by_cases hc : c = '-'
    · subst hc
      rfl
    · have hblur : blurChar c ≠ '-' := fun h => hc ((Text.blurChar_eq_iff (by decide)).mp h)
      simp [dropDash]
  | c :: d :: rest =>
    by_cases hc : c = '-'
    · subst hc
      rw [show blur ('-' :: d :: rest) = '-' :: blurChar d :: blur rest from rfl, dropDash,
        dropDash, Text.isBlank_blurChar, Text.trimLeft_blur]
      split <;> rfl
    · have hblur : blurChar c ≠ '-' := fun h => hc ((Text.blurChar_eq_iff (by decide)).mp h)
      simp [dropDash, hc, hblur]

/-! ### Whole lines -/

theorem isIgnorable_of_blur_eq {line other : Text}
    (h : blur (Text.trim other) = blur (Text.trim line)) :
    isIgnorable other = isIgnorable line := by
  have hempty := congrArg List.isEmpty h
  rw [Text.isEmpty_blur, Text.isEmpty_blur] at hempty
  have hhash (text : Text) : ((blur text).head? == some '#') = (text.head? == some '#') := by
    cases text with
    | nil => rfl
    | cons c text => exact Text.beq_blurChar (by decide)
  rw [isIgnorable, isIgnorable, hempty, ← hhash, h, hhash]

theorem endsInBlockIndicator_of_blur_eq {text other : Text} (h : blur other = blur text) :
    endsInBlockIndicator other = endsInBlockIndicator text := by
  rw [← endsInBlockIndicator_blur, h, endsInBlockIndicator_blur]

theorem isIndent_blurChar (c : Char) : Text.isIndent (Text.blurChar c) = Text.isIndent c :=
  Text.apply_blurChar (Text.forall_mem_of_all (by decide)) c

theorem isIndented_blur (line : Text) : isIndented (blur line) = isIndented line := by
  cases line with
  | nil => rfl
  | cons c line => exact isIndent_blurChar c

theorem startsWithTab_blur (line : Text) : startsWithTab (blur line) = startsWithTab line := by
  cases line with
  | nil => rfl
  | cons c line => exact Text.beq_blurChar (by decide)

theorem endsInIndent_blur (line : Text) : endsInIndent (blur line) = endsInIndent line := by
  rw [endsInIndent, endsInIndent, Text.blur, List.getLast?_map, Option.any_map]
  exact congrArg (fun p => line.getLast?.any p) (funext isIndent_blurChar)

/-- Blurring neither adds nor removes other characters than version digits. -/
theorem mem_blur {line : Text} {c : Char} (hc : c ∉ Text.versionDigits) :
    c ∈ blur line ↔ c ∈ line := by
  rw [Text.blur, List.mem_map]
  constructor
  · rintro ⟨d, hd, hblur⟩
    rwa [← (Text.blurChar_eq_iff hc).mp hblur]
  · intro h
    exact ⟨c, h, (Text.blurChar_eq_iff hc).mpr rfl⟩

end Line

end WorkflowLint
