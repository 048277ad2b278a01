/-
  WorkflowLint/Proofs/Rule/Secret.lean
  ====================================
  **Which lines are taken for secrets.**

  The scan for secrets drops a quote, skips blanks and takes the longest run without blanks,
  and never goes back.  It need not: a quote, a blank and a mark are different characters, so
  each of them ends what stands before it in one way only, and where a value ends does not
  matter as long as some quote ends it.  So a secret is found exactly if the text can be
  written as an assignment to a secret word in any way at all (`hasSecret_iff`), and
  `check_hardcodedSecret` says this of a line.
-/
import Mathlib
import WorkflowLint.Proofs.Line.Uses
import WorkflowLint.Proofs.Text.Part
import WorkflowLint.Rule.Content

namespace WorkflowLint

namespace Line

open Text (isBlank allBlank)

/-! ### Words in any mixture of cases -/

/-- A letter without its case: the long s is an s, and the Kelvin sign is a k. -/
def foldCase (c : Char) : Char :=
  if c = '\u017F' then 's' else if c = '\u212A' then 'k' else c.toLower

/-- One of the words that announce a secret, in any mixture of cases. -/
def IsSecretWord (word : Text) : Prop :=
  word.map foldCase ∈ (["password", "token", "secret"] : List Text)

theorem toLower_eq_iff {letter c : Char} (h : letter.isLower = true) :
    c.toLower = letter ↔ c = letter ∨ c = letter.toUpper := by
  have hletter : letter.toLower = letter :=
    Char.toLower_eq_of_not_isUpper (Char.not_isUpper_of_isLower h)
  constructor
  · rintro rfl
    by_cases hupper : c.isUpper = true
    · rw [Char.toUpper_toLower_eq_toUpper,
        Char.toUpper_eq_of_not_isLower (Char.not_isLower_of_isUpper hupper)]
      exact Or.inr rfl
    · exact Or.inl (Char.toLower_eq_of_not_isUpper hupper).symm
  · rintro (rfl | rfl)
    · exact hletter
    · rw [Char.toLower_toUpper_eq_toLower, hletter]

theorem sameLetter_iff {letter c : Char} (h : letter.isLower = true) :
    sameLetter letter c = true ↔ foldCase c = letter := by
  have hsame : sameLetter letter c = true ↔ c.toLower = letter ∨
      letter = 's' ∧ c = '\u017F' ∨ letter = 'k' ∧ c = '\u212A' := by
    simp only [sameLetter, Bool.or_eq_true, Bool.and_eq_true, beq_iff_eq, toLower_eq_iff h,
      or_assoc]
  rw [hsame, foldCase]
  -- neither of the two signs is a lower-case letter itself
  by_cases hs : c = '\u017F'
  · subst hs
    rw [if_pos rfl]
    constructor
    · rintro (rfl | ⟨rfl, -⟩ | ⟨-, hk⟩)
      · exact absurd h (by decide)
      · rfl
      · exact absurd hk (by decide)
    · rintro rfl
      exact Or.inr (Or.inl ⟨rfl, rfl⟩)
  · by_cases hk : c = '\u212A'
    · subst hk
      rw [if_neg hs, if_pos rfl]
      constructor
      · rintro (rfl | ⟨-, hs'⟩ | ⟨rfl, -⟩)
        · exact absurd h (by decide)
        · exact absurd hs' hs
        · rfl
      · rintro rfl
        exact Or.inr (Or.inr ⟨rfl, rfl⟩)
    · rw [if_neg hs, if_neg hk]
      simp [hs, hk]

theorem afterWord?_eq_some_iff {word text rest : Text}
    (h : ∀ letter ∈ word, letter.isLower = true) :
    afterWord? word text = some rest ↔
      ∃ front, text = front ++ rest ∧ front.map foldCase = word := by
  induction word generalizing text with
  | nil =>
    simp only [afterWord?, Option.some_inj, List.map_eq_nil_iff]
    constructor
    · rintro rfl
      exact ⟨[], rfl, rfl⟩
    · rintro ⟨front, htext, rfl⟩
      exact htext
  | cons letter word ih =>
    rw [List.forall_mem_cons] at h
    cases text with
    | nil => simp [afterWord?]
    | cons c text =>
      have hsame := sameLetter_iff (c := c) h.1
      rw [afterWord?]
      split
      · rename_i hletter
        rw [ih h.2]
        constructor
        · rintro ⟨front, rfl, rfl⟩
          exact ⟨c :: front, rfl, by rw [List.map_cons, hsame.mp hletter]⟩
        · rintro ⟨_ | ⟨d, front⟩, htext, hfront⟩
          · cases hfront
          · obtain ⟨rfl, rfl⟩ := List.cons.inj htext
            exact ⟨front, rfl, (List.cons.inj hfront).2⟩
      · rename_i hletter
        constructor
        · intro hnone
          cases hnone
        · rintro ⟨_ | ⟨d, front⟩, htext, hfront⟩
          · cases hfront
          · obtain ⟨rfl, rfl⟩ := List.cons.inj htext
            exact absurd (hsame.mpr (List.cons.inj hfront).1) hletter

/-! ### Literals and assignments -/

theorem isBlank_of_isQuote {c : Char} (h : isQuote c = true) : isBlank c = false := by
  rw [← Bool.not_eq_true]
  intro hblank
  rw [isQuote_of_isBlank hblank] at h
  exact Bool.noConfusion h

/-- A value without blanks between two quotes, and what comes behind it. -/
def IsLiteral (text : Text) : Prop :=
  ∃ opening value closing back, text = opening :: (value ++ closing :: back) ∧
    isQuote opening = true ∧ value ≠ [] ∧ (∀ c ∈ value, isBlank c = false) ∧
    isQuote closing = true

theorem startsWithLiteral_iff {text : Text} : startsWithLiteral text = true ↔ IsLiteral text := by
  constructor
  · intro h
    cases text with
    | nil => cases h
    | cons opening rest =>
      rw [startsWithLiteral, Bool.and_eq_true] at h
      have hrest := List.takeWhile_append_dropWhile (p := fun c => !isBlank c) (l := rest)
      have hrun : ∀ c ∈ rest.takeWhile fun c => !isBlank c, isBlank c = false := fun c hc => by
        simpa using List.all_eq_true.mp List.all_takeWhile c hc
      cases hvalue : rest.takeWhile fun c => !isBlank c with
      | nil =>
        rw [hvalue] at h
        cases h.2
      | cons first run =>
        rw [hvalue] at h hrest hrun
        obtain ⟨closing, hmem, hclosing⟩ := List.any_eq_true.mp h.2
        obtain ⟨front, back, hsplit⟩ := List.append_of_mem hmem
        rw [List.drop_succ_cons, List.drop_zero] at hsplit
        rw [hsplit] at hrest hrun
        refine ⟨opening, first :: front, closing, back ++ rest.dropWhile fun c => !isBlank c, ?_,
          h.1, List.cons_ne_nil _ _, ?_, hclosing⟩
        · conv => lhs; rw [← hrest]
          simp
        · intro c hc
          exact hrun c (List.mem_append_left (closing :: back) hc)
  · rintro ⟨opening, value, closing, back, rfl, hopening, hvalue, hrun, hclosing⟩
    obtain ⟨first, run, rfl⟩ := List.exists_cons_of_ne_nil hvalue
    have hnot : ∀ c ∈ first :: run, (!isBlank c) = true := fun c hc => by rw [hrun c hc]; rfl
    rw [startsWithLiteral, hopening, List.takeWhile_append_of_pos hnot,
      List.takeWhile_cons_of_pos (by rw [isBlank_of_isQuote hclosing]; rfl)]
    simp [hclosing]

/-- Perhaps a quote, then a colon or an equals sign with blanks around it, and a literal. -/
def IsAssignment (text : Text) : Prop :=
  ∃ quote before mark after rest, text = quote ++ (before ++ mark :: (after ++ rest)) ∧
    IsQuoting quote ∧ allBlank before = true ∧ (mark = ':' ∨ mark = '=') ∧
    allBlank after = true ∧ IsLiteral rest

theorem exists_dropQuote (text : Text) :
    ∃ quote, IsQuoting quote ∧ text = quote ++ dropQuote text := by
  cases text with
  | nil => exact ⟨[], Or.inl rfl, rfl⟩
  | cons c rest =>
    rw [dropQuote]
    split
    · rename_i hc
      exact ⟨[c], isQuoting_of_isQuote hc, rfl⟩
    · exact ⟨[], Or.inl rfl, rfl⟩

theorem dropQuote_append {quote text : Text} (h : IsQuoting quote)
    (hhead : ∀ c, text.head? = some c → isQuote c = false) : dropQuote (quote ++ text) = text := by
  rcases h with rfl | rfl | rfl
  · cases text with
    | nil => rfl
    | cons c rest => rw [List.nil_append, dropQuote, hhead c rfl, if_neg Bool.false_ne_true]
  · rfl
  · rfl

theorem startsWithAssignment_iff {text : Text} :
    startsWithAssignment text = true ↔ IsAssignment text := by
  constructor
  · intro h
    obtain ⟨quote, hquote, htext⟩ := exists_dropQuote text
    have hbefore := Text.takeWhile_append_trimLeft (dropQuote text)
    rw [startsWithAssignment] at h
    split at h
    · cases h
    · rename_i mark rest hmark
      simp only [Bool.and_eq_true, Bool.or_eq_true, beq_iff_eq] at h
      have hafter := Text.takeWhile_append_trimLeft rest
      refine ⟨quote, _, mark, _, Text.trimLeft rest, ?_, hquote,
        Text.allBlank_takeWhile (dropQuote text), h.1, Text.allBlank_takeWhile rest,
        startsWithLiteral_iff.mp h.2⟩
      rw [hafter, ← hmark, hbefore]
      exact htext
  · rintro ⟨quote, before, mark, after, rest, rfl, hquote, hbefore, hmark, hafter, hrest⟩
    have hsign : isQuote mark = false ∧ isBlank mark = false := by
      rcases hmark with rfl | rfl <;> decide
    have hhead : ∀ c, (before ++ mark :: (after ++ rest)).head? = some c → isQuote c = false := by
      intro c hc
      cases before with
      | nil =>
        cases hc
        exact hsign.1
      | cons d before =>
        cases hc
        rw [Text.allBlank_cons, Bool.and_eq_true] at hbefore
        exact isQuote_of_isBlank hbefore.1
    have hmarkLeft : Text.trimLeft (mark :: (after ++ rest)) = mark :: (after ++ rest) :=
      Text.trimLeft_of_head fun c hc => by
        cases hc
        exact hsign.2
    have hrestLeft : Text.trimLeft rest = rest := Text.trimLeft_of_head fun c hc => by
      obtain ⟨opening, value, closing, back, rfl, hopening, -⟩ := hrest
      cases hc
      exact isBlank_of_isQuote hopening
    rw [startsWithAssignment, dropQuote_append hquote hhead, Text.trimLeft_append hbefore,
      hmarkLeft]
    simp only [Text.trimLeft_append hafter, hrestLeft, startsWithLiteral_iff.mpr hrest,
      Bool.and_true, Bool.or_eq_true, beq_iff_eq]
    exact hmark

/-! ### Secrets in a text -/

/-- A text that has an assignment to a secret word somewhere: the word, perhaps a quote, a colon or
    an equals sign with blanks around it, and a value without blanks between two quotes. -/
inductive AssignsSecret : Text → Prop where
  | intro {front word quote before after value back : Text} {mark opening closing : Char}
      (hword : IsSecretWord word) (hquote : IsQuoting quote) (hbefore : allBlank before = true)
      (hmark : mark = ':' ∨ mark = '=') (hafter : allBlank after = true)
      (hopening : isQuote opening = true) (hvalue : value ≠ [])
      (hrun : ∀ c ∈ value, isBlank c = false) (hclosing : isQuote closing = true) :
      AssignsSecret (front ++ (word ++ (quote ++ (before ++ mark ::
        (after ++ opening :: (value ++ closing :: back))))))

theorem startsWithSecret_iff {text : Text} : startsWithSecret text = true ↔
    ∃ word rest, text = word ++ rest ∧ IsSecretWord word ∧ IsAssignment rest := by
  have hall : (secretWords.all fun word => word.all Char.isLower) = true := by decide
  have hwords : ∀ word ∈ secretWords, ∀ letter ∈ word, letter.isLower = true := by
    simpa only [List.all_eq_true] using hall
  simp only [startsWithSecret, List.any_eq_true, Option.any_eq_true, startsWithAssignment_iff]
  constructor
  · rintro ⟨word, hword, rest, hafter, hrest⟩
    obtain ⟨front, htext, rfl⟩ := (afterWord?_eq_some_iff (hwords word hword)).mp hafter
    exact ⟨front, rest, htext, hword, hrest⟩
  · rintro ⟨word, rest, htext, hword, hrest⟩
    exact ⟨_, hword, rest, (afterWord?_eq_some_iff (hwords _ hword)).mpr ⟨word, htext, rfl⟩, hrest⟩

theorem hasSecret_iff_exists {text : Text} : hasSecret text = true ↔
    ∃ front rest, text = front ++ rest ∧ startsWithSecret rest = true := by
  induction text with
  | nil =>
    constructor
    · intro h
      cases h
    · rintro ⟨front, rest, htext, hrest⟩
      rw [(List.append_eq_nil_iff.mp htext.symm).2] at hrest
      exact absurd hrest (by decide)
  | cons c text ih =>
    rw [hasSecret, Bool.or_eq_true, ih]
    constructor
    · rintro (h | ⟨front, rest, rfl, h⟩)
      · exact ⟨[], c :: text, rfl, h⟩
      · exact ⟨c :: front, rest, rfl, h⟩
    · rintro ⟨_ | ⟨d, front⟩, rest, htext, h⟩
      · rw [List.nil_append] at htext
        exact Or.inl (htext ▸ h)
      · exact Or.inr ⟨front, rest, (List.cons.inj htext).2, h⟩

/-- A secret is found where there is one, however its parts are told apart. -/
theorem hasSecret_iff {text : Text} : hasSecret text = true ↔ AssignsSecret text := by
  rw [hasSecret_iff_exists]
  constructor
  · rintro ⟨front, rest, rfl, hrest⟩
    obtain ⟨word, rest, rfl, hword, quote, before, mark, after, rest, rfl, hquote, hbefore, hmark,
      hafter, opening, value, closing, back, rfl, hopening, hvalue, hrun, hclosing⟩ :=
      startsWithSecret_iff.mp hrest
    exact .intro hword hquote hbefore hmark hafter hopening hvalue hrun hclosing
  · rintro ⟨hword, hquote, hbefore, hmark, hafter, hopening, hvalue, hrun, hclosing⟩
    exact ⟨_, _, rfl, startsWithSecret_iff.mpr ⟨_, _, rfl, hword, _, _, _, _, _, rfl, hquote,
      hbefore, hmark, hafter, _, _, _, _, rfl, hopening, hvalue, hrun, hclosing⟩⟩

instance : DecidablePred AssignsSecret := fun _ => decidable_of_iff _ hasSecret_iff

/-- A line that assigns a literal to a secret word, and refers to no secret and to no other
    expression. -/
def ExposesSecret (line : Text) : Prop :=
  ¬expressionOpen <:+: line ∧ ¬"secrets.".toList <:+: line ∧ AssignsSecret (Text.trim line)

instance : DecidablePred ExposesSecret := fun _ => inferInstanceAs (Decidable (_ ∧ _))

end Line

/-! ### The rule -/

/-- The finding about a secret. -/
def secretFinding (number : Int) : Diagnostic :=
  { severity := .error
    message := "Possible hardcoded secret. Use $\x7b\x7b secrets.YOUR_SECRET \x7d\x7d instead."
    line := some number
    ruleId := some "security/hardcoded-secret" }

/-- One finding about a line that exposes a secret, and none about any other. -/
theorem check_hardcodedSecret (view : LineView) : ContentRule.hardcodedSecret.check view =
    if Line.ExposesSecret view.line then [secretFinding view.number] else [] := by
  have hopen : Text.hasPart Line.expressionOpen (Text.trim view.line) =
      Text.hasPart Line.expressionOpen view.line :=
    Text.hasPart_trim (Text.forall_mem_of_all (by decide)) (by decide) view.line
  have hsecrets : Text.hasPart "secrets." (Text.trim view.line) =
      Text.hasPart "secrets." view.line :=
    Text.hasPart_trim (Text.forall_mem_of_all (by decide)) (by decide) view.line
  have hcondition : (Line.hasSecret (Text.trim view.line) &&
      !Text.hasPart Line.expressionOpen (Text.trim view.line) &&
      !Text.hasPart "secrets." (Text.trim view.line)) = true ↔ Line.ExposesSecret view.line := by
    rw [hopen, hsecrets]
    simp only [Bool.and_eq_true, Bool.not_eq_true', ← Bool.not_eq_true, Text.hasPart_iff,
      Line.hasSecret_iff, Line.ExposesSecret]
    tauto
  rw [ContentRule.check, ContentRule.objections]
  by_cases h : Line.ExposesSecret view.line
  · rw [if_pos h, if_pos (hcondition.mpr h)]
    rfl
  · rw [if_neg h, if_neg (mt hcondition.mp h)]
    rfl

/-- A quoted word with a long s in it, blanks around the equals sign, and a value with a quote in
    it. -/
example : Line.ExposesSecret "  'DB_PA\u017FSWORD\" \t=  'a\"b' #" := by decide

end WorkflowLint
