/-
  WorkflowLint/Proofs/Line/Pair.lean
  ==================================
  **Reading a pair that was written.**

  A key and its value stand on both sides of the first colon that a blank or the
  end of the text follows.  `splitPair_append` reads a text that is given in these
  three parts; a text without such a colon holds no pair.

  A key in quotes may hold such colons itself.  `splitPair_eq_some_iff` says which
  texts hold which pair, with the key in quotes or without them.
-/
import WorkflowLint.Line.Pair
import WorkflowLint.Proofs.Line.Uses

namespace WorkflowLint.Line

open Text (isBlank allBlank)

/-! ### The colon -/

theorem cutAtColon?_eq_none {text : Text} (h : ':' ∉ text) : cutAtColon? text = none := by
  induction text with
  | nil => rfl
  | cons c text ih =>
    rw [List.mem_cons, not_or] at h
    rw [cutAtColon?, if_neg (fun hc => h.1 hc.1.symm), ih h.2]
    rfl

/-- The colon behind `front` parts a text if no colon in `front` does. -/
theorem cutAtColon?_append_of_forall {front rest : Text}
    (h : ∀ start back, front = start ++ ':' :: back → startsBlank (back ++ ':' :: rest) = false)
    (hrest : startsBlank rest = true) :
    cutAtColon? (front ++ ':' :: rest) = some (front, rest) := by
  induction front with
  | nil => rw [List.nil_append, cutAtColon?, if_pos ⟨rfl, hrest⟩]
  | cons c front ih =>
    have hc : ¬(c = ':' ∧ startsBlank (front ++ ':' :: rest) = true) := by
      rintro ⟨rfl, hblank⟩
      rw [h [] front rfl] at hblank
      exact Bool.noConfusion hblank
    have hfront := ih fun start back heq => h (c :: start) back (by rw [heq, List.cons_append])
    rw [List.cons_append, cutAtColon?, if_neg hc, hfront]
    rfl

theorem cutAtColon?_append {front : Text} (h : ':' ∉ front) {rest : Text}
    (hrest : startsBlank rest = true) :
    cutAtColon? (front ++ ':' :: rest) = some (front, rest) := by
  refine cutAtColon?_append_of_forall (fun start back heq => ?_) hrest
  exact absurd (heq ▸ List.mem_append_right start (List.mem_cons_self ..)) h

/-- A colon that no blank follows is not the one that ends a key. -/
theorem cutAtColon?_append_eq_none {front : Text} (h : ':' ∉ front) {rest : Text}
    (hrest : startsBlank rest = false) (hnone : cutAtColon? rest = none) :
    cutAtColon? (front ++ ':' :: rest) = none := by
  induction front with
  | nil =>
    rw [List.nil_append, cutAtColon?, if_neg (by simp [hrest]), hnone]
    rfl
  | cons c front ih =>
    rw [List.mem_cons, not_or] at h
    rw [List.cons_append, cutAtColon?, if_neg (fun hc => h.1 hc.1.symm), ih h.2]
    rfl

theorem startsBlank_of_allBlank {text : Text} (h : allBlank text = true) (rest : Text)
    (hne : text ≠ []) : startsBlank (text ++ rest) = true := by
  cases text with
  | nil => exact absurd rfl hne
  | cons c text =>
    rw [Text.allBlank_cons, Bool.and_eq_true] at h
    exact h.1

theorem startsBlank_of_head {text : Text} (hne : text ≠ [])
    (h : ∀ c, text.head? = some c → isBlank c = false) : startsBlank text = false := by
  cases text with
  | nil => exact absurd rfl hne
  | cons c text => exact h c rfl

/-! ### The pair -/

/-- A key that does not start with a quote is a plain one. -/
theorem splitPair_of_head {text : Text} (h : ∀ c, text.head? = some c → isQuote c = false) :
    splitPair text = splitPlainPair text := by
  cases text with
  | nil => rfl
  | cons c rest => rw [splitPair, h c rfl, if_neg Bool.false_ne_true]

theorem splitPair_of_cut_none {text : Text} (h : ∀ c, text.head? = some c → isQuote c = false)
    (hnone : cutAtColon? text = none) : splitPair text = none := by
  rw [splitPair_of_head h, splitPlainPair, hnone]

/-- A key, a colon and a value after blanks are read as such. -/
theorem splitPair_append {front : Text} (hne : front ≠ []) (hcolon : ':' ∉ front)
    (hquote : ∀ c, front.head? = some c → isQuote c = false) {rest : Text}
    (hrest : startsBlank rest = true) :
    splitPair (front ++ ':' :: rest) = some (stripQuotes (Text.trim front), Text.trim rest) := by
  cases front with
  | nil => exact absurd rfl hne
  | cons c front =>
    have hquote' : ∀ d, (c :: front ++ ':' :: rest).head? = some d → isQuote d = false := hquote
    rw [splitPair_of_head hquote', splitPlainPair,
      cutAtColon?_append hcolon hrest]

/-! ### Where the key stands -/

/-- A text and its two parts around the first colon that a blank follows or that ends the
    text. -/
structure IsCut (text before after : Text) : Prop where
  eq_append : text = before ++ ':' :: after
  startsBlank_after : startsBlank after = true
  first : ∀ front back, text = front ++ ':' :: back → startsBlank back = true →
    before.length ≤ front.length

theorem cutAtColon?_eq_some_iff {text before after : Text} :
    cutAtColon? text = some (before, after) ↔ IsCut text before after := by
  constructor
  · intro h
    induction text generalizing before with
    | nil => cases h
    | cons c rest ih =>
      rw [cutAtColon?] at h
      split at h
      · rename_i hcolon
        cases h
        exact ⟨by rw [hcolon.1]; rfl, hcolon.2, fun _ _ _ _ => Nat.zero_le _⟩
      · rename_i hcolon
        obtain ⟨⟨start, back⟩, hcut, heq⟩ := Option.map_eq_some_iff.mp h
        cases heq
        obtain ⟨hrest, hblank, hfirst⟩ := ih hcut
        refine ⟨by rw [hrest]; rfl, hblank, fun front back htext hback => ?_⟩
        cases front with
        | nil =>
          obtain ⟨rfl, rfl⟩ := List.cons.inj htext
          exact absurd ⟨rfl, hback⟩ hcolon
        | cons d front =>
          exact Nat.succ_le_succ (hfirst front back (List.cons.inj htext).2 hback)
  · rintro ⟨rfl, hafter, hfirst⟩
    refine cutAtColon?_append_of_forall (fun start back heq => ?_) hafter
    -- a colon before it that parts the text would be the first one
    rw [← Bool.not_eq_true]
    intro hblank
    have hle := hfirst start (back ++ ':' :: after) (by simp [heq]) hblank
    rw [heq, List.length_append, List.length_cons] at hle
    omega

theorem cutAt?_eq_some_iff {mark : Char} {text before after : Text} :
    Text.cutAt? mark text = some (before, after) ↔
      mark ∉ before ∧ text = before ++ mark :: after := by
  constructor
  · intro h
    induction text generalizing before with
    | nil => cases h
    | cons c rest ih =>
      rw [Text.cutAt?] at h
      split at h
      · rename_i hmark
        cases h
        exact ⟨List.not_mem_nil, by rw [hmark]; rfl⟩
      · rename_i hmark
        obtain ⟨⟨front, back⟩, hcut, heq⟩ := Option.map_eq_some_iff.mp h
        cases heq
        obtain ⟨hfront, hrest⟩ := ih hcut
        exact ⟨List.not_mem_cons_of_ne_of_not_mem (Ne.symm hmark) hfront, by rw [hrest]; rfl⟩
  · rintro ⟨hbefore, rfl⟩
    induction before with
    | nil => rw [List.nil_append, Text.cutAt?, if_pos rfl]
    | cons c before ih =>
      rw [List.mem_cons, not_or] at hbefore
      rw [List.cons_append, Text.cutAt?, if_neg (Ne.symm hbefore.1), ih hbefore.2]
      rfl

theorem valueAfterKey?_eq_some_iff {text value : Text} :
    valueAfterKey? text = some value ↔ ∃ blanks after, allBlank blanks = true ∧
      startsBlank after = true ∧ Text.trim after = value ∧ text = blanks ++ ':' :: after := by
  constructor
  · intro h
    rw [valueAfterKey?] at h
    split at h
    · rename_i after htext
      split at h
      · rename_i hafter
        cases h
        refine ⟨_, after, Text.allBlank_takeWhile text, hafter, rfl, ?_⟩
        rw [← htext, Text.takeWhile_append_trimLeft]
      · cases h
    · cases h
  · rintro ⟨blanks, after, hblanks, hafter, rfl, rfl⟩
    have htrim : Text.trimLeft (blanks ++ ':' :: after) = ':' :: after := by
      rw [Text.trimLeft_append hblanks]
      refine Text.trimLeft_of_head fun c hc => ?_
      obtain rfl : ':' = c := Option.some.inj hc
      decide
    rw [valueAfterKey?, htrim]
    exact if_pos hafter

/-- A text that starts with a key in quotes, blanks and a colon. -/
def HoldsQuotedPair (text key value : Text) : Prop :=
  ∃ quote blanks after, isQuote quote = true ∧ quote ∉ key ∧ allBlank blanks = true ∧
    startsBlank after = true ∧ Text.trim after = value ∧
    text = quote :: (key ++ quote :: (blanks ++ ':' :: after))

/-- A text whose key stands before the first colon that parts it. -/
def HoldsPlainPair (text key value : Text) : Prop :=
  ∃ before after, before ≠ [] ∧ IsCut text before after ∧
    stripQuotes (Text.trim before) = key ∧ Text.trim after = value

/-- A text that starts with a quote which is closed further on. -/
def StartsQuoted (text : Text) : Prop :=
  ∃ quote body rest, isQuote quote = true ∧ quote ∉ body ∧ text = quote :: (body ++ quote :: rest)

theorem splitPlainPair_eq_some_iff {text key value : Text} :
    splitPlainPair text = some (key, value) ↔ HoldsPlainPair text key value := by
  rw [splitPlainPair]
  constructor
  · intro h
    split at h
    · cases h
    · cases h
    · rename_i before after hne hcut
      cases h
      exact ⟨before, after, hne, cutAtColon?_eq_some_iff.mp hcut, rfl, rfl⟩
  · rintro ⟨before, after, hne, hcut, rfl, rfl⟩
    rw [cutAtColon?_eq_some_iff.mpr hcut]
    cases before with
    | nil => exact absurd rfl hne
    | cons c before => rfl

/-- The key of a text that starts in quotes is what they enclose. -/
theorem splitPair_quoted {quote : Char} (hquote : isQuote quote = true) {body rest : Text}
    (hbody : quote ∉ body) :
    splitPair (quote :: (body ++ quote :: rest)) =
      (valueAfterKey? rest).map fun value => (body, value) := by
  rw [splitPair, if_pos hquote, cutAt?_eq_some_iff.mpr ⟨hbody, rfl⟩]

theorem splitPair_of_not_startsQuoted {text : Text} (h : ¬StartsQuoted text) :
    splitPair text = splitPlainPair text := by
  cases text with
  | nil => rfl
  | cons c rest =>
    rw [splitPair]
    split
    · rename_i hc
      cases hcut : Text.cutAt? c rest with
      | none => rfl
      | some parts =>
        obtain ⟨hbody, hrest⟩ := cutAt?_eq_some_iff.mp hcut
        exact absurd ⟨c, _, _, hc, hbody, congrArg _ hrest⟩ h
    · rfl

/-- The pair of a text has its key in quotes, or it stands around the first colon that parts
    the text, if that does not start in quotes. -/
theorem splitPair_eq_some_iff {text key value : Text} :
    splitPair text = some (key, value) ↔
      HoldsQuotedPair text key value ∨ HoldsPlainPair text key value ∧ ¬StartsQuoted text := by
  constructor
  · intro h
    by_cases hstart : StartsQuoted text
    · obtain ⟨quote, body, rest, hquote, hbody, rfl⟩ := hstart
      rw [splitPair_quoted hquote hbody] at h
      obtain ⟨found, hfound, heq⟩ := Option.map_eq_some_iff.mp h
      cases heq
      obtain ⟨blanks, after, hblanks, hafter, hvalue, rfl⟩ := valueAfterKey?_eq_some_iff.mp hfound
      exact .inl ⟨quote, blanks, after, hquote, hbody, hblanks, hafter, hvalue, rfl⟩
    · rw [splitPair_of_not_startsQuoted hstart] at h
      exact .inr ⟨splitPlainPair_eq_some_iff.mp h, hstart⟩
  · rintro (⟨quote, blanks, after, hquote, hkey, hblanks, hafter, hvalue, rfl⟩ | ⟨hplain, hstart⟩)
    · have hfound := valueAfterKey?_eq_some_iff.mpr ⟨blanks, after, hblanks, hafter, hvalue, rfl⟩
      rw [splitPair_quoted hquote hkey, hfound]
      rfl
    · rw [splitPair_of_not_startsQuoted hstart]
      exact splitPlainPair_eq_some_iff.mpr hplain

/-- A text that holds a pair starts with the key, which may stand in quotes, and then comes the
    colon, perhaps after blanks. -/
theorem eq_append_of_splitPair {text key value : Text} (h : splitPair text = some (key, value)) :
    ∃ margin quote blanks after, allBlank margin = true ∧ IsQuoting quote ∧
      allBlank blanks = true ∧
      text = margin ++ (quote ++ key ++ quote) ++ blanks ++ ':' :: after ∧
      startsBlank after = true ∧ Text.trim after = value := by
  rcases splitPair_eq_some_iff.mp h with
    ⟨quote, blanks, after, hquote, -, hblanks, hafter, hvalue, rfl⟩ |
      ⟨⟨before, after, -, hcut, hkey, hvalue⟩, -⟩
  · exact ⟨[], [quote], blanks, after, rfl, isQuoting_of_isQuote hquote, hblanks, by simp, hafter,
      hvalue⟩
  · obtain ⟨blanks, hblanks, hbefore⟩ := Text.exists_trim before
    obtain ⟨quote, hquote, htrim⟩ := exists_quoting hkey
    refine ⟨_, quote, blanks, after, Text.allBlank_takeWhile before, hquote, hblanks, ?_,
      hcut.startsBlank_after, hvalue⟩
    rw [← htrim, ← hbefore]
    exact hcut.eq_append

/-- The key of a text that starts with a dash starts with it as well, or is empty. -/
theorem splitPair_dash_ne {rest key value : Text} (hne : key ≠ []) (hkey : key.head? ≠ some '-') :
    splitPair ('-' :: rest) ≠ some (key, value) := by
  intro h
  obtain ⟨margin, quote, blanks, after, hmargin, hquote, -, htext, -⟩ := eq_append_of_splitPair h
  cases margin with
  | nil =>
    cases key with
    | nil => exact hne rfl
    | cons c key =>
      rcases hquote with rfl | rfl | rfl
      · exact hkey (congrArg some (List.cons.inj htext).1.symm)
      · exact absurd (List.cons.inj htext).1 (by decide)
      · exact absurd (List.cons.inj htext).1 (by decide)
  | cons c margin =>
    obtain rfl : '-' = c := (List.cons.inj htext).1
    rw [Text.allBlank_cons, Bool.and_eq_true] at hmargin
    exact absurd hmargin.1 (by decide)

/-! ### Writing a pair -/

/-- Blanks and a value behind a colon: a value that is not empty has blanks in front of it. -/
structure IsBehindColon (blanks value : Text) : Prop where
  allBlank : allBlank blanks = true
  tight : Text.Tight value
  eq_nil : blanks = [] → value = []

theorem IsBehindColon.startsBlank {blanks value : Text} (h : IsBehindColon blanks value) :
    startsBlank (blanks ++ value) = true := by
  by_cases hne : blanks = []
  · rw [hne, h.eq_nil hne]
    rfl
  · exact startsBlank_of_allBlank h.allBlank value hne

theorem IsBehindColon.trim_eq {blanks value : Text} (h : IsBehindColon blanks value) :
    Text.trim (blanks ++ value) = value := by
  rw [Text.trim_append_left h.allBlank, h.tight.trim_eq]

/-- A key that can be written without quotes: no colon in it is followed by a blank. -/
structure IsBareKey (key : Text) : Prop where
  ne_nil : key ≠ []
  tight : Text.Tight key
  head : ∀ c, key.head? = some c → isQuote c = false
  colon : ∀ front c rest, key = front ++ ':' :: c :: rest → isBlank c = false

/-- The colon that is written behind such a key is the first one to part the text, unless the key
    ends in a colon itself and blanks come in between. -/
theorem IsBareKey.cutAtColon?_eq {key blanks rest : Text} (h : IsBareKey key)
    (hblanks : allBlank blanks = true) (hlast : key.getLast? = some ':' → blanks = [])
    (hrest : startsBlank rest = true) :
    cutAtColon? (key ++ blanks ++ ':' :: rest) = some (key ++ blanks, rest) := by
  have hcolon : ':' ∉ blanks := by
    intro hmem
    exact absurd (Text.allBlank_iff.mp hblanks ':' hmem) (by decide)
  refine cutAtColon?_append_of_forall (fun start back heq => ?_) hrest
  rcases List.append_eq_append_iff.mp heq with ⟨front, -, rfl⟩ | ⟨front, hkey, hback⟩
  · exact absurd (List.mem_append_right front (List.mem_cons_self ..)) hcolon
  · cases front with
    | nil =>
      rw [List.nil_append] at hback
      rw [← hback] at hcolon
      exact absurd (List.mem_cons_self ..) hcolon
    | cons c front =>
      obtain ⟨rfl, rfl⟩ := List.cons.inj hback
      cases front with
      | nil =>
        rw [hlast (by rw [hkey, List.getLast?_concat])]
        rfl
      | cons c front => exact h.colon start c front hkey

theorem IsBareKey.splitPair_eq {key blanks rest : Text} (h : IsBareKey key)
    (hblanks : allBlank blanks = true) (hlast : key.getLast? = some ':' → blanks = [])
    (hrest : startsBlank rest = true) :
    splitPair (key ++ blanks ++ ':' :: rest) = some (key, Text.trim rest) := by
  have hhead : ∀ c, (key ++ blanks ++ ':' :: rest).head? = some c → isQuote c = false := by
    intro c hc
    cases hkey : key with
    | nil => exact absurd hkey h.ne_nil
    | cons d key' =>
      rw [hkey] at hc
      exact h.head c (hkey ▸ hc)
  have hcut := cutAtColon?_eq_some_iff.mp (h.cutAtColon?_eq hblanks hlast hrest)
  rw [splitPair_of_head hhead, splitPlainPair_eq_some_iff]
  have hne : key ++ blanks ≠ [] := fun hnil => h.ne_nil (List.append_eq_nil_iff.mp hnil).1
  refine ⟨key ++ blanks, rest, hne, hcut, ?_, rfl⟩
  rw [Text.trim_append key hblanks, h.tight.trim_eq, stripQuotes_of_head h.head]

/-- A key in quotes that do not occur in it is read back with its value, and so is a key that can
    be written without quotes.  Conversely, a text that holds a pair starts with its key in quotes,
    or the pair stands around the first colon that parts the text. -/
theorem splitPair_written :
    (∀ quote key blanks gap value, isQuote quote = true → quote ∉ key → allBlank blanks = true →
      IsBehindColon gap value →
      splitPair (quote :: (key ++ quote :: (blanks ++ ':' :: (gap ++ value)))) =
        some (key, value)) ∧
    (∀ key blanks gap value, IsBareKey key → allBlank blanks = true →
      (key.getLast? = some ':' → blanks = []) → IsBehindColon gap value →
      splitPair (key ++ blanks ++ ':' :: (gap ++ value)) = some (key, value)) ∧
    ∀ text key value, splitPair text = some (key, value) →
      HoldsQuotedPair text key value ∨ HoldsPlainPair text key value := by
  refine ⟨?_, ?_, ?_⟩
  · intro quote key blanks gap value hquote hkey hblanks hvalue
    exact splitPair_eq_some_iff.mpr (.inl
      ⟨quote, blanks, gap ++ value, hquote, hkey, hblanks, hvalue.startsBlank, hvalue.trim_eq, rfl⟩)
  · intro key blanks gap value hkey hblanks hlast hvalue
    rw [hkey.splitPair_eq hblanks hlast hvalue.startsBlank, hvalue.trim_eq]
  · intro text key value h
    exact (splitPair_eq_some_iff.mp h).imp_right And.left

/-- A quoted key with a colon that would part the text, a plain one that ends in a colon, and a
    quote that is never closed. -/
theorem splitPair_written_colons :
    splitPair "\"a: 'b #\" :\tc: \"d" = some ("a: 'b #".toList, "c: \"d".toList) ∧
      splitPair "a:b:: 'c: d" = some ("a:b:".toList, "'c: d".toList) ∧
      HoldsPlainPair "'on: push" "'on" "push" := by
  have htight {text : Text} (h : Text.trim text = text) : Text.Tight text :=
    Text.trim_eq_self_iff.mp h
  have hkey : IsBareKey "a:b:" := by
    refine ⟨by decide, htight (by decide +kernel), fun c hc => ?_, fun front c rest heq => ?_⟩
    · obtain rfl : 'a' = c := Option.some.inj hc
      decide
    · rw [show "a:b:".toList = ['a', ':', 'b', ':'] from rfl] at heq
      rcases front with _ | ⟨d, _ | ⟨e, _ | ⟨f, _ | ⟨g, front⟩⟩⟩⟩
      · simp at heq
      · obtain ⟨-, rfl, -⟩ : 'a' = d ∧ 'b' = c ∧ [':'] = rest := by simpa using heq
        decide
      · simp at heq
      · simp at heq
      · simp at heq
  obtain ⟨hquoted, hplain, hconverse⟩ := splitPair_written
  refine ⟨?_, ?_, ?_⟩
  · exact hquoted '"' "a: 'b #" " " "\t" "c: \"d" (by decide) (by decide) (by decide)
      ⟨by decide, htight (by decide +kernel), by decide⟩
  · exact hplain "a:b:" [] " " "'c: d" hkey rfl (fun _ => rfl)
      ⟨by decide, htight (by decide +kernel), by decide⟩
  · refine (hconverse "'on: push" "'on" "push" (by decide +kernel)).resolve_left ?_
    rintro ⟨quote, blanks, after, -, -, -, -, -, heq⟩
    exact absurd (List.cons.inj (List.cons.inj heq).2).1 (by decide)

end WorkflowLint.Line
