/-
  WorkflowLint/Proofs/Line/Comment.lean
  =====================================
  **Words in front of a comment.**

  The scan for a comment goes through a text that has none and keeps the quotes that are
  open at its end (`commentStartFrom_append_of_none`).  So a comment may follow a text that
  closes its quotes.

  A value on a line ends where only blanks follow or where blanks and then a
  comment follow (`EndsValue`).  Reading a value drops exactly such an ending:
  `stripComment_trim` reads a word that is written in a line, and
  `exists_endsValue` finds what was read in the line again.
-/
import WorkflowLint.Line.Comment
import WorkflowLint.Line.Value
import WorkflowLint.Proofs.Text.Trim

namespace WorkflowLint.Line

open Text (isBlank allBlank)

/-! ### Where a comment starts -/

theorem commentStartFrom_of_not_mem {text : Text} (h : '#' ∉ text) (quoting : Quoting)
    (afterBlank : Bool) : commentStartFrom quoting afterBlank text = none := by
  induction text generalizing quoting afterBlank with
  | nil => rfl
  | cons c text ih =>
    rw [List.mem_cons, not_or] at h
    rw [commentStartFrom, if_neg (fun hc => h.1 hc.1.symm), ih h.2]
    rfl

theorem stripComment_of_not_mem {text : Text} (h : '#' ∉ text) : stripComment text = text := by
  rw [stripComment, commentStart?, commentStartFrom_of_not_mem h]

theorem stripComment_sublist (text : Text) : (stripComment text).Sublist text := by
  rw [stripComment]
  split
  · exact List.Sublist.refl _
  · rename_i start _
    exact (Text.dropRightWhile_sublist isBlank _).trans (List.take_sublist start text)

/-- The quotes that are open at the end of a text. -/
def quotingAfter (text : Text) : Quoting := text.foldl Quoting.next .none

/-- A comment that has been found stays where it is. -/
theorem commentStartFrom_append {quoting : Quoting} {afterBlank : Bool} {text : Text} {start : Nat}
    (h : commentStartFrom quoting afterBlank text = some start) (more : Text) :
    commentStartFrom quoting afterBlank (text ++ more) = some start := by
  induction text generalizing quoting afterBlank start with
  | nil => cases h
  | cons c text ih =>
    rw [commentStartFrom] at h
    rw [List.cons_append, commentStartFrom]
    split at h
    · rename_i hc
      rwa [if_pos hc]
    · rename_i hc
      obtain ⟨start, hstart, rfl⟩ := Option.map_eq_some_iff.mp h
      rw [if_neg hc, ih hstart]
      rfl

/-- Behind a text without a comment, the scan goes on with the quotes that the text has left
    open. -/
theorem commentStartFrom_append_of_none {quoting : Quoting} {afterBlank : Bool} {text : Text}
    (h : commentStartFrom quoting afterBlank text = none) (hne : text ≠ []) (more : Text) :
    commentStartFrom quoting afterBlank (text ++ more) =
      (commentStartFrom (text.foldl Quoting.next quoting) (text.getLast?.any isBlank) more).map
        (· + text.length) := by
  induction text generalizing quoting afterBlank with
  | nil => exact absurd rfl hne
  | cons c text ih =>
    rw [commentStartFrom] at h
    rw [List.cons_append, commentStartFrom]
    split at h
    · cases h
    · rename_i hc
      rw [if_neg hc]
      cases text with
      | nil => simp
      | cons d text =>
        rw [ih (Option.map_eq_none_iff.mp h) (List.cons_ne_nil _ _), Option.map_map]
        simp only [List.foldl_cons, List.getLast?_cons_cons, List.length_cons]
        rfl

/-- Whether a character has no meaning of its own in a word: it is no blank, no
    quote, no backslash, no hash sign, no colon and no dollar sign. -/
def isPlainChar (c : Char) : Bool :=
  !isBlank c && !isQuote c && !(['\\', '#', ':', '$'].contains c)

/-- A word of plain characters. -/
structure IsWord (word : Text) : Prop where
  ne_nil : word ≠ []
  plain : ∀ c ∈ word, isPlainChar c = true

theorem isBlank_of_isPlainChar {c : Char} (h : isPlainChar c = true) : isBlank c = false := by
  simp only [isPlainChar, Bool.and_eq_true, Bool.not_eq_true'] at h
  exact h.1.1

theorem isQuote_of_isPlainChar {c : Char} (h : isPlainChar c = true) : isQuote c = false := by
  simp only [isPlainChar, Bool.and_eq_true, Bool.not_eq_true'] at h
  exact h.1.2

theorem ne_of_isPlainChar {c d : Char} (h : isPlainChar c = true)
    (hd : isPlainChar d = false) : c ≠ d := by
  rintro rfl
  rw [h] at hd
  exact Bool.noConfusion hd

/-- Plain characters leave the open quotes as they are. -/
theorem Quoting.next_of_isPlainChar {quoting : Quoting} (hquoting : quoting ≠ .doubleEscape)
    {c : Char} (h : isPlainChar c = true) : quoting.next c = quoting := by
  have hdouble : c ≠ '"' := ne_of_isPlainChar h (by decide)
  have hsingle : c ≠ '\'' := ne_of_isPlainChar h (by decide)
  have hescape : c ≠ '\\' := ne_of_isPlainChar h (by decide)
  cases quoting with
  | none => simp [Quoting.next]
  | single => simp [Quoting.next]
  | double => simp [Quoting.next]
  | doubleEscape => exact absurd rfl hquoting

/-- Outside quotes, only a quote opens one. -/
theorem Quoting.none_next {c : Char} (h : isQuote c = false) : Quoting.none.next c = .none := by
  rw [isQuote, Bool.or_eq_false_iff, beq_eq_false_iff_ne, beq_eq_false_iff_ne] at h
  obtain ⟨hdouble, hsingle⟩ := h
  simp [Quoting.next]

theorem Quoting.foldl_next {quoting : Quoting} {text : Text}
    (h : ∀ c ∈ text, quoting.next c = quoting) : text.foldl Quoting.next quoting = quoting := by
  induction text with
  | nil => rfl
  | cons c text ih =>
    rw [List.foldl_cons, h c (List.mem_cons_self ..)]
    exact ih fun d hd => h d (List.mem_cons_of_mem _ hd)

theorem isQuote_of_isBlank {c : Char} (h : isBlank c = true) : isQuote c = false := by
  rw [isQuote, Bool.or_eq_false_iff, beq_eq_false_iff_ne, beq_eq_false_iff_ne]
  constructor
  · rintro rfl
    exact absurd h (by decide)
  · rintro rfl
    exact absurd h (by decide)

/-- A comment starts after the blanks in front of it. -/
theorem commentStartFrom_blanks {blanks : Text} (h : allBlank blanks = true) (hne : blanks ≠ [])
    (afterBlank : Bool) (more : Text) :
    commentStartFrom .none afterBlank (blanks ++ '#' :: more) = some blanks.length := by
  have hblanks := Text.allBlank_iff.mp h
  have hhash : '#' ∉ blanks := fun hmem => absurd (hblanks '#' hmem) (by decide)
  have hquoting : blanks.foldl Quoting.next .none = .none :=
    Quoting.foldl_next fun c hc => Quoting.none_next (isQuote_of_isBlank (hblanks c hc))
  have hlast : blanks.getLast?.any isBlank = true := by
    cases hlast : blanks.getLast? with
    | none => exact absurd (List.getLast?_eq_none_iff.mp hlast) hne
    | some c => exact hblanks c (List.mem_of_getLast? hlast)
  rw [commentStartFrom_append_of_none (commentStartFrom_of_not_mem hhash _ _) hne, hquoting, hlast]
  simp [commentStartFrom]

/-- A comment starts with a hash sign, which stands at the start or after a blank. -/
theorem exists_of_commentStartFrom {quoting : Quoting} {afterBlank : Bool} {text : Text}
    {start : Nat} (h : commentStartFrom quoting afterBlank text = some start) :
    ∃ more, text = text.take start ++ '#' :: more ∧
      ∀ c, (text.take start).getLast? = some c → isBlank c = true := by
  induction text generalizing quoting afterBlank start with
  | nil => exact absurd h (by simp [commentStartFrom])
  | cons c text ih =>
    rw [commentStartFrom] at h
    split at h
    · rename_i hc
      obtain rfl : 0 = start := by simpa using h
      exact ⟨text, by simp [hc.1], by simp⟩
    · obtain ⟨start, hstart, rfl⟩ := Option.map_eq_some_iff.mp h
      obtain ⟨more, htext, hlast⟩ := ih hstart
      refine ⟨more, by rw [List.take_succ_cons, List.cons_append, ← htext], ?_⟩
      intro d hd
      rw [List.take_succ_cons] at hd
      cases hfront : text.take start with
      | nil =>
        -- the hash sign comes right after `c`, so `c` is the blank before it
        rw [hfront] at hd htext
        obtain rfl : c = d := by simpa using hd
        rw [htext, List.nil_append, commentStartFrom] at hstart
        cases hblank : isBlank c with
        | true => rfl
        | false =>
          rw [hblank] at hstart
          obtain ⟨k, -, hk⟩ := Option.map_eq_some_iff.mp (by simpa using hstart)
          have hzero : start = 0 := by
            rcases List.take_eq_nil_iff.mp hfront with rfl | rfl
            · rfl
            · exact absurd htext (by simp)
          omega
      | cons e rest =>
        rw [hfront] at hd hlast
        exact hlast d (by simpa [List.getLast?_cons_cons] using hd)

theorem stripComment_prefix (text : Text) : stripComment text <+: text := by
  rw [stripComment]
  split
  · exact List.prefix_refl _
  · rename_i start _
    obtain ⟨tail, -, htext⟩ := Text.exists_dropRightWhile isBlank (text.take start)
    exact (htext ▸ List.prefix_append ..).trans (List.take_prefix start text)

theorem tight_stripComment {text : Text} (h : Text.Tight text) :
    Text.Tight (stripComment text) := by
  refine ⟨fun c hc => ?_, ?_⟩
  · obtain ⟨rest, hrest⟩ := stripComment_prefix text
    exact h.1 c (by rw [← hrest, List.head?_append, hc, Option.some_or])
  · rw [stripComment]
    split
    · exact h.2
    · exact fun c hc => Text.getLast?_dropRightWhile hc

/-- Text without hash signs and quotes does not open anything. -/
theorem commentStartFrom_append_plain {front : Text} (hne : front ≠ [])
    (h : ∀ c ∈ front, c ≠ '#' ∧ isQuote c = false) (afterBlank : Bool) (rest : Text) :
    commentStartFrom .none afterBlank (front ++ rest) =
      (commentStartFrom .none (front.getLast?.any isBlank) rest).map (· + front.length) := by
  have hhash : '#' ∉ front := fun hmem => (h '#' hmem).1 rfl
  have hquoting : front.foldl Quoting.next .none = .none :=
    Quoting.foldl_next fun c hc => Quoting.none_next (h c hc).2
  rw [commentStartFrom_append_of_none (commentStartFrom_of_not_mem hhash _ _) hne, hquoting]

/-- If such text ends in a blank, what is taken for the comment behind it does not depend on
    it. -/
theorem trimRight_stripComment_append {front : Text}
    (h : ∀ c ∈ front, c ≠ '#' ∧ isQuote c = false)
    (hlast : ∀ c, front.getLast? = some c → isBlank c = true) (text : Text) :
    Text.trimRight (stripComment (front ++ text)) =
      Text.trimRight (front ++ stripComment text) := by
  have hstart : commentStart? (front ++ text) =
      (commentStart? text).map (· + front.length) := by
    by_cases hne : front = []
    · simp [hne]
    · have hblank : front.getLast?.any isBlank = true := by
        cases hfront : front.getLast? with
        | none => exact absurd (List.getLast?_eq_none_iff.mp hfront) hne
        | some c => exact hlast c hfront
      rw [commentStart?, commentStartFrom_append_plain hne h, hblank]
      rfl
  rw [stripComment, stripComment, hstart]
  cases commentStart? text with
  | none => rfl
  | some start =>
    have htake : (front ++ text).take (start + front.length) = front ++ text.take start := by
      rw [Nat.add_comm, List.take_length_add_append]
    simp only [Option.map_some, htake]
    rw [Text.trimRight_append_trimRight]
    exact Text.trimRight_of_getLast fun c hc => Text.getLast?_dropRightWhile hc

/-- If it does not end in a blank, it stays in front of the comment. -/
theorem exists_stripComment_append {front : Text} (hne : front ≠ [])
    (h : ∀ c ∈ front, c ≠ '#' ∧ isQuote c = false)
    (hlast : ∀ c, front.getLast? = some c → isBlank c = false) (text : Text) :
    ∃ more, stripComment (front ++ text) = front ++ more ∧ more <+: text := by
  rw [stripComment, commentStart?, commentStartFrom_append_plain hne h]
  cases commentStartFrom .none (front.getLast?.any isBlank) text with
  | none => exact ⟨text, rfl, List.prefix_refl _⟩
  | some start =>
    obtain ⟨tail, -, htail⟩ := Text.exists_dropRightWhile isBlank (text.take start)
    refine ⟨Text.trimRight (text.take start), ?_,
      (htail ▸ List.prefix_append ..).trans (List.take_prefix start text)⟩
    simp only [Option.map_some, Nat.add_comm start, List.take_length_add_append]
    exact Text.trimRight_append_left hlast _

/-! ### Values on a line -/

/-- Whether a value ends where `tail` starts: nothing but blanks follow, or blanks and a
    comment. -/
def EndsValue (tail : Text) : Prop :=
  allBlank tail = true ∨
    ∃ blanks more, blanks ≠ [] ∧ allBlank blanks = true ∧ tail = blanks ++ '#' :: more

/-- A value may have more blanks before its ending. -/
theorem EndsValue.blanks_append {front tail : Text} (h : EndsValue tail)
    (hfront : allBlank front = true) : EndsValue (front ++ tail) := by
  rcases h with hblank | ⟨blanks, more, hne, hblanks, rfl⟩
  · exact .inl (by simp [hfront, hblank])
  · exact .inr ⟨front ++ blanks, more, by simp [hne], by simp [hfront, hblanks], by simp⟩

/-- A value that a comment may follow: it is tight, and all quotes that are opened in it
    are closed. -/
structure IsValue (value : Text) : Prop where
  tight : Text.Tight value
  ne_nil : value ≠ []
  closed : ∀ afterBlank rest, commentStartFrom .none afterBlank (value ++ rest) =
    (commentStartFrom .none false rest).map (· + value.length)

/-- A tight text without a comment is a value, if it leaves no quotes open. -/
theorem isValue_of_quotingAfter {text : Text} (htight : Text.Tight text) (hne : text ≠ [])
    (hstart : commentStart? text = none) (hquoting : quotingAfter text = .none) : IsValue text := by
  refine ⟨htight, hne, ?_⟩
  intro afterBlank rest
  have hnone : commentStartFrom .none afterBlank text = none := by
    cases text with
    | nil => exact absurd rfl hne
    | cons c text =>
      have hhash : c ≠ '#' := by
        rintro rfl
        cases hstart
      rw [commentStart?, commentStartFrom, if_neg (fun hc => hhash hc.1)] at hstart
      rw [commentStartFrom, if_neg (fun hc => hhash hc.1), hstart]
  have hlast : text.getLast?.any isBlank = false := by
    cases hlast : text.getLast? with
    | none => rfl
    | some c => exact htight.2 c hlast
  rw [commentStartFrom_append_of_none hnone hne, hlast]
  exact congrArg _ (congrArg (commentStartFrom · false rest) hquoting)

theorem IsWord.tight {word : Text} (h : IsWord word) : Text.Tight word := by
  constructor
  · intro c hc
    exact isBlank_of_isPlainChar (h.plain c (List.mem_of_head? hc))
  · intro c hc
    exact isBlank_of_isPlainChar (h.plain c (List.mem_of_getLast? hc))

theorem IsWord.hash_not_mem {word : Text} (h : IsWord word) : '#' ∉ word :=
  fun hmem => ne_of_isPlainChar (h.plain '#' hmem) (by decide) rfl

theorem IsWord.isValue {word : Text} (h : IsWord word) : IsValue word := by
  apply isValue_of_quotingAfter h.tight h.ne_nil
  · exact commentStartFrom_of_not_mem h.hash_not_mem _ _
  · exact Quoting.foldl_next fun c hc => Quoting.next_of_isPlainChar (by decide) (h.plain c hc)

theorem IsWord.isValue_quoted {word : Text} (h : IsWord word) {quote : Char}
    (hquote : isQuote quote = true) : IsValue (quote :: (word ++ [quote])) := by
  have hword {quoting : Quoting} (hquoting : quoting ≠ .doubleEscape) :
      word.foldl Quoting.next quoting = quoting :=
    Quoting.foldl_next fun c hc => Quoting.next_of_isPlainChar hquoting (h.plain c hc)
  have hchars : isBlank quote = false ∧ quote ≠ '#' ∧
      quotingAfter (quote :: (word ++ [quote])) = .none := by
    simp only [isQuote, Bool.or_eq_true, beq_iff_eq] at hquote
    rw [quotingAfter, List.foldl_cons, List.foldl_append]
    rcases hquote with rfl | rfl
    · refine ⟨by decide, by decide, ?_⟩
      rw [show Quoting.none.next '"' = .double from rfl, hword (by decide)]
      rfl
    · refine ⟨by decide, by decide, ?_⟩
      rw [show Quoting.none.next '\'' = .single from rfl, hword (by decide)]
      rfl
  obtain ⟨hblank, hhash, hquoting⟩ := hchars
  refine isValue_of_quotingAfter ⟨?_, ?_⟩ (List.cons_ne_nil _ _) ?_ hquoting
  · intro c hc
    obtain rfl : quote = c := by simpa using hc
    exact hblank
  · intro c hc
    rw [← List.cons_append, List.getLast?_concat] at hc
    obtain rfl : quote = c := by simpa using hc
    exact hblank
  · apply commentStartFrom_of_not_mem
    simp [hhash.symm, h.hash_not_mem]

theorem IsValue.stripComment_eq {value : Text} (h : IsValue value) :
    stripComment value = value := by
  have hstart := h.closed true []
  rw [List.append_nil] at hstart
  rw [stripComment, commentStart?, hstart]
  rfl

/-- A value may have text without hash signs and quotes in front of it. -/
theorem IsValue.prepend {front value : Text} (hvalue : IsValue value)
    (hfront : ∀ c ∈ front, c ≠ '#' ∧ isQuote c = false)
    (hhead : ∀ c, front.head? = some c → isBlank c = false) : IsValue (front ++ value) := by
  refine ⟨⟨?_, ?_⟩, ?_, ?_⟩
  · intro c hc
    cases front with
    | nil => exact hvalue.tight.1 c hc
    | cons d front => exact hhead c hc
  · intro c hc
    rw [List.getLast?_append] at hc
    cases hlast : value.getLast? with
    | none => exact absurd (List.getLast?_eq_none_iff.mp hlast) hvalue.ne_nil
    | some d =>
      rw [hlast, Option.some_or] at hc
      exact hvalue.tight.2 c (hlast.trans hc)
  · exact fun hnil => hvalue.ne_nil (List.append_eq_nil_iff.mp hnil).2
  · intro afterBlank rest
    by_cases hne : front = []
    · rw [hne]
      exact hvalue.closed afterBlank rest
    rw [List.append_assoc, commentStartFrom_append_plain hne hfront, hvalue.closed,
      Option.map_map, List.length_append]
    congr 1
    funext start
    rw [Function.comp_apply, Nat.add_assoc, Nat.add_comm value.length]

/-- A value is read off a line up to where it ends. -/
theorem stripComment_trim {value front tail : Text} (hvalue : IsValue value)
    (hfront : allBlank front = true) (htail : EndsValue tail) :
    stripComment (Text.trim (front ++ value ++ tail)) = value := by
  rcases htail with htail | ⟨blanks, more, hne, hblanks, rfl⟩
  · rw [Text.trim_between hfront hvalue.tight htail, hvalue.stripComment_eq]
  · obtain ⟨back, hback, hmore⟩ := Text.exists_dropRightWhile isBlank ('#' :: more)
    obtain ⟨comment, hcomment⟩ :
        ∃ comment, Text.dropRightWhile isBlank ('#' :: more) = '#' :: comment := by
      cases hdrop : Text.dropRightWhile isBlank ('#' :: more) with
      | nil =>
        rw [hdrop, List.nil_append] at hmore
        exact absurd (hback '#' (by rw [← hmore]; exact List.mem_cons_self ..)) (by decide)
      | cons c comment =>
        rw [hdrop, List.cons_append] at hmore
        injection hmore with hc
        exact ⟨comment, by rw [hc]⟩
    -- the line without the blanks around it is the value, the blanks and the comment
    have htight : Text.Tight (value ++ (blanks ++ '#' :: comment)) := by
      constructor
      · intro c hc
        rw [List.head?_append] at hc
        cases hhead : value.head? with
        | none => exact absurd (List.head?_eq_none_iff.mp hhead) hvalue.ne_nil
        | some d =>
          rw [hhead] at hc
          exact hvalue.tight.1 c (by rw [hhead]; exact hc)
      · intro c hc
        rw [← List.append_assoc, ← hcomment, List.getLast?_append] at hc
        have hlast : ∃ d, (Text.dropRightWhile isBlank ('#' :: more)).getLast? = some d := by
          rw [hcomment]
          exact ⟨_, List.getLast?_cons⟩
        obtain ⟨d, hd⟩ := hlast
        rw [hd] at hc
        obtain rfl : d = c := by simpa using hc
        exact Text.getLast?_dropRightWhile hd
    have hline : front ++ value ++ (blanks ++ '#' :: more) =
        front ++ (value ++ (blanks ++ '#' :: comment)) ++ back := by
      rw [hmore, hcomment]
      simp only [List.append_assoc]
    have hstart : commentStart? (value ++ (blanks ++ '#' :: comment)) =
        some (value ++ blanks).length := by
      rw [commentStart?, hvalue.closed, commentStartFrom_blanks hblanks hne,
        List.length_append, Option.map_some, Nat.add_comm]
    rw [hline, Text.trim_between hfront htight (Text.allBlank_iff.mpr hback), stripComment,
      hstart]
    simp only [← List.append_assoc, List.take_left]
    rw [Text.trimRight_append _ hblanks]
    exact Text.trimRight_of_getLast hvalue.tight.2

/-- What is read off a line stands in it, up to where a value ends. -/
theorem exists_endsValue {line value : Text} (hne : value ≠ [])
    (h : stripComment (Text.trim line) = value) :
    ∃ front tail, line = front ++ value ++ tail ∧ allBlank front = true ∧ EndsValue tail := by
  obtain ⟨back, hback, hline⟩ := Text.exists_trim line
  refine ⟨line.takeWhile isBlank, ?_⟩
  rw [stripComment] at h
  split at h
  · refine ⟨back, ?_, Text.allBlank_takeWhile line, Or.inl hback⟩
    rw [← h]
    exact hline
  · rename_i start hstart
    obtain ⟨more, htrim, hlast⟩ := exists_of_commentStartFrom hstart
    obtain ⟨blanks, hblanks, hfront⟩ :=
      Text.exists_dropRightWhile isBlank ((Text.trim line).take start)
    rw [show Text.dropRightWhile isBlank ((Text.trim line).take start) = value from h] at hfront
    refine ⟨blanks ++ '#' :: (more ++ back), ?_, Text.allBlank_takeWhile line, Or.inr ?_⟩
    · conv => lhs; rw [hline, htrim, hfront]
      simp only [List.append_assoc, List.cons_append]
    · refine ⟨blanks, more ++ back, ?_, Text.allBlank_iff.mpr hblanks, rfl⟩
      rintro rfl
      rw [List.append_nil] at hfront
      rw [hfront] at hlast
      cases hvalue : value.getLast? with
      | none => exact hne (List.getLast?_eq_none_iff.mp hvalue)
      | some c =>
        have hc : isBlank c = true := hlast c hvalue
        rw [← show Text.dropRightWhile isBlank ((Text.trim line).take start) = value from h]
          at hvalue
        have hnot : isBlank c = false := Text.getLast?_dropRightWhile hvalue
        rw [hc] at hnot
        exact Bool.noConfusion hnot

end WorkflowLint.Line
