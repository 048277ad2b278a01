/-
  WorkflowLint/Proofs/Line/Quotes.lean
  ====================================
  **The grammar of quotes.**

  The scan for a comment remembers which quotes are open.  What it remembers is that
  the text so far is no sequence of single characters and closed groups: no quotes
  are open exactly behind such a sequence (`quotingAfter_eq_none_iff`).  So a comment
  starts at the first hash sign that stands at the start or after a blank with all
  quotes before it closed (`commentStart?_eq_some_iff`), and nothing behind that sign
  matters.
-/
import Mathlib.Data.Nat.Find
import WorkflowLint.Proofs.Line.Comment

namespace WorkflowLint.Line

open Text (isBlank)

/-! ### Texts whose quotes are closed -/

/-- What may stand between double quotes: a backslash goes with the character behind it,
    whatever that is. -/
inductive InDouble : Text → Prop
  | nil : InDouble []
  | escaped (c : Char) {rest : Text} : InDouble rest → InDouble ('\\' :: c :: rest)
  | char {c : Char} {rest : Text} : c ≠ '"' → c ≠ '\\' → InDouble rest → InDouble (c :: rest)

/-- A sequence of characters that are no quotes, groups in double quotes and groups in
    single quotes. -/
inductive Closed : Text → Prop
  | nil : Closed []
  | char {c : Char} {rest : Text} : isQuote c = false → Closed rest → Closed (c :: rest)
  | double {body rest : Text} :
      InDouble body → Closed rest → Closed ('"' :: (body ++ '"' :: rest))
  | single {body rest : Text} :
      '\'' ∉ body → Closed rest → Closed ('\'' :: (body ++ '\'' :: rest))

theorem InDouble.foldl_next {body : Text} (h : InDouble body) :
    body.foldl Quoting.next .double = .double := by
  induction h with
  | nil => rfl
  | escaped c _ ih => exact ih
  | char hquote hescape _ ih =>
    rw [List.foldl_cons]
    simpa [Quoting.next, hquote, hescape] using ih

theorem Closed.quotingAfter_eq {text : Text} (h : Closed text) : quotingAfter text = .none := by
  rw [quotingAfter]
  induction h with
  | nil => rfl
  | char hc _ ih => rwa [List.foldl_cons, Quoting.none_next hc]
  | double hbody _ ih =>
    rw [List.foldl_cons, List.foldl_append, show Quoting.none.next '"' = .double from rfl,
      hbody.foldl_next]
    exact ih
  | @single body rest hbody _ ih =>
    have hsingle : body.foldl Quoting.next .single = .single := by
      refine Quoting.foldl_next fun c hc => ?_
      have hne : c ≠ '\'' := by
        rintro rfl
        exact hbody hc
      simp [Quoting.next]
    rw [List.foldl_cons, List.foldl_append, show Quoting.none.next '\'' = .single from rfl,
      hsingle]
    exact ih

/-- What closes the quotes that are open: the rest of their group and then a closed text. -/
def Closes : Quoting → Text → Prop
  | .none, text => Closed text
  | .single, text => ∃ body rest, '\'' ∉ body ∧ Closed rest ∧ text = body ++ '\'' :: rest
  | .double, text => ∃ body rest, InDouble body ∧ Closed rest ∧ text = body ++ '"' :: rest
  | .doubleEscape, text => ∃ c body rest, InDouble body ∧ Closed rest ∧
      text = c :: (body ++ '"' :: rest)

/-- What closes the quotes behind a character closes, with it, the quotes before it. -/
theorem closes_cons {quoting : Quoting} {c : Char} {text : Text}
    (h : Closes (quoting.next c) text) : Closes quoting (c :: text) := by
  cases quoting with
  | none =>
    by_cases hdouble : c = '"'
    · subst hdouble
      obtain ⟨body, rest, hbody, hrest, rfl⟩ := h
      exact .double hbody hrest
    · by_cases hsingle : c = '\''
      · subst hsingle
        obtain ⟨body, rest, hbody, hrest, rfl⟩ := h
        exact .single hbody hrest
      · have hquote : isQuote c = false := by simp [isQuote, hdouble, hsingle]
        rw [Quoting.none_next hquote] at h
        exact .char hquote h
  | single =>
    by_cases hsingle : c = '\''
    · subst hsingle
      exact ⟨[], text, List.not_mem_nil, h, rfl⟩
    · have hnext : Quoting.single.next c = .single := by simp [Quoting.next]
      rw [hnext] at h
      obtain ⟨body, rest, hbody, hrest, rfl⟩ := h
      have hmore : '\'' ∉ c :: body :=
        List.not_mem_cons_of_ne_of_not_mem (Ne.symm hsingle) hbody
      exact ⟨c :: body, rest, hmore, hrest, rfl⟩
  | double =>
    by_cases hdouble : c = '"'
    · subst hdouble
      exact ⟨[], text, .nil, h, rfl⟩
    · by_cases hescape : c = '\\'
      · subst hescape
        obtain ⟨d, body, rest, hbody, hrest, rfl⟩ := h
        exact ⟨'\\' :: d :: body, rest, .escaped d hbody, hrest, rfl⟩
      · have hnext : Quoting.double.next c = .double := by simp [Quoting.next]
        rw [hnext] at h
        obtain ⟨body, rest, hbody, hrest, rfl⟩ := h
        exact ⟨c :: body, rest, .char hdouble hescape hbody, hrest, rfl⟩
  | doubleEscape =>
    obtain ⟨body, rest, hbody, hrest, rfl⟩ := h
    exact ⟨c, body, rest, hbody, hrest, rfl⟩

theorem closes_of_foldl_next {quoting : Quoting} {text : Text}
    (h : text.foldl Quoting.next quoting = .none) : Closes quoting text := by
  induction text generalizing quoting with
  | nil =>
    obtain rfl : quoting = .none := h
    exact Closed.nil
  | cons c text ih => exact closes_cons (ih h)

/-- No quotes are open exactly behind a text whose quotes are closed. -/
theorem quotingAfter_eq_none_iff {text : Text} : quotingAfter text = .none ↔ Closed text :=
  ⟨closes_of_foldl_next, Closed.quotingAfter_eq⟩

/-! ### The first hash sign that starts a comment -/

/-- Whether the scan stops at a position. -/
def StopsAt (quoting : Quoting) (afterBlank : Bool) : Text → Nat → Prop
  | [], _ => False
  | c :: _, 0 => c = '#' ∧ quoting = .none ∧ afterBlank = true
  | c :: rest, position + 1 => StopsAt (quoting.next c) (isBlank c) rest position

/-- The scan finds the first position at which it stops. -/
theorem commentStartFrom_eq_some_iff {quoting : Quoting} {afterBlank : Bool} {text : Text}
    {start : Nat} :
    commentStartFrom quoting afterBlank text = some start ↔
      StopsAt quoting afterBlank text start ∧
        ∀ earlier < start, ¬StopsAt quoting afterBlank text earlier := by
  induction text generalizing quoting afterBlank start with
  | nil => simp [commentStartFrom, StopsAt]
  | cons c text ih =>
    rw [commentStartFrom]
    by_cases hc : c = '#' ∧ quoting = .none ∧ afterBlank = true
    · rw [if_pos hc, Option.some.injEq]
      constructor
      · rintro rfl
        exact ⟨hc, fun earlier hlt => absurd hlt (Nat.not_lt_zero earlier)⟩
      · rintro ⟨-, hleast⟩
        cases start with
        | zero => rfl
        | succ start => exact absurd hc (hleast 0 (Nat.succ_pos start))
    · rw [if_neg hc]
      cases start with
      | zero => simp [StopsAt, hc]
      | succ start =>
        rw [Option.map_eq_some_iff]
        simp only [Nat.add_right_cancel_iff, exists_eq_right, ih]
        refine and_congr_right fun _ => ⟨fun hleast earlier hlt => ?_, fun hleast earlier hlt => ?_⟩
        · cases earlier with
          | zero => exact hc
          | succ earlier => exact hleast earlier (Nat.lt_of_succ_lt_succ hlt)
        · exact hleast (earlier + 1) (Nat.succ_lt_succ hlt)

/-- Whether a blank stands before a position, given whether one stands before the text. -/
def blankBefore (afterBlank : Bool) (text : Text) : Nat → Bool
  | 0 => afterBlank
  | position + 1 => text[position]?.any isBlank

theorem stopsAt_iff {quoting : Quoting} {afterBlank : Bool} {text : Text} {position : Nat} :
    StopsAt quoting afterBlank text position ↔
      text[position]? = some '#' ∧ blankBefore afterBlank text position = true ∧
        (text.take position).foldl Quoting.next quoting = .none := by
  induction text generalizing quoting afterBlank position with
  | nil => simp [StopsAt]
  | cons c text ih =>
    cases position with
    | zero => simp [StopsAt, blankBefore, and_comm]
    | succ position =>
      have hblank : blankBefore afterBlank (c :: text) (position + 1) =
          blankBefore (isBlank c) text position := by
        cases position with
        | zero => rfl
        | succ position => rfl
      rw [StopsAt, ih, hblank]
      rfl

/-- A hash sign at the start or after a blank, with all quotes before it closed. -/
structure IsComment (text : Text) (position : Nat) : Prop where
  hash : text[position]? = some '#'
  blank : position = 0 ∨ ∃ c, text[position - 1]? = some c ∧ isBlank c = true
  closed : Closed (text.take position)

theorem isComment_iff {text : Text} {position : Nat} :
    IsComment text position ↔ StopsAt .none true text position := by
  have hblank : blankBefore true text position = true ↔
      position = 0 ∨ ∃ c, text[position - 1]? = some c ∧ isBlank c = true := by
    cases position with
    | zero => simp [blankBefore]
    | succ position => simp [blankBefore, Option.any_eq_true]
  rw [stopsAt_iff, hblank]
  exact ⟨fun h => ⟨h.hash, h.blank, quotingAfter_eq_none_iff.mpr h.closed⟩,
    fun h => ⟨h.1, h.2.1, quotingAfter_eq_none_iff.mp h.2.2⟩⟩

theorem commentStart?_eq_some_iff {text : Text} {start : Nat} :
    commentStart? text = some start ↔
      IsComment text start ∧ ∀ earlier < start, ¬IsComment text earlier := by
  simp only [commentStart?, commentStartFrom_eq_some_iff, isComment_iff]

theorem commentStart?_eq_none_iff {text : Text} :
    commentStart? text = none ↔ ∀ start, ¬IsComment text start := by
  classical
  constructor
  · intro hnone start hstart
    -- the least such position would be the one that the scan finds
    have hexists : ∃ start, IsComment text start := ⟨start, hstart⟩
    have hsome := commentStart?_eq_some_iff.mpr
      ⟨Nat.find_spec hexists, fun earlier hlt => Nat.find_min hexists hlt⟩
    rw [hnone] at hsome
    cases hsome
  · intro hall
    cases hstart : commentStart? text with
    | none => rfl
    | some start => exact absurd (commentStart?_eq_some_iff.mp hstart).1 (hall start)

/-! ### Removing a comment -/

/-- In front of its comment a text has no other. -/
theorem commentStart?_of_length_le {text front : Text} {start : Nat}
    (h : commentStart? text = some start) (hfront : front <+: text)
    (hlength : front.length ≤ start) : commentStart? front = none := by
  obtain ⟨more, rfl⟩ := hfront
  cases hfront : commentStart? front with
  | none => rfl
  | some position =>
    have hsame : commentStart? (front ++ more) = some position :=
      commentStartFrom_append hfront more
    rw [h, Option.some.injEq] at hsame
    have hhash := (commentStart?_eq_some_iff.mp hfront).1.hash
    have hlt := (List.getElem?_eq_some_iff.mp hhash).1
    omega

theorem stripComment_stripComment (text : Text) :
    stripComment (stripComment text) = stripComment text := by
  cases hstart : commentStart? text with
  | none =>
    have hsame : stripComment text = text := by rw [stripComment, hstart]
    rw [hsame, hsame]
  | some start =>
    have hlength : (stripComment text).length ≤ start := by
      rw [stripComment, hstart]
      exact Nat.le_trans (Text.dropRightWhile_sublist isBlank _).length_le (List.length_take_le ..)
    have hfront := stripComment_prefix text
    have hnone := commentStart?_of_length_le hstart hfront hlength
    conv => lhs; rw [stripComment, hnone]

/-- A comment that starts behind `front` starts there whatever comes after its hash sign. -/
theorem commentStart?_front {front tail : Text}
    (h : commentStart? (front ++ '#' :: tail) = some front.length) (tail' : Text) :
    commentStart? (front ++ '#' :: tail') = some front.length := by
  rw [List.append_cons] at h ⊢
  cases hfront : commentStart? (front ++ ['#']) with
  | none =>
    -- then the scan would have gone past the hash sign
    rw [commentStart?, commentStartFrom_append_of_none hfront (by simp),
      Option.map_eq_some_iff] at h
    obtain ⟨position, -, hposition⟩ := h
    rw [List.length_append, List.length_singleton] at hposition
    omega
  | some position =>
    have hsame : commentStart? (front ++ ['#'] ++ tail) = some position :=
      commentStartFrom_append hfront tail
    rw [hsame] at h
    rw [← h]
    exact commentStartFrom_append hfront tail'

/-- A comment starts at the first hash sign at the start or after a blank with all quotes before
    it closed, and nowhere if there is none.  A text without its comment has no comment, and
    what is left of a text does not depend on what the comment says. -/
theorem commentStart?_grammar (text : Text) :
    (∀ start, commentStart? text = some start ↔
      IsComment text start ∧ ∀ earlier < start, ¬IsComment text earlier) ∧
    (commentStart? text = none ↔ ∀ start, ¬IsComment text start) ∧
    stripComment (stripComment text) = stripComment text ∧
    ∀ front tail, text = front ++ '#' :: tail → commentStart? text = some front.length →
      ∀ tail', stripComment (front ++ '#' :: tail') = stripComment text := by
  refine ⟨fun start => commentStart?_eq_some_iff, commentStart?_eq_none_iff,
    stripComment_stripComment text, ?_⟩
  rintro front tail rfl hstart tail'
  rw [stripComment, stripComment, hstart, commentStart?_front hstart tail']
  simp only [List.take_left]

/-- A group in double quotes with a protected quote, and one in single quotes that ends in a
    backslash. -/
theorem commentStart?_grammar_quotes :
    let front : Text := "a: \"x # \\\" # y\" '# it \\' b#c "
    let tail : Text := " one \" note"
    commentStart? (front ++ '#' :: tail) = some front.length ∧
      stripComment (front ++ '#' :: "another") = stripComment (front ++ '#' :: tail) := by
  intro front tail
  have hstart : commentStart? (front ++ '#' :: tail) = some front.length := by decide +kernel
  exact ⟨hstart, (commentStart?_grammar _).2.2.2 front tail rfl hstart _⟩

end WorkflowLint.Line
