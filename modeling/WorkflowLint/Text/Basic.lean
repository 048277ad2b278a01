/-
  WorkflowLint/Text/Basic.lean
  ============================
  **Texts as lists of characters.**

  Everything this library reads or writes is a `Text`, the list of its
  characters, so that lengths, columns and positions all count characters and
  every scanner is a recursion over a list.  This file holds what no single part
  of the linter owns: cutting a text into lines and joining lines again
  (`joinLines_lines` says that nothing is lost), finding and replacing a part of
  a text, and writing numbers.
-/

namespace WorkflowLint

/-- A text is the list of its characters. -/
abbrev Text := List Char

instance : Coe String Text := ⟨String.toList⟩

namespace Text

/-! ### Pieces and lines -/

/-- The pieces of a text between the occurrences of `mark`.  There is one more
    piece than there are marks, so an empty text has one empty piece. -/
def pieces (mark : Char) : Text → List Text
  | [] => [[]]
  | c :: rest =>
    if c = mark then [] :: pieces mark rest
    else
      match pieces mark rest with
      | [] => [[c]]
      | first :: others => (c :: first) :: others

/-- The texts joined with `separator` between neighbours. -/
def join (separator : Text) : List Text → Text
  | [] => []
  | [text] => text
  | text :: next :: others => text ++ separator ++ join separator (next :: others)

/-- The lines of a text: it is cut at every line feed and at nothing else. -/
def lines (text : Text) : List Text := pieces '\n' text

/-- Lines joined by line feeds. -/
def joinLines (texts : List Text) : Text := join ['\n'] texts

theorem pieces_ne_nil (mark : Char) (text : Text) : pieces mark text ≠ [] := by
  cases text with
  | nil => simp [pieces]
  | cons c rest =>
    simp only [pieces]
    split
    · simp
    · split <;> simp

theorem lines_ne_nil (text : Text) : lines text ≠ [] := pieces_ne_nil '\n' text

theorem join_cons (separator : Text) {text : Text} {others : List Text} (h : others ≠ []) :
    join separator (text :: others) = text ++ separator ++ join separator others := by
  cases others with
  | nil => exact absurd rfl h
  | cons next others => rfl

/-- Joining the pieces of a text with the mark gives the text back. -/
theorem join_pieces (mark : Char) (text : Text) : join [mark] (pieces mark text) = text := by
  induction text with
  | nil => rfl
  | cons c rest ih =>
    simp only [pieces]
    split
    · rename_i h
      rw [join_cons [mark] (pieces_ne_nil mark rest), ih, h]
      rfl
    · split
      · rename_i h
        exact absurd h (pieces_ne_nil mark rest)
      · rename_i first others h
        rw [h] at ih
        cases others with
        | nil => simpa [join] using ih
        | cons next others => simpa [join] using ih

/-- Joining the lines of a text gives the text back. -/
theorem joinLines_lines (text : Text) : joinLines (lines text) = text := join_pieces '\n' text

/-! ### Parts of a text -/

/-- Whether `part` occurs in the text. -/
def hasPart (part : Text) : Text → Bool
  | [] => part.isEmpty
  | c :: rest => part.isPrefixOf (c :: rest) || hasPart part rest

/-- The text with the first occurrence of `old` replaced by `new`. -/
def replaceFirst (old new : Text) : Text → Text
  | [] => if old.isEmpty then new else []
  | c :: rest =>
    if old.isPrefixOf (c :: rest) then new ++ (c :: rest).drop old.length
    else c :: replaceFirst old new rest

/-- What stands before and after the first `mark`, or nothing if there is none. -/
def cutAt? {α : Type} [DecidableEq α] (mark : α) : List α → Option (List α × List α)
  | [] => none
  | c :: rest =>
    if c = mark then some ([], rest)
    else (cutAt? mark rest).map fun (before, after) => (c :: before, after)

/-- Drops the characters at the end that satisfy `p`. -/
def dropRightWhile (p : Char → Bool) (text : Text) : Text :=
  (text.reverse.dropWhile p).reverse

/-! ### Numbers -/

/-- A natural number in decimal digits. -/
def ofNat (n : Nat) : Text := Nat.toDigits 10 n

/-- An integer in decimal digits, with a minus sign before a negative one. -/
def ofInt : Int → Text
  | .ofNat n => ofNat n
  | .negSucc n => '-' :: ofNat (n + 1)

/-! ### Character classes by ranges -/

/-- Whether a code point lies in one of the ranges, which are given by their two
    ends in increasing order. -/
def inRanges (code : Nat) : List (Nat × Nat) → Bool
  | [] => false
  | (first, last) :: others =>
    if code < first then false else code ≤ last || inRanges code others

end Text

end WorkflowLint
