/-
  WorkflowLint/Terminal/Wrap.lean
  ===============================
  **Lines of a cell.**

  The room of a cell is measured part by part: not only a line feed ends a part, but
  also the other characters that part lines in Unicode, which take no room.  A line
  that is wider than the room, because it has several parts, is broken between
  words.  Blanks that stand beyond the room at the end of a line are dropped.
-/
import WorkflowLint.Terminal.Width
import WorkflowLint.Text.Blank

namespace WorkflowLint.Terminal

/-! ### Measuring -/

/-- The code points, other than that of the line feed, that part lines. -/
def lineEndRanges : List (Nat × Nat) := [(0x1C, 0x1E), (0x85, 0x85), (0x2028, 0x2029)]

/-- Whether a character parts lines without being a line feed. -/
def isLineEnd (c : Char) : Bool := Text.inRanges c.toNat lineEndRanges

/-- The parts of a line. -/
def lineParts (line : Text) : List Text :=
  Text.lines (line.map fun c => if isLineEnd c then '\n' else c)

/-- The room that a line takes: that of its widest part. -/
def lineRoom (line : Text) : Nat := ((lineParts line).map width).foldl max 0

/-! ### Breaking -/

/-- The words of a line, each with the blanks after it, and the first one also with the
    blanks before it. -/
def wordsWithBlanks (line : Text) : List Text :=
  match line.splitBy fun c d => !Text.isBlank c || Text.isBlank d with
  | first :: second :: others =>
    if Text.allBlank first then (first ++ second) :: others else first :: second :: others
  | words => words

/-- Lines made of words, the first of which has been started and takes some room. -/
def breakWords (room : Nat) (line : Text) (taken : Nat) : List Text → List Text
  | [] => [line]
  | word :: words =>
    if taken + width (Text.trimRight word) ≤ room ∨ taken = 0 then
      breakWords room (line ++ word) (taken + width word) words
    else line :: breakWords room word (width word) words

/-- A line without the blanks at its end that stand beyond some number of characters. -/
def cropEnd (room : Nat) (line : Text) : Text :=
  let blanks := line.length - (Text.trimRight line).length
  line.take (line.length - min blanks (line.length - room))

/-- A line as lines that fit into some room. -/
def breakLine (room : Nat) (line : Text) : List Text :=
  (breakWords room [] 0 (wordsWithBlanks line)).map (cropEnd room)

end WorkflowLint.Terminal
