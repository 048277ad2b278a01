/-
  WorkflowLint/Text/Blank.lean
  ============================
  **White space.**

  One notion of white space serves the whole linter: the characters that Unicode
  gives the property `White_Space`, together with the four information
  separators U+001C to U+001F.  Zero-width characters are not blank.
-/
import WorkflowLint.Text.Basic

namespace WorkflowLint.Text

/-- The code points of the blank characters. -/
def blankRanges : List (Nat × Nat) :=
  [(0x09, 0x0D), (0x1C, 0x20), (0x85, 0x85), (0xA0, 0xA0), (0x1680, 0x1680),
   (0x2000, 0x200A), (0x2028, 0x2029), (0x202F, 0x202F), (0x205F, 0x205F),
   (0x3000, 0x3000)]

/-- Whether a character is white space. -/
def isBlank (c : Char) : Bool := inRanges c.toNat blankRanges

/-- Whether a character is a space or a tab. -/
def isIndent (c : Char) : Bool := c == ' ' || c == '\t'

/-- The text without blanks at its start. -/
def trimLeft (text : Text) : Text := text.dropWhile isBlank

/-- The text without blanks at its end. -/
def trimRight (text : Text) : Text := dropRightWhile isBlank text

/-- The text without blanks at its ends. -/
def trim (text : Text) : Text := trimRight (trimLeft text)

/-- The number of blanks at the start of a text. -/
def blankWidth (text : Text) : Nat := (text.takeWhile isBlank).length

/-- The words of a text, which blanks part from each other. -/
def words : Text → List Text
  | [] => []
  | c :: rest =>
    if isBlank c then words rest
    else if (rest.head?.map isBlank).getD true then [c] :: words rest
    else
      match words rest with
      | [] => [[c]]
      | word :: others => (c :: word) :: others

/-- Whether a text holds nothing but blanks. -/
def allBlank (text : Text) : Bool := text.all isBlank

end WorkflowLint.Text
