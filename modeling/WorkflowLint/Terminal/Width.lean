/-
  WorkflowLint/Terminal/Width.lean
  ================================
  **The cells that text takes.**

  A character takes no cell, one or two.  A joiner takes none and hides the
  character after it.  A picture selector shows the character before it as a
  picture, which may be wider: the character before is the last one that takes a
  cell, unless a selector has already used it.
-/
import WorkflowLint.Terminal.WidthTable

namespace WorkflowLint.Terminal

/-- The cells that a character takes on its own. -/
def charWidth (c : Char) : Nat :=
  if Text.inRanges c.toNat zeroWidthRanges then 0
  else if Text.inRanges c.toNat doubleWidthRanges then 2
  else 1

/-- The character that joins the next one to the one before. -/
def joiner : Char := '\u200d'

/-- The character that asks for a picture. -/
def pictureSelector : Char := '\ufe0f'

/-- The cells that a character takes more if it is shown as a picture. -/
def pictureExcess (c : Char) : Nat := if Text.inRanges c.toNat pictureRanges then 1 else 0

/-- The cells that a text takes after a character that a selector may change, where
    its first character may be joined to what is before. -/
def widthAfter (changeable : Option Char) (joined : Bool) : Text → Nat
  | [] => 0
  | c :: rest =>
    if joined then widthAfter changeable false rest
    else if c = joiner then widthAfter changeable true rest
    else if c = pictureSelector then
      (changeable.map pictureExcess).getD 0 + widthAfter none false rest
    else if charWidth c = 0 then widthAfter changeable false rest
    else charWidth c + widthAfter (some c) false rest

/-- The cells that a text takes. -/
def width (text : Text) : Nat := widthAfter none false text

end WorkflowLint.Terminal
