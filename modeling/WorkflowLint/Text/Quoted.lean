/-
  WorkflowLint/Text/Quoted.lean
  =============================
  **Quoted texts.**

  Messages quote paths and arguments.  A quoted text stands between apostrophes,
  or between double quotes if it holds an apostrophe and no double quote.  The
  quote in use and backslashes are escaped, line feeds, carriage returns and tabs
  by their letters, and code points that are not printable by their numbers.
-/
import WorkflowLint.Text.CodePoint
import WorkflowLint.Text.Printable

namespace WorkflowLint.Text

/-- A code point in at least `width` hexadecimal digits. -/
def hexDigits (width code : Nat) : Text :=
  let digits := Nat.toDigits 16 code
  List.replicate (width - digits.length) '0' ++ digits

/-- The quote that code points are put between. -/
def quoteFor (codes : CodePoints) : Char :=
  if codes.contains '\''.toNat && !codes.contains '"'.toNat then '"' else '\''

/-- A code point as it is written between two quotes. -/
def quoteCode (quote : Char) (code : Nat) : Text :=
  if code = quote.toNat ∨ code = '\\'.toNat then ['\\', Char.ofNat code]
  else if code = '\n'.toNat then "\\n"
  else if code = '\r'.toNat then "\\r"
  else if code = '\t'.toNat then "\\t"
  else if isPrintable code then [Char.ofNat code]
  else if code < 0x100 then "\\x" ++ hexDigits 2 code
  else if code < 0x10000 then "\\u" ++ hexDigits 4 code
  else "\\U" ++ hexDigits 8 code

/-- Code points between quotes. -/
def quotedCodes (codes : CodePoints) : Text :=
  quoteFor codes :: codes.flatMap (quoteCode (quoteFor codes)) ++ [quoteFor codes]

/-- A text between quotes. -/
def quoted (text : Text) : Text := quotedCodes (CodePoints.ofText text)

/-- Texts between quotes in a list. -/
def quotedList (texts : List Text) : Text := "[" ++ join ", " (texts.map quoted) ++ "]"

end WorkflowLint.Text

namespace WorkflowLint

/-- The wording of the error of writing code points that are no text. -/
def EncodeError.message (error : EncodeError) : Text :=
  let place : Text :=
    if error.count = 1 then
      "character " ++ Text.quotedCodes [error.code] ++ " in position " ++ Text.ofNat error.position
    else
      "characters in position " ++ Text.ofNat error.position ++ "-"
        ++ Text.ofNat (error.position + error.count - 1)
  "'utf-8' codec can't encode " ++ place ++ ": surrogates not allowed"

end WorkflowLint
