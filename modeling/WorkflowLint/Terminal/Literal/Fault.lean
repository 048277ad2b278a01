/-
  WorkflowLint/Terminal/Literal/Fault.lean
  ========================================
  **Why a text is not a literal.**

  A text may break the rules by which characters form words, numbers and strings,
  or the rules by which these form expressions.  An expression that follows the
  rules may still not be a literal, or ask for the comparison of collections that
  cannot be compared.
-/
import WorkflowLint.Number.DigitLimit

namespace WorkflowLint.Terminal.Literal

/-- The ways in which a number is written. -/
inductive Numeral where
  | decimal
  | hexadecimal
  | octal
  | binary
  | imaginary
deriving DecidableEq, Repr

/-- The name of a way of writing numbers. -/
def Numeral.name : Numeral → Text
  | .decimal => "decimal"
  | .hexadecimal => "hexadecimal"
  | .octal => "octal"
  | .binary => "binary"
  | .imaginary => "imaginary"

/-- The collections that cannot be compared. -/
inductive Collection where
  | mapping
  | set
deriving DecidableEq, Repr

/-- The name of a kind of collections. -/
def Collection.name : Collection → Text
  | .mapping => "dict"
  | .set => "set"

/-- Why a text is not a literal. -/
inductive Fault where
  | unmatched (closing : Char)
  | mismatched (opening closing : Char)
  | nestedTooDeep
  | neverClosed (opening : Char)
  | unclosedString
  | unclosedLongString
  | badNumber (numeral : Numeral)
  | badDigit (digit : Char) (numeral : Numeral)
  | leadingZeros
  | tooManyDigits (count : Nat)
  | strayBackslash
  | strayCharacter (c : Char)
  | hiddenCharacter (c : Char)
  | mixedStrings
  | wideOctets
  | invalid
  | missingComma
  | missingElse
  | missingColon
  | missingValue
  | missingParentheses (name : Text)
  | starred
  | starredValue
  | namedAssignment
  | assignment (target : Text)
  | argumentAssignment
  | uncomparable (kind : Collection)
  | noLiteral
deriving DecidableEq, Repr

namespace Fault

/-- The code point of a character in at least four digits. -/
def codePointText (c : Char) : Text :=
  let digits := (Nat.toDigits 16 c.toNat).map Char.toUpper
  "U+" ++ List.replicate (4 - digits.length) '0' ++ digits

/-- The wording of a fault. -/
def message : Fault → Text
  | .unmatched closing => "unmatched '" ++ [closing] ++ "'"
  | .mismatched opening closing =>
    "closing parenthesis '" ++ [closing] ++ "' does not match opening parenthesis '" ++ [opening]
      ++ "'"
  | .nestedTooDeep => "too many nested parentheses"
  | .neverClosed opening => "'" ++ [opening] ++ "' was never closed"
  | .unclosedString => "unterminated string literal (detected at line 1)"
  | .unclosedLongString => "unterminated triple-quoted string literal (detected at line 1)"
  | .badNumber numeral => "invalid " ++ numeral.name ++ " literal"
  | .badDigit digit numeral => "invalid digit '" ++ [digit] ++ "' in " ++ numeral.name ++ " literal"
  | .leadingZeros =>
    "leading zeros in decimal integer literals are not permitted; "
      ++ "use an 0o prefix for octal integers"
  | .tooManyDigits count =>
    tooManyDigitsText count
      ++ " - Consider hexadecimal for huge integer literals to avoid decimal conversion limits."
  | .strayBackslash => "unexpected character after line continuation character"
  | .strayCharacter c => "invalid character '" ++ [c] ++ "' (" ++ codePointText c ++ ")"
  | .hiddenCharacter c => "invalid non-printable character " ++ codePointText c
  | .mixedStrings => "cannot mix bytes and nonbytes literals"
  | .wideOctets => "bytes can only contain ASCII literal characters"
  | .invalid => "invalid syntax"
  | .missingComma => "invalid syntax. Perhaps you forgot a comma?"
  | .missingElse => "expected 'else' after 'if' expression"
  | .missingColon => "':' expected after dictionary key"
  | .missingValue => "expression expected after dictionary key and ':'"
  | .missingParentheses name =>
    "Missing parentheses in call to '" ++ name ++ "'. Did you mean " ++ name ++ "(...)?"
  | .starred => "cannot use starred expression here"
  | .starredValue => "cannot use a starred expression in a dictionary value"
  | .namedAssignment => "invalid syntax. Maybe you meant '==' or ':=' instead of '='?"
  | .assignment target =>
    "cannot assign to " ++ target ++ " here. Maybe you meant '==' instead of '='?"
  | .argumentAssignment => "expression cannot contain assignment, perhaps you meant \"==\"?"
  | .uncomparable kind => "unhashable type: '" ++ kind.name ++ "'"
  | .noLiteral => "malformed node or string"

/-- Whether a fault is about how a literal is written, not about what it denotes. -/
def isWritten : Fault → Bool
  | .uncomparable _ => false
  | .noLiteral => false
  | _ => true

end Fault

end WorkflowLint.Terminal.Literal
