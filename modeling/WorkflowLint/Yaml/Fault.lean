/-
  WorkflowLint/Yaml/Fault.lean
  ============================
  **Why a text has no value.**

  Configurations are written in a part of YAML: mappings and lists in block and in
  flow style, plain scalars and quoted ones, anchors and aliases, comments and the
  marks around one document.  A text outside this part is refused.

  Worse than a refusal is a scalar that has the form of a number or a date without
  being one, or a list that cannot be compared where a key is expected: such a value
  is an error of its own, which ends everything.
-/
import WorkflowLint.Number.DigitLimit
import WorkflowLint.Text.Quoted

namespace WorkflowLint.Yaml

/-! ### Values that do not exist -/

/-- The parts of a date and a time that have a range. -/
inductive ClockPart where
  | month
  | day
  | hour
  | minute
  | second
deriving DecidableEq, Repr

/-- What is said of a part that is out of its range. -/
def ClockPart.rangeMessage : ClockPart → Text
  | .month => "month must be in 1..12"
  | .day => "day is out of range for month"
  | .hour => "hour must be in 0..23"
  | .minute => "minute must be in 0..59"
  | .second => "second must be in 0..59"

/-- The values that cannot be compared. -/
inductive Uncomparable where
  | list
  | mapping
deriving DecidableEq, Repr

/-- The name of a kind of values that cannot be compared. -/
def Uncomparable.name : Uncomparable → Text
  | .list => "list"
  | .mapping => "dict"

/-- Why a value does not exist. -/
inductive ValueError where
  | codePoint
  | hugeCodePoint
  | noDigits (base : Nat)
  | noNumber (text : Text)
  | tooManyDigits (count : Nat)
  | tooLongToWrite
  | yearZero
  | outOfRange (part : ClockPart)
  | offset (span : Text)
  | endOfCalendar
  | uncomparable (kind : Uncomparable)
deriving DecidableEq, Repr

namespace ValueError

/-- The wording of an error. -/
def message : ValueError → Text
  | .codePoint => "chr() arg not in range(0x110000)"
  | .hugeCodePoint => "Python int too large to convert to C int"
  | .noDigits base => "invalid literal for int() with base " ++ Text.ofNat base ++ ": ''"
  | .noNumber text => "could not convert string to float: " ++ Text.quoted text
  | .tooManyDigits count => tooManyDigitsText count
  | .tooLongToWrite => digitLimitText ++ digitLimitAdvice
  | .yearZero => "year 0 is out of range"
  | .outOfRange part => part.rangeMessage
  | .offset span =>
    "offset must be a timedelta strictly between -timedelta(hours=24) and "
      ++ "timedelta(hours=24), not " ++ span ++ "."
  | .endOfCalendar => "date value out of range"
  | .uncomparable kind => "unhashable type: '" ++ kind.name ++ "'"

end ValueError

/-! ### Faults -/

/-- Why a text has no value: it is refused, or a value in it does not exist. -/
inductive Fault where
  | encoding
  | unprintable
  | unexpectedCharacter
  | missingColon
  | misplacedEntry
  | misplacedKey
  | misplacedValue
  | misplacedBracket
  | unclosedQuote
  | unknownEscape
  | emptyName
  | misplacedNameEnd
  | unexpectedLexeme
  | nestedTooDeep
  | unknownAlias
  | severalDocuments
  | duplicateKey
  | compoundKey
  | misplacedMerge
  | noValue
  | value (error : ValueError)
deriving DecidableEq, Repr

end WorkflowLint.Yaml
