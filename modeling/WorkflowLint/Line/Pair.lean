/-
  WorkflowLint/Line/Pair.lean
  ===========================
  **Key and value of a line.**

  The colon between key and value is followed by a blank or ends the text, so
  `foo:bar` holds no pair.  A key in quotes reaches to the next such quote, and
  a text that is quoted as a whole holds no pair either.  Keys are never read as
  numbers or booleans.
-/
import WorkflowLint.Line.Value

namespace WorkflowLint.Line

/-- Whether a text is empty or starts with a blank. -/
def startsBlank : Text → Bool
  | [] => true
  | c :: _ => Text.isBlank c

/-- What stands before and after the first colon that is followed by a blank or
    ends the text. -/
def cutAtColon? : Text → Option (Text × Text)
  | [] => none
  | c :: rest =>
    if c = ':' ∧ startsBlank rest = true then some ([], rest)
    else (cutAtColon? rest).map fun (before, after) => (c :: before, after)

/-- The pair of a text whose key is not in quotes. -/
def splitPlainPair (text : Text) : Option (Text × Text) :=
  match cutAtColon? text with
  | none => none
  | some ([], _) => none
  | some (before, after) => some (stripQuotes (Text.trim before), Text.trim after)

/-- The value that follows a quoted key, if a colon comes next. -/
def valueAfterKey? (rest : Text) : Option Text :=
  match Text.trimLeft rest with
  | ':' :: after => if startsBlank after then some (Text.trim after) else none
  | _ => none

/-- The key and the value of a text that holds a pair. -/
def splitPair : Text → Option (Text × Text)
  | [] => none
  | c :: rest =>
    if isQuote c then
      match Text.cutAt? c rest with
      | some (key, after) => (valueAfterKey? after).map fun value => (key, value)
      | none => splitPlainPair (c :: rest)
    else splitPlainPair (c :: rest)

end WorkflowLint.Line
