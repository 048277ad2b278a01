/-
  WorkflowLint/Json/Basic.lean
  ============================
  **JSON texts.**

  JSON values and how they are written: either on one line or over several lines
  with two spaces per level.  What is written is pure ASCII: every character
  outside the printable ASCII range is escaped, above U+FFFF by two escapes for
  the halves of its UTF-16 form.
-/
import WorkflowLint.Text.Basic

namespace WorkflowLint

/-- A JSON value.  The members of an object are kept in order, and a floating-point
    number is given as it is written. -/
inductive Json where
  | null
  | bool (value : Bool)
  | int (value : Int)
  | float (literal : Text)
  | str (value : Text)
  | array (items : List Json)
  | object (members : List (Text × Json))
deriving Repr

namespace Json

/-! ### Strings -/

/-- A number in `width` hexadecimal digits, or more if it needs more. -/
def hex (width : Nat) (n : Nat) : Text :=
  let digits := Nat.toDigits 16 n
  List.replicate (width - digits.length) '0' ++ digits

/-- The escape of one UTF-16 unit. -/
def escapeUnit (unit : Nat) : Text := "\\u" ++ hex 4 unit

/-- A character as it is written inside a string. -/
def escapeChar (c : Char) : Text :=
  if c = '"' then "\\\""
  else if c = '\\' then "\\\\"
  else if c = '\n' then "\\n"
  else if c = '\r' then "\\r"
  else if c = '\t' then "\\t"
  else if c = '\x08' then "\\b"
  else if c = '\x0c' then "\\f"
  else if ' ' ≤ c ∧ c ≤ '~' then [c]
  else if c.toNat < 0x10000 then escapeUnit c.toNat
  else
    escapeUnit (0xD800 + (c.toNat - 0x10000) / 0x400)
      ++ escapeUnit (0xDC00 + (c.toNat - 0x10000) % 0x400)

/-- A string in quotes. -/
def quote (text : Text) : Text := '"' :: text.flatMap escapeChar ++ ['"']

/-! ### Values -/

/-- A value that has no parts, or `none` for an array or object with parts. -/
def atom? : Json → Option Text
  | .null => some "null"
  | .bool true => some "true"
  | .bool false => some "false"
  | .int value => some (Text.ofInt value)
  | .float literal => some literal
  | .str value => some (quote value)
  | .array [] => some "[]"
  | .object [] => some "{}"
  | _ => none

/-- A line break with the indentation of a level. -/
def newline (level : Nat) : Text := '\n' :: List.replicate (2 * level) ' '

mutual

/-- A value over several lines, the first of which is at `level`. -/
def pretty (level : Nat) : Json → Text
  | .array (item :: items) =>
    '[' :: newline (level + 1) ++ pretty (level + 1) item ++ prettyItems (level + 1) items
      ++ newline level ++ [']']
  | .object ((key, value) :: members) =>
    '{' :: newline (level + 1) ++ quote key ++ ": " ++ pretty (level + 1) value
      ++ prettyMembers (level + 1) members ++ newline level ++ ['}']
  | value => (atom? value).getD []

/-- The items of an array after the first. -/
def prettyItems (level : Nat) : List Json → Text
  | [] => []
  | item :: items => ',' :: newline level ++ pretty level item ++ prettyItems level items

/-- The members of an object after the first. -/
def prettyMembers (level : Nat) : List (Text × Json) → Text
  | [] => []
  | (key, value) :: members =>
    ',' :: newline level ++ quote key ++ ": " ++ pretty level value
      ++ prettyMembers level members

end

mutual

/-- A value on one line. -/
def compact : Json → Text
  | .array (item :: items) => '[' :: compact item ++ compactItems items ++ [']']
  | .object ((key, value) :: members) =>
    '{' :: quote key ++ ": " ++ compact value ++ compactMembers members ++ ['}']
  | value => (atom? value).getD []

/-- The items of an array after the first. -/
def compactItems : List Json → Text
  | [] => []
  | item :: items => ", " ++ compact item ++ compactItems items

/-- The members of an object after the first. -/
def compactMembers : List (Text × Json) → Text
  | [] => []
  | (key, value) :: members =>
    ", " ++ quote key ++ ": " ++ compact value ++ compactMembers members

end

/-- A value that may be missing. -/
def ofOption {α : Type} (write : α → Json) : Option α → Json
  | none => .null
  | some value => write value

end Json

end WorkflowLint
