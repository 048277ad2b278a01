/-
  WorkflowLint/Proofs/Json/Decode.lean
  ====================================
  **Decoding JSON texts.**

  A decoder for the whole grammar of JSON, by which exported texts are judged: blanks
  may stand around every token, numbers may have a fraction and an exponent, and
  characters may be escaped in every way that the grammar allows.  Each function reads
  what it is named for from the start of a text and returns it with what follows.

  Values nest to any depth, so the decoder is given the number of steps that it may
  take.  Each step uses up a character, so the length of a text is always enough.
-/
import WorkflowLint.Text.Basic

namespace WorkflowLint

/-- What a JSON text says.  A number is its sign, the natural number that its digits
    make and the power of ten that they are to be multiplied by. -/
inductive JsonValue where
  | null
  | bool (value : Bool)
  | number (negative : Bool) (digits : Nat) (exponent : Int)
  | str (value : Text)
  | array (items : List JsonValue)
  | object (members : List (Text × JsonValue))
deriving Repr

namespace JsonValue

/-- Whether a character is a blank between tokens. -/
def isSpace (c : Char) : Bool := c == ' ' || c == '\t' || c == '\n' || c == '\r'

/-- The text without blanks at its start. -/
def skipSpace (text : Text) : Text := text.dropWhile isSpace

/-! ### Strings -/

/-- The value of a hexadecimal digit. -/
def hexValue? (c : Char) : Option Nat :=
  if c.isDigit then some (c.toNat - '0'.toNat)
  else if 'a' ≤ c ∧ c ≤ 'f' then some (c.toNat - 'a'.toNat + 10)
  else if 'A' ≤ c ∧ c ≤ 'F' then some (c.toNat - 'A'.toNat + 10)
  else none

/-- A number of four hexadecimal digits. -/
def unit? : Text → Option (Nat × Text)
  | a :: b :: c :: d :: rest =>
    match hexValue? a, hexValue? b, hexValue? c, hexValue? d with
    | some a, some b, some c, some d => some (((a * 16 + b) * 16 + c) * 16 + d, rest)
    | _, _, _, _ => none
  | _ => none

/-- The second half of a character above U+FFFF: an escape of its own. -/
def lowHalf? : Text → Option (Nat × Text)
  | '\\' :: 'u' :: rest =>
    (unit? rest).filter fun (unit, _) => 0xDC00 ≤ unit && unit ≤ 0xDFFF
  | _ => none

/-- A character by the number of its UTF-16 unit, or by those of its two halves. -/
def unicode? (text : Text) : Option (Char × Text) :=
  match unit? text with
  | none => none
  | some (unit, rest) =>
    if 0xD800 ≤ unit ∧ unit ≤ 0xDBFF then
      (lowHalf? rest).map fun (low, rest) =>
        (Char.ofNat (0x10000 + (unit - 0xD800) * 0x400 + (low - 0xDC00)), rest)
    else if 0xDC00 ≤ unit ∧ unit ≤ 0xDFFF then none
    else some (Char.ofNat unit, rest)

/-- The character that an escape stands for, from behind the backslash on. -/
def escape? : Text → Option (Char × Text)
  | '"' :: rest => some ('"', rest)
  | '\\' :: rest => some ('\\', rest)
  | '/' :: rest => some ('/', rest)
  | 'b' :: rest => some ('\x08', rest)
  | 'f' :: rest => some ('\x0c', rest)
  | 'n' :: rest => some ('\n', rest)
  | 'r' :: rest => some ('\r', rest)
  | 't' :: rest => some ('\t', rest)
  | 'u' :: rest => unicode? rest
  | _ => none

/-- The characters of a string up to the quote that ends it, in so many steps. -/
def characters? : Nat → Text → Option (Text × Text)
  | 0, _ => none
  | _ + 1, [] => none
  | steps + 1, c :: rest =>
    if c = '"' then some ([], rest)
    else if c = '\\' then
      (escape? rest).bind fun (c, rest) =>
        (characters? steps rest).map fun (text, rest) => (c :: text, rest)
    else if c < ' ' then none
    else (characters? steps rest).map fun (text, rest) => (c :: text, rest)

/-- A string, from behind its first quote on. -/
def string? (text : Text) : Option (Text × Text) := characters? text.length text

/-! ### Numbers -/

/-- Whether a number is negative, and its text without the sign. -/
def sign : Text → Bool × Text
  | '-' :: rest => (true, rest)
  | text => (false, text)

/-- A natural number with a sign. -/
def signed (negative : Bool) (n : Nat) : Int := if negative then -n else n

/-- Digits, at least one. -/
def digits? (text : Text) : Option (Text × Text) :=
  let digits := text.takeWhile Char.isDigit
  if digits.isEmpty then none else some (digits, text.dropWhile Char.isDigit)

/-- The digits before the point; a zero stands alone. -/
def whole? (text : Text) : Option (Text × Text) :=
  (digits? text).filter fun (digits, _) => digits.head? != some '0' || digits.length == 1

/-- The digits behind the point, if there is one. -/
def fraction? : Text → Option (Text × Text)
  | '.' :: rest => digits? rest
  | text => some ([], text)

/-- Whether an exponent is negative, and its text without the sign. -/
def exponentSign : Text → Bool × Text
  | '+' :: rest => (false, rest)
  | text => sign text

/-- The exponent, if there is one. -/
def exponent? : Text → Option (Int × Text)
  | [] => some (0, [])
  | c :: rest =>
    if c = 'e' ∨ c = 'E' then
      (digits? (exponentSign rest).2).map fun (digits, after) =>
        (signed (exponentSign rest).1 (Nat.ofDigitChars 10 digits 0), after)
    else some (0, c :: rest)

/-- A number. -/
def number? (text : Text) : Option (JsonValue × Text) :=
  (whole? (sign text).2).bind fun (whole, rest) =>
    (fraction? rest).bind fun (fraction, rest) =>
      (exponent? rest).map fun (exponent, rest) =>
        (.number (sign text).1 (Nat.ofDigitChars 10 (whole ++ fraction) 0)
          (exponent - fraction.length), rest)

/-! ### Values -/

/-- A value that is written as a word, from behind the first letter on. -/
def word? (letters : Text) (value : JsonValue) (text : Text) : Option (JsonValue × Text) :=
  if letters.isPrefixOf text then some (value, text.drop letters.length) else none

mutual

/-- A value, in so many steps. -/
def value? : Nat → Text → Option (JsonValue × Text)
  | 0, _ => none
  | steps + 1, text =>
    match skipSpace text with
    | [] => none
    | c :: rest =>
      if c = '"' then (string? rest).map fun (text, rest) => (.str text, rest)
      else if c = '[' then
        if (skipSpace rest).head? = some ']' then some (.array [], (skipSpace rest).drop 1)
        else (items? steps rest).map fun (items, rest) => (.array items, rest)
      else if c = '{' then
        if (skipSpace rest).head? = some '}' then some (.object [], (skipSpace rest).drop 1)
        else (members? steps rest).map fun (members, rest) => (.object members, rest)
      else if c = 'n' then word? "ull" .null rest
      else if c = 't' then word? "rue" (.bool true) rest
      else if c = 'f' then word? "alse" (.bool false) rest
      else number? (c :: rest)

/-- The items of an array that has some, up to the bracket that ends it. -/
def items? : Nat → Text → Option (List JsonValue × Text)
  | 0, _ => none
  | steps + 1, text =>
    (value? steps text).bind fun (value, rest) =>
      match skipSpace rest with
      | ',' :: rest => (items? steps rest).map fun (items, rest) => (value :: items, rest)
      | ']' :: rest => some ([value], rest)
      | _ => none

/-- The members of an object that has some, up to the brace that ends it. -/
def members? : Nat → Text → Option (List (Text × JsonValue) × Text)
  | 0, _ => none
  | steps + 1, text =>
    match skipSpace text with
    | '"' :: rest =>
      (string? rest).bind fun (key, rest) =>
        match skipSpace rest with
        | ':' :: rest =>
          (value? steps rest).bind fun (value, rest) =>
            match skipSpace rest with
            | ',' :: rest =>
              (members? steps rest).map fun (members, rest) => ((key, value) :: members, rest)
            | '}' :: rest => some ([(key, value)], rest)
            | _ => none
        | _ => none
    | _ => none

end

/-- The value that a whole text stands for. -/
def decode? (text : Text) : Option JsonValue :=
  (value? text.length text).bind fun (value, rest) =>
    if (skipSpace rest).isEmpty then some value else none

end JsonValue

end WorkflowLint
