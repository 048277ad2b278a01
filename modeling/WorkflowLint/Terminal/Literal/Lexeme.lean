/-
  WorkflowLint/Terminal/Literal/Lexeme.lean
  =========================================
  **What literals are written with.**

  A literal is a row of lexemes: brackets, marks, operators, numbers, strings and
  words.  Blanks part them, and a number sign or a backslash ends the row.  Brackets
  must match.
-/
import WorkflowLint.Terminal.Literal.Fault
import WorkflowLint.Text.Printable
import WorkflowLint.Text.WordChar

namespace WorkflowLint.Terminal.Literal

/-- The kinds of strings: text, octets, octets with other characters among them, and
    text with expressions in it. -/
inductive StringKind where
  | text
  | octets
  | wideOctets
  | template
deriving DecidableEq, Repr

/-- A smallest part of a literal.  A number comes with the number of its digits if it
    is written in decimal digits only. -/
inductive Lexeme where
  | opening (bracket : Char)
  | closing
  | comma
  | colon
  | equals
  | star
  | sign
  | complement
  | dot
  | ellipsis
  | operator
  | stray
  | backslash
  | number (imaginary : Bool) (digits : Nat)
  | string (kind : StringKind)
  | word (name : Text)
deriving DecidableEq, Repr

/-! ### Numbers -/

/-- Whether a character may stand in a word. -/
def isWordPart (c : Char) : Bool := c.isAlphanum || c == '_' || 128 ≤ c.toNat

/-- The words that may follow a number without a blank. -/
def joinedWords : List Text := ["and", "else", "for", "not", "or"]

/-- How other words start that may follow a number without a blank. -/
def joinedStarts : List Text := ["if", "in", "is"]

/-- Whether a word that may follow a number without a blank stands at the start of a
    text. -/
def startsJoined (text : Text) : Bool :=
  joinedStarts.any (·.isPrefixOf text) || joinedWords.contains (text.takeWhile isWordPart)

/-- A number with what is left after it, unless a word is stuck to it. -/
def endNumber (numeral : Numeral) (number : Lexeme) (rest : Text) :
    Except Fault (Lexeme × Text) :=
  if startsJoined rest then .ok (number, rest)
  else if (rest.head?.map fun c => c.isAlphanum || c == '_').getD false then
    .error (.badNumber numeral)
  else .ok (number, rest)

/-- The length of a row of digits with single underscores between them, and what is
    left after it; or what follows an underscore that no digit follows. -/
def digitRow (isDigit : Char → Bool) : Text → Except Text (Nat × Text)
  | [] => .ok (0, [])
  | c :: rest =>
    if isDigit c then (digitRow isDigit rest).map fun (count, rest) => (count + 1, rest)
    else if c = '_' then
      if (rest.head?.map isDigit).getD false then digitRow isDigit rest else .error rest
    else .ok (0, c :: rest)

/-- A fault of a number whose digits end before a text. -/
def digitFault (numeral : Numeral) : Text → Fault
  | [] => .badNumber numeral
  | c :: _ => if c.isDigit then .badDigit c numeral else .badNumber numeral

/-- A number whose base has been given. -/
def basedNumber (numeral : Numeral) (isDigit : Char → Bool) (text : Text) :
    Except Fault (Lexeme × Text) :=
  match digitRow isDigit text with
  | .error rest => .error (digitFault numeral rest)
  | .ok (count, rest) =>
    if count = 0 || (rest.head?.map Char.isDigit).getD false then
      .error (digitFault numeral rest)
    else endNumber numeral (.number false 0) rest

/-- A row of decimal digits. -/
def decimalRow (text : Text) : Except Fault (Nat × Text) :=
  match digitRow Char.isDigit text with
  | .error _ => .error (.badNumber .decimal)
  | .ok result => .ok result

/-- The end of a number that may be imaginary. -/
def endDecimal (digits : Nat) : Text → Except Fault (Lexeme × Text)
  | 'j' :: rest => endNumber .imaginary (.number true 0) rest
  | 'J' :: rest => endNumber .imaginary (.number true 0) rest
  | rest => endNumber .decimal (.number false digits) rest

/-- The exponent of a number, if it has one, and its end. -/
def exponentPart (digits : Nat) : Text → Except Fault (Lexeme × Text)
  | [] => endDecimal digits []
  | e :: rest =>
    if e = 'e' || e = 'E' then
      match rest with
      | c :: more =>
        if c.isDigit then do
          let (_, rest) ← decimalRow rest
          endDecimal 0 rest
        else if c = '+' || c = '-' then
          if (more.head?.map Char.isDigit).getD false then do
            let (_, rest) ← decimalRow more
            endDecimal 0 rest
          else .error (.badNumber .decimal)
        else endNumber .decimal (.number false digits) (e :: rest)
      | [] => endNumber .decimal (.number false digits) (e :: rest)
    else endDecimal digits (e :: rest)

/-- Whether a row of digits starts with a zero that does not count. -/
def hasLeadingZero (digits : Text) : Bool :=
  digits.head? == some '0' && digits.any fun c => c.isDigit && c != '0'

/-- A number in decimal digits, which may have a point. -/
def decimalNumber (text : Text) : Except Fault (Lexeme × Text) := do
  let (count, rest) ← decimalRow text
  match rest with
  | '.' :: rest => do
    let (_, rest) ←
      if (rest.head?.map Char.isDigit).getD false then decimalRow rest else pure (0, rest)
    exponentPart 0 rest
  | _ =>
    let isWhole := match rest with
      | c :: _ => !("eEjJ".toList.contains c)
      | [] => true
    if isWhole && hasLeadingZero (text.take (text.length - rest.length)) then
      .error .leadingZeros
    else exponentPart count rest

/-- Whether a character is a hexadecimal digit. -/
def isHexDigit (c : Char) : Bool :=
  c.isDigit || ('a' ≤ c && c ≤ 'f') || ('A' ≤ c && c ≤ 'F')

/-- Whether a character is an octal digit. -/
def isOctalDigit (c : Char) : Bool := '0' ≤ c && c ≤ '7'

/-- Whether a character is a binary digit. -/
def isBinaryDigit (c : Char) : Bool := c == '0' || c == '1'

/-- The number at the start of a text that starts with a digit. -/
def number : Text → Except Fault (Lexeme × Text)
  | '0' :: base :: rest =>
    if base = 'x' || base = 'X' then basedNumber .hexadecimal isHexDigit rest
    else if base = 'o' || base = 'O' then basedNumber .octal isOctalDigit rest
    else if base = 'b' || base = 'B' then basedNumber .binary isBinaryDigit rest
    else decimalNumber ('0' :: base :: rest)
  | text => decimalNumber text

/-! ### Strings -/

/-- Whether a character is a quote. -/
def isQuote (c : Char) : Bool := c == '"' || c == '\''

/-- The kind of strings that starts with some letters. -/
def stringKind? (letters : Text) : Option StringKind :=
  let letters := letters.map Char.toLower
  if letters.isEmpty || letters == "u" || letters == "r" then some .text
  else if letters == "b" || letters == "br" || letters == "rb" then some .octets
  else if letters == "f" || letters == "fr" || letters == "rf" then some .template
  else none

/-- The start of a string: its kind, its quote and what follows the quote. -/
def stringStart? (text : Text) : Option (StringKind × Char × Text) :=
  let letters := text.takeWhile Char.isAlpha
  match text.drop letters.length with
  | [] => none
  | quote :: rest =>
    if isQuote quote then (stringKind? letters).map (·, quote, rest) else none

/-- What is left after the end of a string in single quotes. -/
def afterQuote? (quote : Char) : Text → Option Text
  | [] => none
  | '\\' :: _ :: rest => afterQuote? quote rest
  | c :: rest => if c = quote then some rest else afterQuote? quote rest

/-- What is left after the end of a string in triple quotes, if some quotes stand right
    before. -/
def afterQuotes? (quote : Char) (count : Nat) : Text → Option Text
  | [] => none
  | c :: rest =>
    if c = quote then
      if count = 2 then some rest else afterQuotes? quote (count + 1) rest
    else if c = '\\' then
      match rest with
      | [] => none
      | _ :: rest => afterQuotes? quote 0 rest
    else afterQuotes? quote 0 rest

/-- The string that starts after a quote. -/
def string (kind : StringKind) (quote : Char) (text : Text) : Except Fault (Lexeme × Text) :=
  let (rest?, fault) :=
    match text with
    | c :: d :: rest =>
      if c = quote && d = quote then (afterQuotes? quote 0 rest, Fault.unclosedLongString)
      else (afterQuote? quote text, .unclosedString)
    | _ => (afterQuote? quote text, .unclosedString)
  match rest? with
  | none => .error fault
  | some rest =>
    let isWide := (text.take (text.length - rest.length)).any fun c => 128 ≤ c.toNat
    .ok (.string (if kind = .octets && isWide then .wideOctets else kind), rest)

/-! ### Words and operators -/

/-- The word at the start of a text, all of whose characters must be able to stand in
    a word. -/
def word (text : Text) : Except Fault (Lexeme × Text) :=
  let name := text.takeWhile isWordPart
  match name.find? fun c => !Text.isWordChar c with
  | none => .ok (.word name, text.drop name.length)
  | some c =>
    .error (if Text.isPrintable c.toNat then .strayCharacter c else .hiddenCharacter c)

/-- The marks and operators, those before others that they start with. -/
def operators : List (Text × Lexeme) :=
  [("...", .ellipsis), ("**=", .stray), ("//=", .stray), ("<<=", .stray), (">>=", .stray),
   ("**", .operator), ("//", .operator), ("<<", .operator), (">>", .operator),
   ("<=", .operator), (">=", .operator), ("==", .operator), ("!=", .operator),
   ("<>", .stray), ("->", .stray), (":=", .stray), ("+=", .stray), ("-=", .stray)]

/-- More of them. -/
def shortOperators : List (Text × Lexeme) :=
  [("*=", .stray), ("/=", .stray), ("%=", .stray), ("&=", .stray), ("|=", .stray),
   ("^=", .stray), ("@=", .stray), (",", .comma), (":", .colon), ("=", .equals), ("*", .star),
   ("+", .sign), ("-", .sign), ("~", .complement), (".", .dot), ("/", .operator),
   ("%", .operator), ("@", .operator), ("&", .operator), ("|", .operator), ("^", .operator),
   ("<", .operator), (">", .operator)]

/-- The mark or operator at the start of a text, where any other character stands for
    itself. -/
def operator (text : Text) : Lexeme × Text :=
  match (operators ++ shortOperators).find? fun entry => entry.1.isPrefixOf text with
  | some (mark, lexeme) => (lexeme, text.drop mark.length)
  | none => (.stray, text.drop 1)

/-- The lexeme at the start of a text, which is no bracket. -/
def lexeme (c : Char) (rest : Text) : Except Fault (Lexeme × Text) :=
  if c.isDigit || c == '.' && (rest.head?.map Char.isDigit).getD false then number (c :: rest)
  else
    match stringStart? (c :: rest) with
    | some (kind, quote, body) => string kind quote body
    | none =>
      if isWordPart c then word (c :: rest)
      else if !Text.isPrintable c.toNat then .error (.hiddenCharacter c)
      else .ok (operator (c :: rest))

/-! ### Rows of lexemes -/

/-- The opening brackets with the closing ones. -/
def brackets : List (Char × Char) := [('(', ')'), ('[', ']'), ('\x7b', '\x7d')]

/-- The greatest number of brackets inside each other. -/
def depthLimit : Nat := 200

/-- The lexemes of a text after some brackets that are open, the last one first.  The
    number bounds the length of the text. -/
def lexemesFrom : Nat → List Char → Text → Except Fault (List Lexeme)
  | 0, _, _ => .ok []
  | _, _, [] => .ok []
  | bound + 1, opened, c :: rest =>
    if c = ' ' || c = '\t' || c = '\x0c' then lexemesFrom bound opened rest
    else if c = '#' then .ok []
    else if c = '\\' then .ok [.backslash]
    else if brackets.any (·.1 == c) then
      if depthLimit ≤ opened.length then .error .nestedTooDeep
      else (lexemesFrom bound (c :: opened) rest).map (.opening c :: ·)
    else if brackets.any (·.2 == c) then
      match opened with
      | [] => .error (.unmatched c)
      | opening :: opened =>
        if brackets.contains (opening, c) then
          (lexemesFrom bound opened rest).map (.closing :: ·)
        else .error (.mismatched opening c)
    else do
      let (lexeme, rest) ← lexeme c rest
      let lexemes ← lexemesFrom bound opened rest
      pure (lexeme :: lexemes)

/-- The lexemes of a text. -/
def lexemes (text : Text) : Except Fault (List Lexeme) := lexemesFrom text.length [] text

end WorkflowLint.Terminal.Literal
