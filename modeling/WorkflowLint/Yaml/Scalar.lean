/-
  WorkflowLint/Yaml/Scalar.lean
  =============================
  **Scalars and names as written.**

  Scalars may go over several lines.  The white space around a line break is then
  dropped and the break itself becomes a space, or, if empty lines follow, one
  line feed per empty line.  Three characters break a line beside the line feed,
  the next line and the two separators of Unicode; the separators stand for
  themselves instead of becoming spaces.  Every reader here returns what it read
  together with the number of characters that it took.
-/
import WorkflowLint.Yaml.Fault

namespace WorkflowLint.Yaml

/-! ### Characters -/

/-- Whether a character breaks a line. -/
def isBreak (c : Char) : Bool := c == '\n' || c == '\u0085' || c == '\u2028' || c == '\u2029'

/-- What a line break stands for if it is kept. -/
def keptBreak (c : Char) : Char := if c = '\u0085' then '\n' else c

/-- Whether nothing, a space, a tab or a line break stands at the start. -/
def endsWord : Text → Bool
  | [] => true
  | c :: _ => c == ' ' || c == '\t' || isBreak c

/-- Whether a mark of three characters stands alone at the start. -/
def isMark (mark text : Text) : Bool :=
  mark.isPrefixOf text && endsWord (text.drop mark.length)

/-- Whether a mark that starts or ends a document stands at the start. -/
def isDocumentMark (text : Text) : Bool := isMark "---" text || isMark "..." text

/-- Whether a character may belong to the name of an anchor. -/
def isNameChar (c : Char) : Bool :=
  Text.inRanges c.toNat
    [(0x21, 0x7E), (0xA0, 0xD7FF), (0xE000, 0xFEFE), (0xFF00, 0xFFFD), (0x10000, 0x10FFFF)]
  && !(",[]\x7b\x7d".toList.contains c)

/-- Whether the text after a name lets it end there. -/
def endsName : Text → Bool
  | [] => true
  | c :: rest => endsWord (c :: rest) || "?:,[]\x7b\x7d%@\x60".toList.contains c

/-- The name at the start of a text. -/
def readName (text : Text) : Except Fault (Text × Nat) :=
  let name := text.takeWhile isNameChar
  if name.isEmpty then .error .emptyName
  else if !endsName (text.drop name.length) then .error .misplacedNameEnd
  else .ok (name, name.length)

/-- The column after a character.  Only line feeds start a line, and a byte order mark
    takes no column. -/
def columnAfter (column : Nat) (c : Char) : Nat :=
  if c = '\n' then 0 else if c = '\ufeff' then column else column + 1

/-! ### White space inside scalars -/

/-- The white space since the last character of a scalar: blanks on one line, the
    first line break with those after it, or the line breaks after an escaped one. -/
inductive Gap where
  | blanks (text : Text)
  | breaks (first : Char) (others : Text)
  | escaped (kept : Text)
deriving DecidableEq, Repr

namespace Gap

/-- No white space. -/
def none : Gap := .blanks []

/-- What white space stands for between two characters of a scalar. -/
def folded : Gap → Text
  | .blanks text => text
  | .breaks '\n' [] => [' ']
  | .breaks '\n' others => others
  | .breaks first others => first :: others
  | .escaped kept => kept

/-- The white space with one more blank. -/
def blank (c : Char) : Gap → Gap
  | .blanks text => .blanks (text ++ [c])
  | gap => gap

/-- The white space with one more line break. -/
def lineBreak (c : Char) : Gap → Gap
  | .blanks _ => .breaks (keptBreak c) []
  | .breaks first others => .breaks first (others ++ [keptBreak c])
  | .escaped kept => .escaped (kept ++ [keptBreak c])

/-- Whether there is no white space. -/
def isNone : Gap → Bool
  | .blanks text => text.isEmpty
  | _ => false

/-- Whether a line ends in the white space. -/
def isBroken : Gap → Bool
  | .blanks _ => false
  | _ => true

end Gap

/-! ### Plain scalars -/

/-- The characters that mark something else at the start of a scalar. -/
def indicators : Text := "-?:,[]\x7b\x7d#&*!|>'\"%@\x60"

/-- Whether a plain scalar starts with a character, in brackets or not, if a text
    follows. -/
def startsPlain (inFlow : Bool) (c : Char) (rest : Text) : Bool :=
  if c = '-' then !endsWord rest
  else if c = ':' then
    if inFlow then !(rest.head?.any fun next => next == ' ' || next == '\t') else !endsWord rest
  else if c = '?' then !inFlow && !endsWord rest
  else !(endsWord (c :: rest) || indicators.contains c)

/-- Whether a character before a text goes on a plain scalar. -/
def continuesPlain (inFlow : Bool) (c : Char) (rest : Text) : Bool :=
  if c = ':' then !endsWord rest
  else !endsWord (c :: rest) && !(inFlow && ",[]\x7b\x7d".toList.contains c)

/-- A plain scalar that was read: its text, the number of characters up to what comes
    after the white space behind it, and whether a line ends in that white space. -/
structure PlainText where
  text : Text
  length : Nat
  broken : Bool
deriving DecidableEq, Repr

/-- The rest of a plain scalar from a column on, after white space of some width.
    Outside brackets it goes on only at the column `least` or to the right of it. -/
def plainFrom (inFlow : Bool) (least column : Nat) (gap : Gap) (width : Nat) : Text → PlainText
  | [] => ⟨[], width, gap.isBroken⟩
  | c :: rest =>
    if isBreak c then
      if isDocumentMark rest then ⟨[], width + 1, true⟩
      else plainFrom inFlow least (columnAfter column c) (gap.lineBreak c) (width + 1) rest
    else if c = ' ' then
      plainFrom inFlow least (columnAfter column c) (gap.blank c) (width + 1) rest
    else if (!gap.isNone && (c == '#' || (!inFlow && column < least)))
        || !continuesPlain inFlow c rest then
      ⟨[], width, gap.isBroken⟩
    else
      let tail := plainFrom inFlow least (columnAfter column c) .none 0 rest
      ⟨gap.folded ++ c :: tail.text, width + 1 + tail.length, tail.broken⟩

/-- The plain scalar at the start of a text that starts at a column. -/
def readPlain (inFlow : Bool) (least column : Nat) (text : Text) : PlainText :=
  plainFrom inFlow least column .none 0 text

/-! ### Quoted scalars -/

/-- Where a reader is inside a quoted scalar: in the text, after a backslash, or
    inside the digits of a code point. -/
inductive QuoteState where
  | text (gap : Gap)
  | backslash
  | code (owed value : Nat)
deriving DecidableEq, Repr

/-- What the character after a backslash stands for, if it stands for one
    character. -/
def escaped? : Char → Option Char
  | '0' => some '\x00'
  | 'a' => some '\x07'
  | 'b' => some '\x08'
  | 't' => some '\t'
  | '\t' => some '\t'
  | 'n' => some '\n'
  | 'v' => some '\x0b'
  | 'f' => some '\x0c'
  | 'r' => some '\r'
  | 'e' => some '\x1b'
  | ' ' => some ' '
  | '"' => some '"'
  | '/' => some '/'
  | '\\' => some '\\'
  | 'N' => some '\u0085'
  | '_' => some '\u00a0'
  | 'L' => some '\u2028'
  | 'P' => some '\u2029'
  | _ => none

/-- How many digits follow the letter after a backslash. -/
def codeDigits? : Char → Option Nat
  | 'x' => some 2
  | 'u' => some 4
  | 'U' => some 8
  | _ => none

/-- The value of a hexadecimal digit. -/
def hexValue? (c : Char) : Option Nat :=
  if '0' ≤ c ∧ c ≤ '9' then some (c.toNat - '0'.toNat)
  else if 'a' ≤ c ∧ c ≤ 'f' then some (c.toNat - 'a'.toNat + 10)
  else if 'A' ≤ c ∧ c ≤ 'F' then some (c.toNat - 'A'.toNat + 10)
  else none

/-- The code point with a number.  Halves of surrogate pairs are code points. -/
def codePoint (number : Nat) : Except Fault Nat :=
  if number < 0x110000 then .ok number
  else if number < 0x80000000 then .error (.value .codePoint)
  else .error (.value .hugeCodePoint)

/-- Puts code points before those that were read, and counts the characters that they
    were written with. -/
def prepend (codes : CodePoints) (length : Nat) :
    Except Fault (CodePoints × Nat) → Except Fault (CodePoints × Nat)
  | .error fault => .error fault
  | .ok (rest, restLength) => .ok (codes ++ rest, length + restLength)

/-- The code points that white space stands for. -/
def Gap.codes (gap : Gap) : CodePoints := CodePoints.ofText gap.folded

/-- The rest of a quoted scalar, its closing quote included. -/
def quotedFrom (quote : Char) (state : QuoteState) : Text → Except Fault (CodePoints × Nat)
  | [] => .error .unclosedQuote
  | c :: rest =>
    match state with
    | .backslash =>
      if isBreak c then
        if isDocumentMark rest then .error .unclosedQuote
        else prepend [] 1 (quotedFrom quote (.text (.escaped [])) rest)
      else
        match escaped? c, codeDigits? c with
        | some d, _ => prepend [d.toNat] 1 (quotedFrom quote (.text .none) rest)
        | none, some owed => prepend [] 1 (quotedFrom quote (.code owed 0) rest)
        | none, none => .error .unknownEscape
    | .code owed value =>
      match hexValue? c with
      | none => .error .unknownEscape
      | some digit =>
        let number := 16 * value + digit
        if owed ≤ 1 then
          match codePoint number with
          | .error fault => .error fault
          | .ok code => prepend [code] 1 (quotedFrom quote (.text .none) rest)
        else prepend [] 1 (quotedFrom quote (.code (owed - 1) number) rest)
    | .text gap =>
      if isBreak c then
        if isDocumentMark rest then .error .unclosedQuote
        else prepend [] 1 (quotedFrom quote (.text (gap.lineBreak c)) rest)
      else if c = ' ' ∨ c = '\t' then
        prepend [] 1 (quotedFrom quote (.text (gap.blank c)) rest)
      else if c = '\\' ∧ quote = '"' then
        prepend gap.codes 1 (quotedFrom quote .backslash rest)
      else if c = quote then
        match rest with
        | '\'' :: rest =>
          if quote = '\'' then
            prepend (gap.codes ++ ['\''.toNat]) 2 (quotedFrom quote (.text .none) rest)
          else .ok (gap.codes, 1)
        | _ => .ok (gap.codes, 1)
      else prepend (gap.codes ++ [c.toNat]) 1 (quotedFrom quote (.text .none) rest)

/-- The quoted scalar whose opening quote stands before a text. -/
def readQuoted (quote : Char) (text : Text) : Except Fault (CodePoints × Nat) :=
  prepend [] 1 (quotedFrom quote (.text .none) text)

end WorkflowLint.Yaml
