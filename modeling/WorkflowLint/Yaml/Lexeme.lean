/-
  WorkflowLint/Yaml/Lexeme.lean
  =============================
  **The lexemes of a YAML text.**

  The layout of a text is made explicit: blocks are opened where a key or a list
  entry is further to the right than the block around it, and closed where a line
  is further to the left.  That something is a key shows only at its colon, so
  the place of whatever may become a key is kept until then; such a candidate
  must be on one line and at most 1024 characters before its colon, and where a
  key must follow, losing the candidate is an error.

  Whoever reads lexemes gets them one at a time, a candidate only after it is known
  whether it is a key.  So a fault in the text comes after the lexemes before the
  first candidate that is still open, and takes the place of all others.
-/
import WorkflowLint.Yaml.Scalar

namespace WorkflowLint.Yaml

/-- A lexeme. -/
inductive Lexeme where
  | documentStart
  | documentEnd
  | mappingStart
  | sequenceStart
  | blockEnd
  | flowSequenceStart
  | flowSequenceEnd
  | flowMappingStart
  | flowMappingEnd
  | comma
  | entry
  | key
  | value
  | anchor (name : Text)
  | alias (name : Text)
  | plain (text : Text)
  | quoted (codes : CodePoints)
  | fault (fault : Fault)
deriving DecidableEq, Repr

/-! ### Places in a text -/

/-- A place in a text. -/
structure Spot where
  index : Nat
  line : Nat
  column : Nat
deriving DecidableEq, Repr

/-- The place after a character. -/
def Spot.after (spot : Spot) (c : Char) : Spot :=
  ⟨spot.index + 1, if c = '\n' then spot.line + 1 else spot.line, columnAfter spot.column c⟩

/-- The place after a text. -/
def Spot.afterAll (spot : Spot) (text : Text) : Spot := text.foldl Spot.after spot

/-- What may become a key: how many lexemes are before it, where it starts, and
    whether it must become one. -/
structure Candidate where
  count : Nat
  spot : Spot
  required : Bool
deriving DecidableEq, Repr

/-- Whether a candidate cannot become a key any more. -/
def Candidate.isStale (spot : Spot) (candidate : Candidate) : Bool :=
  candidate.spot.line != spot.line || spot.index - candidate.spot.index > 1024

/-- The kinds of brackets. -/
inductive Bracket where
  | square
  | curly
deriving DecidableEq, Repr

/-! ### The state of the layout -/

/-- What has been read: the lexemes, the last one first, and their number; the columns
    of the open blocks and the open brackets, the innermost first, each bracket with
    the candidate before it; the candidate, and whether a key may start.  If a
    candidate was left open behind the last lexeme, `settled` is the number of lexemes
    before the first one. -/
structure Layout where
  lexemes : List Lexeme
  count : Nat
  blocks : List Nat
  brackets : List (Bracket × Option Candidate)
  candidate : Option Candidate
  keyAllowed : Bool
  settled : Option Nat
deriving Repr

namespace Layout

/-- The layout before anything is read. -/
def start : Layout := ⟨[], 0, [], [], none, true, none⟩

/-- Whether a bracket is open. -/
def inFlow (layout : Layout) : Bool := !layout.brackets.isEmpty

/-- Adds a lexeme. -/
def emit (layout : Layout) (lexeme : Lexeme) : Layout :=
  { layout with lexemes := lexeme :: layout.lexemes, count := layout.count + 1 }

/-- Adds a lexeme after the first `count` ones. -/
def insert (layout : Layout) (count : Nat) (lexeme : Lexeme) : Layout :=
  let later := layout.count - count
  { layout with
    lexemes := layout.lexemes.take later ++ lexeme :: layout.lexemes.drop later
    count := layout.count + 1 }

/-- Says whether a key may start. -/
def allowKey (layout : Layout) (allowed : Bool) : Layout := { layout with keyAllowed := allowed }

/-! ### Blocks -/

/-- Whether a column is further to the right than the innermost block. -/
def isDeeper (layout : Layout) (column : Nat) : Bool :=
  layout.blocks.head?.all fun block => block < column

/-- The column at which plain scalars may go on. -/
def plainColumn (layout : Layout) : Nat :=
  match layout.blocks with
  | [] => 0
  | block :: _ => block + 1

/-- Opens a block at a column. -/
def openBlock (column : Nat) (layout : Layout) : Layout :=
  { layout with blocks := column :: layout.blocks }

/-- Closes the innermost blocks that satisfy a condition; inside brackets there are
    none. -/
def closeBlocks (p : Nat → Bool) (layout : Layout) : Layout :=
  if layout.inFlow then layout
  else
    let closed := layout.blocks.takeWhile p
    { layout with
      blocks := layout.blocks.dropWhile p
      lexemes := closed.map (fun _ => .blockEnd) ++ layout.lexemes
      count := layout.count + closed.length }

/-! ### Candidates for keys -/

/-- Gives the candidate up. -/
def dropCandidate (layout : Layout) : Except Fault Layout :=
  if layout.candidate.any Candidate.required then .error .missingColon
  else .ok { layout with candidate := none }

/-- All candidates. -/
def candidates (layout : Layout) : List Candidate :=
  (layout.candidate :: layout.brackets.map Prod.snd).filterMap id

/-- Gives up all candidates that cannot become keys any more. -/
def expire (spot : Spot) (layout : Layout) : Except Fault Layout :=
  if layout.candidates.any fun candidate => candidate.isStale spot && candidate.required then
    .error .missingColon
  else
    let keep (candidate : Option Candidate) := candidate.filter fun c => !c.isStale spot
    .ok { layout with
      candidate := keep layout.candidate
      brackets := layout.brackets.map fun (bracket, candidate) => (bracket, keep candidate) }

/-- Takes what starts here as a candidate, if a key may start. -/
def noteCandidate (spot : Spot) (layout : Layout) : Except Fault Layout :=
  if layout.keyAllowed then
    match layout.dropCandidate with
    | .error fault => .error fault
    | .ok layout =>
      let required := !layout.inFlow && layout.blocks.head? == some spot.column
      .ok { layout with candidate := some ⟨layout.count, spot, required⟩ }
  else .ok layout

/-- Notes how many lexemes come before the first candidate. -/
def settle (layout : Layout) : Layout :=
  { layout with settled := (layout.candidates.map Candidate.count).min? }

/-! ### Reading one lexeme -/

/-- A mark at the start or the end of the document. -/
def documentMark (lexeme : Lexeme) (layout : Layout) : Except Fault Layout :=
  match (layout.closeBlocks fun _ => true).dropCandidate with
  | .error fault => .error fault
  | .ok layout => .ok ((layout.allowKey false).emit lexeme)

/-- An opening bracket. -/
def openBracket (spot : Spot) (bracket : Bracket) (lexeme : Lexeme) (layout : Layout) :
    Except Fault Layout :=
  match layout.noteCandidate spot with
  | .error fault => .error fault
  | .ok layout =>
    .ok ({ layout with
      brackets := (bracket, layout.candidate) :: layout.brackets
      candidate := none
      keyAllowed := true }.emit lexeme)

/-- A closing bracket. -/
def closeBracket (lexeme : Lexeme) (layout : Layout) : Except Fault Layout :=
  match layout.dropCandidate, layout.brackets with
  | .error fault, _ => .error fault
  | .ok _, [] => .error .misplacedBracket
  | .ok layout, (_, candidate) :: brackets =>
    .ok ({ layout with
      brackets := brackets
      candidate := candidate
      keyAllowed := false }.emit lexeme)

/-- A comma. -/
def comma (layout : Layout) : Except Fault Layout :=
  match layout.dropCandidate with
  | .error fault => .error fault
  | .ok layout => .ok ((layout.allowKey true).emit .comma)

/-- Opens a block of some kind at a column, if the column asks for one. -/
def openDeeper (column : Nat) (lexeme : Lexeme) (layout : Layout) : Layout :=
  if !layout.inFlow && layout.isDeeper column then (layout.openBlock column).emit lexeme
  else layout

/-- The hyphen before an entry of a list. -/
def entry (spot : Spot) (layout : Layout) : Except Fault Layout :=
  if !layout.inFlow && !layout.keyAllowed then .error .misplacedEntry
  else
    match (layout.openDeeper spot.column .sequenceStart).dropCandidate with
    | .error fault => .error fault
    | .ok layout => .ok ((layout.allowKey true).emit .entry)

/-- The question mark before a key. -/
def key (spot : Spot) (layout : Layout) : Except Fault Layout :=
  if !layout.inFlow && !layout.keyAllowed then .error .misplacedKey
  else
    match (layout.openDeeper spot.column .mappingStart).dropCandidate with
    | .error fault => .error fault
    | .ok layout => .ok ((layout.allowKey !layout.inFlow).emit .key)

/-- The colon before a value.  It makes the candidate, if there is one, a key. -/
def value (spot : Spot) (layout : Layout) : Except Fault Layout :=
  match layout.candidate with
  | some candidate =>
    let column := candidate.spot.column
    let keyed := { layout with candidate := none, keyAllowed := false }.insert candidate.count .key
    let opened :=
      if !layout.inFlow && layout.isDeeper column then
        (keyed.openBlock column).insert candidate.count .mappingStart
      else keyed
    .ok (opened.emit .value)
  | none =>
    if !layout.inFlow && !layout.keyAllowed then .error .misplacedValue
    else
      .ok (((layout.openDeeper spot.column .mappingStart).allowKey !layout.inFlow).emit .value)

/-- Something that may become a key.  No key may start after it on its line. -/
def content (spot : Spot) (lexeme : Lexeme) (layout : Layout) : Except Fault Layout :=
  match layout.noteCandidate spot with
  | .error fault => .error fault
  | .ok layout => .ok ((layout.allowKey false).emit lexeme)

/-- A plain scalar.  A key may start after it if a line ends there. -/
def plain (spot : Spot) (scalar : PlainText) (layout : Layout) : Except Fault Layout :=
  match layout.content spot (.plain scalar.text) with
  | .error fault => .error fault
  | .ok layout => .ok (layout.allowKey scalar.broken)

/-- Whether a colon before a text is followed by a value.  In curly brackets it need not
    stand alone, unless it follows a colon behind which a candidate was left open. -/
def startsValue (layout : Layout) (rest : Text) : Bool :=
  match layout.brackets with
  | (.curly, _) :: _ =>
    !(layout.settled.isSome && layout.lexemes.head? == some .value) || endsWord rest
  | _ => endsWord rest

/-- A layout with one more lexeme of some length. -/
def withLength (length : Nat) : Except Fault Layout → Except Fault (Layout × Nat)
  | .error fault => .error fault
  | .ok layout => .ok (layout, length)

/-- Reads the lexeme that starts with a character, and says how many characters it
    takes. -/
def lexeme (spot : Spot) (c : Char) (rest : Text) (layout : Layout) :
    Except Fault (Layout × Nat) :=
  if spot.column = 0 ∧ isMark "---" (c :: rest) then
    withLength 3 (layout.documentMark .documentStart)
  else if spot.column = 0 ∧ isMark "..." (c :: rest) then
    withLength 3 (layout.documentMark .documentEnd)
  else if c = '[' then withLength 1 (layout.openBracket spot .square .flowSequenceStart)
  else if c = '\x7b' then withLength 1 (layout.openBracket spot .curly .flowMappingStart)
  else if c = ']' then withLength 1 (layout.closeBracket .flowSequenceEnd)
  else if c = '\x7d' then withLength 1 (layout.closeBracket .flowMappingEnd)
  else if c = ',' then withLength 1 layout.comma
  else if c = '-' ∧ endsWord rest then withLength 1 (layout.entry spot)
  else if c = '?' ∧ (layout.inFlow || endsWord rest) then withLength 1 (layout.key spot)
  else if c = ':' ∧ layout.startsValue rest then withLength 1 (layout.value spot)
  else if c = '*' then do
    let (name, length) ← readName rest
    withLength (length + 1) (layout.content spot (.alias name))
  else if c = '&' then do
    let (name, length) ← readName rest
    withLength (length + 1) (layout.content spot (.anchor name))
  else if c = '\'' ∨ c = '"' then do
    let (codes, length) ← readQuoted c rest
    withLength length (layout.content spot (.quoted codes))
  else if startsPlain layout.inFlow c rest then
    let scalar := readPlain layout.inFlow layout.plainColumn spot.column (c :: rest)
    withLength scalar.length (layout.plain spot scalar)
  else .error .unexpectedCharacter

/-! ### Reading a text -/

/-- The lexemes that can be read up to a fault. -/
def stop (layout : Layout) (fault : Fault) : List Lexeme :=
  let later := layout.settled.elim 0 fun settled => layout.count - settled
  (.fault fault :: layout.lexemes.drop later).reverse

/-- The lexemes of a text that has been read to its end. -/
def finish (spot : Spot) (layout : Layout) : List Lexeme :=
  match layout.expire spot with
  | .error fault => layout.stop fault
  | .ok expired =>
    match (expired.closeBlocks fun _ => true).dropCandidate with
    | .error fault => layout.stop fault
    | .ok last => last.lexemes.reverse

/-- Reads the next lexeme after a place and says which place follows it, and how many
    characters it takes. -/
def next (spot : Spot) (c : Char) (rest : Text) (layout : Layout) :
    Except Fault (Layout × Spot × Nat) := do
  let expired ← layout.expire spot
  let (read, length) ← (expired.closeBlocks fun block => spot.column < block).lexeme spot c rest
  let after := spot.afterAll ((c :: rest).take length)
  let kept ← read.expire after
  pure (kept.settle, after, length)

/-- Reads the rest of a text from a place on, after leaving out `skip` characters. -/
def readFrom (layout : Layout) (spot : Spot) (skip : Nat) : Text → List Lexeme
  | [] => layout.finish spot
  | c :: rest =>
    match skip with
    | skip + 1 => readFrom layout spot skip rest
    | 0 =>
      if c = ' ' ∨ (c = '\t' ∧ layout.inFlow) then readFrom layout (spot.after c) 0 rest
      else if isBreak c then
        readFrom (if layout.inFlow then layout else layout.allowKey true) (spot.after c) 0 rest
      else if c = '#' then
        let comment := rest.takeWhile fun next => !isBreak next
        readFrom layout ((spot.after c).afterAll comment) comment.length rest
      else
        match layout.next spot c rest with
        | .error fault => layout.stop fault
        | .ok (layout, after, length) => readFrom layout after (length - 1) rest

end Layout

/-- The lexemes of a text whose lines end with line feeds. -/
def readLexemes (text : Text) : List Lexeme := Layout.start.readFrom ⟨0, 0, 0⟩ 0 text

end WorkflowLint.Yaml
