/-
  WorkflowLint/Terminal/Literal/Value.lean
  ========================================
  **What literals denote.**

  A literal is a number, a string, a constant, or a tuple, a mapping or a set of
  literals.  Expressions of other kinds are read too, because the fault of a text
  that is no expression differs from that of an expression that is no literal.  The
  elements of a set and the keys of a mapping are compared with each other.
-/
import WorkflowLint.Terminal.Literal.Lexeme

namespace WorkflowLint.Terminal.Literal

/-! ### Values -/

/-- What matters of a value: which number it is, or whether it can be compared. -/
inductive Value where
  | number (imaginary signed : Bool)
  | comparable
  | uncomparable (kind : Collection)
deriving DecidableEq, Repr

/-- How an expression is written. -/
inductive Form where
  | literal
  | constant
  | ellipsis
  | tuple
  | mapping
  | set
  | name
  | call
  | member
  | expression
  | starred
  | other
deriving DecidableEq, Repr

/-- What an expression is called that stands before an equals sign by mistake. -/
def Form.target? : Form → Option Text
  | .literal => some "literal"
  | .ellipsis => some "ellipsis"
  | .mapping => some "dict literal"
  | .set => some "set display"
  | .name => some "name"
  | .call => some "function call"
  | .member => some "attribute"
  | .expression => some "expression"
  | .constant => none
  | .tuple => none
  | .starred => none
  | .other => none

/-- An expression by its form and its value, if it has one. -/
structure Term where
  form : Form
  value : Except Fault Value
deriving Repr

namespace Term

/-- An expression that is no literal. -/
def noLiteral (form : Form) : Term := ⟨form, .error .noLiteral⟩

/-- A literal that can be compared. -/
def comparable (form : Form) : Term := ⟨form, .ok .comparable⟩

/-- An expression with a sign before it. -/
def signed (term : Term) : Term :=
  ⟨.expression,
    match term.value with
    | .ok (.number imaginary false) => .ok (.number imaginary true)
    | _ => .error .noLiteral⟩

/-- The sum or difference of two expressions, which is a literal if it is a complex
    number. -/
def sum (left right : Term) : Term :=
  ⟨.expression,
    match left.value, right.value with
    | .ok (.number false _), .ok (.number true false) => .ok .comparable
    | _, _ => .error .noLiteral⟩

/-- A tuple, which can be compared if its elements can. -/
def tuple (terms : List Term) : Term :=
  let value := terms.foldl (fun value term => do
    let value ← value
    let element ← term.value
    pure (match value, element with
      | .comparable, .uncomparable kind => .uncomparable kind
      | value, _ => value)) (.ok .comparable)
  ⟨.tuple, value⟩

/-- Fails unless a value can be compared. -/
def compare (term : Term) : Except Fault Unit := do
  match ← term.value with
  | .uncomparable kind => .error (.uncomparable kind)
  | _ => pure ()

/-- A set, whose elements are compared with each other. -/
def set (terms : List Term) : Term :=
  ⟨.set, (terms.forM compare).map fun _ => .uncomparable .set⟩

/-- A mapping, whose keys are compared with each other. -/
def mapping (entries : List (Term × Term)) : Term :=
  ⟨.mapping,
    (entries.forM fun (key, value) => do
      let _ ← key.value
      let _ ← value.value
      key.compare).map fun _ => .uncomparable .mapping⟩

end Term

/-! ### Words -/

/-- The words that stand for a value. -/
def constants : List Text := ["None", "True", "False"]

/-- The words that stand in expressions and are no names. -/
def expressionWords : List Text :=
  ["and", "await", "else", "for", "if", "in", "is", "lambda", "not", "or", "yield"]

/-- The other words that are no names. -/
def reservedWords : List Text :=
  ["as", "assert", "async", "break", "class", "continue", "def", "del", "elif", "except",
   "finally", "from", "global", "import", "nonlocal", "pass", "raise", "return", "try", "while",
   "with"]

/-- Whether a word is a name. -/
def isName (word : Text) : Bool :=
  !(constants.contains word || expressionWords.contains word || reservedWords.contains word)

/-- The names that have a meaning of their own in some places. -/
def softWords : List Text := ["_", "case", "match"]

/-- The name of a command that was once used without parentheses, at the start of a row
    of lexemes. -/
def command? : List Lexeme → Option Text
  | .word name :: _ => if name == "print" || name == "exec" then some name else none
  | _ => none

/-- Whether no comma is missed after an expression, whatever follows it: it starts with
    a name before a string, or with a name that may have a meaning of its own. -/
def excusesComma : List Lexeme → Bool
  | .word name :: rest =>
    softWords.contains name
      || (match rest with
        | .string _ :: _ => isName name
        | _ => false)
  | _ => false

/-! ### Reading -/

/-- The lexemes of an expression with the brackets that are open there, the last one
    first.  A strict reading says what is missed, another one only that something is
    wrong. -/
structure Place where
  strict : Bool
  opened : List Char
  lexemes : List Lexeme
deriving DecidableEq, Repr

namespace Place

/-- The same place further on. -/
def move (place : Place) (lexemes : List Lexeme) : Place := { place with lexemes }

/-- The place after an opening bracket. -/
def enter (place : Place) (bracket : Char) (lexemes : List Lexeme) : Place :=
  { place with opened := bracket :: place.opened, lexemes }

/-- The fault of a place where an expression cannot go on. -/
def stop (place : Place) : Fault :=
  match place.lexemes, place.opened with
  | [], bracket :: _ => .neverClosed bracket
  | .backslash :: _, _ => .strayBackslash
  | _, _ => .invalid

/-- A fault that only a strict reading tells. -/
def tell (place : Place) (fault : Fault) : Fault := if place.strict then fault else place.stop

end Place

/-- What is read, with the lexemes after it. -/
abbrev WithRest (α : Type) := α × List Lexeme

/-- Joins the kinds of strings that stand next to each other. -/
def joinStrings (first second : StringKind) : Except Fault StringKind :=
  match first, second with
  | .octets, .octets => .ok .octets
  | .octets, _ => .error .mixedStrings
  | _, .octets => .error .mixedStrings
  | .text, .text => .ok .text
  | _, _ => .ok .template

/-- A string joined with the strings right after it. -/
def readStrings (kind : StringKind) : List Lexeme → Except Fault (WithRest Term)
  | .string .wideOctets :: _ => .error .wideOctets
  | .string next :: rest => do
    let kind ← joinStrings kind next
    readStrings kind rest
  | rest =>
    .ok (if kind = .template then Term.noLiteral .other else Term.comparable .literal, rest)

/-- The result of a reading, or nothing if another reading may still succeed.  A fault
    that says what is wrong ends all readings. -/
def attempt? {α : Type} (reading : Except Fault α) : Except Fault (Option α) :=
  match reading with
  | .ok result => .ok (some result)
  | .error .invalid => .ok none
  | .error fault => .error fault

/-- The kinds of operators that join two expressions. -/
inductive Joint where
  | sign
  | comparison
  | logical
deriving DecidableEq, Repr

/-- The operator at the start of a row of lexemes, and what follows it. -/
def joint? : List Lexeme → Option (Joint × List Lexeme)
  | .sign :: rest => some (.sign, rest)
  | .star :: rest => some (.comparison, rest)
  | .operator :: rest => some (.comparison, rest)
  | .word word :: rest =>
    if word == "and" || word == "or" then some (.logical, rest)
    else if word == "in" then some (.comparison, rest)
    else
      match rest with
      | .word next :: others =>
        if word == "is" && next == "not" || word == "not" && next == "in" then
          some (.comparison, others)
        else if word == "is" then some (.comparison, rest)
        else none
      | _ => if word == "is" then some (.comparison, rest) else none
  | _ => none

mutual

/-- Reads an expression.  The number bounds the depth of the reading. -/
def readExpression : Nat → Place → Except Fault (WithRest Term)
  | 0, _ => .error .nestedTooDeep
  | depth + 1, place => do
    let (term, rest) ← readOperands depth place
    if place.strict then
      checkNeighbour depth place term rest
      checkCommand depth place
    match rest with
    | .word word :: more =>
      let choice ←
        if word == "if" then attempt? (readChoice depth (place.move more)) else pure none
      pure (choice.getD (term, rest))
    | _ => pure (term, rest)

/-- Fails if an expression in brackets follows another one without a comma. -/
def checkNeighbour : Nat → Place → Term → List Lexeme → Except Fault Unit
  | 0, _, _, _ => .error .nestedTooDeep
  | depth + 1, place, term, rest => do
    if excusesComma place.lexemes then pure ()
    else
      match ← attempt? (readExpression depth ⟨false, place.opened, rest⟩) with
      | none => pure ()
      | some _ =>
        if place.opened.isEmpty || term.form = .name && (command? place.lexemes).isSome then pure ()
        else .error .missingComma

/-- Fails if an expression follows the name of a command. -/
def checkCommand : Nat → Place → Except Fault Unit
  | 0, _ => .error .nestedTooDeep
  | depth + 1, place => do
    match place.lexemes with
    | .word _ :: .opening '(' :: _ => pure ()
    | .word word :: rest =>
      if isName word then
        match ← attempt? (readExpression depth (place.move rest)) with
        | none => pure ()
        | some _ =>
          match command? place.lexemes with
          | none => pure ()
          | some name => .error (.missingParentheses name)
      else pure ()
    | _ => pure ()

/-- Reads the rest of a choice between two expressions after its first word. -/
def readChoice : Nat → Place → Except Fault (WithRest Term)
  | 0, _ => .error .nestedTooDeep
  | depth + 1, place => do
    let (_, rest) ← readOperands depth place
    match rest with
    | .word word :: more =>
      if word == "else" then do
        let (_, rest) ← readExpression depth (place.move more)
        pure (.noLiteral .other, rest)
      else .error ((place.move rest).tell .missingElse)
    | .colon :: _ => .error .invalid
    | _ => .error ((place.move rest).tell .missingElse)

/-- Reads expressions with operators between them. -/
def readOperands : Nat → Place → Except Fault (WithRest Term)
  | 0, _ => .error .nestedTooDeep
  | depth + 1, place => do
    let (first, rest) ← readNegation depth place
    readMore depth (place.move rest) first

/-- Reads the operators and expressions after an expression. -/
def readMore : Nat → Place → Term → Except Fault (WithRest Term)
  | 0, _, _ => .error .nestedTooDeep
  | depth + 1, place, left =>
    match joint? place.lexemes with
    | none => .ok (left, place.lexemes)
    | some (joint, rest) => do
      let right ← attempt?
        (if joint = .logical then readNegation depth (place.move rest)
        else readOperand depth (place.move rest))
      match right with
      | none => pure (left, place.lexemes)
      | some (right, rest) =>
        readMore depth (place.move rest)
          (if joint = .sign then left.sum right else .noLiteral .expression)

/-- Reads an expression without operators between expressions that may be negated. -/
def readNegation : Nat → Place → Except Fault (WithRest Term)
  | 0, _ => .error .nestedTooDeep
  | depth + 1, place => do
    match place.lexemes with
    | .word word :: rest =>
      if word == "not" then
        let (_, rest) ← readNegation depth (place.move rest)
        pure (.noLiteral .other, rest)
      else readOperand depth place
    | _ => readOperand depth place

/-- Reads an expression without operators between expressions. -/
def readOperand : Nat → Place → Except Fault (WithRest Term)
  | 0, _ => .error .nestedTooDeep
  | depth + 1, place =>
    match place.lexemes with
    | .sign :: rest => do
      let (term, rest) ← readOperand depth (place.move rest)
      pure (term.signed, rest)
    | .complement :: rest => do
      let (_, rest) ← readOperand depth (place.move rest)
      pure (.noLiteral .expression, rest)
    | .word word :: rest =>
      if word == "await" then do
        let (_, rest) ← readOperand depth (place.move rest)
        pure (.noLiteral .other, rest)
      else if constants.contains word then
        readTrailers depth (place.move rest) (.comparable .constant)
      else if !isName word then .error .invalid
      else
        match rest with
        | .opening '(' :: .closing :: rest =>
          readTrailers depth (place.move rest)
            (if word == "set" then ⟨.call, .ok (.uncomparable .set)⟩ else .noLiteral .call)
        | rest => readTrailers depth (place.move rest) (.noLiteral .name)
    | .number imaginary digits :: rest =>
      if digitLimit < digits then .error (.tooManyDigits digits)
      else readTrailers depth (place.move rest) ⟨.literal, .ok (.number imaginary false)⟩
    | .string kind :: rest => do
      let (term, rest) ←
        if kind = .wideOctets then .error .wideOctets else readStrings kind rest
      readTrailers depth (place.move rest) term
    | .ellipsis :: rest => readTrailers depth (place.move rest) (.comparable .ellipsis)
    | .opening '(' :: rest => do
      let (term, rest) ← readParentheses depth (place.enter '(' rest)
      readTrailers depth (place.move rest) term
    | .opening '\x7b' :: rest => do
      let (term, rest) ← readBraces depth (place.enter '\x7b' rest)
      readTrailers depth (place.move rest) term
    | _ => .error place.stop

/-- Reads the calls and members after an expression.  A strict reading looks into
    braces that follow it, except after a name, where `checkCommand` does. -/
def readTrailers : Nat → Place → Term → Except Fault (WithRest Term)
  | 0, _, _ => .error .nestedTooDeep
  | depth + 1, place, term =>
    match place.lexemes with
    | .opening '(' :: rest => do
      match ← attempt? (readArguments depth (place.enter '(' rest)) with
      | none => pure (term, place.lexemes)
      | some rest => readTrailers depth (place.move rest) (.noLiteral .call)
    | .opening '\x7b' :: rest => do
      if place.strict && term.form != .name then
        let _ ← attempt? (readElements depth (place.enter '\x7b' rest))
      pure (term, place.lexemes)
    | .dot :: .word word :: rest =>
      if isName word then readTrailers depth (place.move rest) (.noLiteral .member)
      else .ok (term, place.lexemes)
    | .dot :: rest =>
      match (place.move rest).stop with
      | .invalid => .ok (term, place.lexemes)
      | fault => .error fault
    | lexeme :: rest =>
      if lexeme = .backslash then .error .strayBackslash else .ok (term, lexeme :: rest)
    | [] => if place.opened.isEmpty then .ok (term, []) else .error place.stop

/-- Reads the arguments of a call up to its closing bracket. -/
def readArguments : Nat → Place → Except Fault (List Lexeme)
  | 0, _ => .error .nestedTooDeep
  | depth + 1, place => do
    match place.lexemes with
    | .closing :: rest => pure rest
    | _ =>
      let start := match place.lexemes with
        | .star :: rest => rest
        | .word _ :: .equals :: rest => rest
        | lexemes => lexemes
      let (_, rest) ← readExpression depth (place.move start)
      match rest with
      | .comma :: rest => readArguments depth (place.move rest)
      | .closing :: rest => pure rest
      | .equals :: _ => .error ((place.move rest).tell .argumentAssignment)
      | _ => .error (place.move rest).stop

/-- Reads what stands in parentheses. -/
def readParentheses : Nat → Place → Except Fault (WithRest Term)
  | 0, _ => .error .nestedTooDeep
  | depth + 1, place => do
    match place.lexemes with
    | .closing :: rest => pure (.tuple [], rest)
    | _ =>
      let (first, rest) ← readElement depth place
      match rest with
      | .closing :: rest =>
        if first.form = .starred then .error (place.tell .starred) else pure (first, rest)
      | .comma :: rest => do
        let (others, rest) ← readElements depth (place.move rest)
        pure (.tuple (first :: others), rest)
      | _ => .error (place.move rest).stop

/-- Reads elements up to a closing bracket. -/
def readElements : Nat → Place → Except Fault (WithRest (List Term))
  | 0, _ => .error .nestedTooDeep
  | depth + 1, place => do
    match place.lexemes with
    | .closing :: rest => pure ([], rest)
    | _ =>
      let (first, rest) ← readElement depth place
      match rest with
      | .closing :: rest => pure ([first], rest)
      | .comma :: rest => do
        let (others, rest) ← readElements depth (place.move rest)
        pure (first :: others, rest)
      | _ => .error (place.move rest).stop

/-- Reads an element of a tuple or a set. -/
def readElement : Nat → Place → Except Fault (WithRest Term)
  | 0, _ => .error .nestedTooDeep
  | depth + 1, place => do
    match place.lexemes with
    | .star :: rest =>
      let (_, rest) ← readExpression depth (place.move rest)
      pure (.noLiteral .starred, rest)
    | _ =>
      let (term, rest) ← readExpression depth place
      checkAssignment depth place term rest
      pure (term, rest)

/-- Fails if an expression with an equals sign after it stands for an element. -/
def checkAssignment : Nat → Place → Term → List Lexeme → Except Fault Unit
  | 0, _, _, _ => .error .nestedTooDeep
  | depth + 1, place, term, rest => do
    match rest, place.strict with
    | .equals :: rest, true =>
      let fault? := match place.lexemes with
        | .word word :: .equals :: _ => if isName word then some Fault.namedAssignment else none
        | _ => term.form.target?.map Fault.assignment
      match fault? with
      | none => pure ()
      | some fault =>
        match ← attempt? (readOperands depth (place.move rest)) with
        | none => pure ()
        | some (_, .equals :: _) => pure ()
        | some _ => .error fault
    | _, _ => pure ()

/-- Reads what stands in braces. -/
def readBraces : Nat → Place → Except Fault (WithRest Term)
  | 0, _ => .error .nestedTooDeep
  | depth + 1, place => do
    match place.lexemes with
    | .closing :: rest => pure (.mapping [], rest)
    | .star :: _ =>
      let (terms, rest) ← readElements depth place
      pure (.set terms, rest)
    | _ =>
      let (first, rest) ← readExpression depth place
      match rest with
      | .colon :: rest => do
        let (entries, rest) ← readEntries depth (place.move rest) first
        pure (.mapping entries, rest)
      | _ =>
        checkAssignment depth place first rest
        match rest with
        | .closing :: rest => pure (.set [first], rest)
        | .comma :: rest => do
          let (others, rest) ← readElements depth (place.move rest)
          pure (.set (first :: others), rest)
        | _ => .error (place.move rest).stop

/-- Reads the entries of a mapping after the colon of its first key. -/
def readEntries : Nat → Place → Term → Except Fault (WithRest (List (Term × Term)))
  | 0, _, _ => .error .nestedTooDeep
  | depth + 1, place, key => do
    match place.lexemes with
    | .comma :: _ => .error .missingValue
    | .closing :: _ => .error .missingValue
    | .star :: rest =>
      let _ ← readOperands depth (place.move rest)
      .error .starredValue
    | _ =>
      let (value, rest) ← readExpression depth place
      match rest with
      | .closing :: rest => pure ([(key, value)], rest)
      | .comma :: .closing :: rest => pure ([(key, value)], rest)
      | .comma :: rest => do
        let (next, rest) ← readExpression depth (place.move rest)
        match rest with
        | .colon :: rest => do
          let (entries, rest) ← readEntries depth (place.move rest) next
          pure ((key, value) :: entries, rest)
        | _ => .error .missingColon
      | _ => .error (place.move rest).stop

end

/-- Reads expressions with commas between them, up to the end. -/
def readAll (strict : Bool) (depth : Nat) : Nat → List Lexeme → Except Fault (List Term)
  | 0, _ => .error .nestedTooDeep
  | _, [] => .ok []
  | count + 1, lexemes => do
    let (term, rest) ← readExpression depth ⟨strict, [], lexemes⟩
    match rest with
    | [] => pure [term]
    | .comma :: rest => do
      let terms ← readAll strict depth count rest
      pure (term :: terms)
    | _ => .error .invalid

/-- The steps of a reading for each lexeme. -/
def stepsPerLexeme : Nat := 10

/-- Whether a text is a literal. -/
def check (text : Text) : Except Fault Unit := do
  let lexemes ← lexemes text
  let depth := stepsPerLexeme * (lexemes.length + 1)
  let terms ←
    match ← attempt? (readAll false depth depth lexemes) with
    | some terms => pure terms
    | none => readAll true depth depth lexemes
  match terms with
  | [] => .error .invalid
  | [term] => term.value.map fun _ => ()
  | terms => (Term.tuple terms).value.map fun _ => ()

end WorkflowLint.Terminal.Literal
