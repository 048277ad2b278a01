/-
  WorkflowLint/Terminal/Markup.lean
  =================================
  **Styled text.**

  Console text is written with tags in brackets for its styles, which leave no
  trace in plain output: an opening tag starts with a lower-case letter, a number
  sign or an at sign, a closing tag with a slash.  Backslashes before a tag count
  in pairs, each pair standing for one backslash, and a backslash left over makes
  the tag plain text.  A closing tag must have an opening tag of its style, and one
  without a style any opening tag.

  What follows an equals sign in a tag are its parameters.  A tag with an at sign
  names an event, and its parameters a handler with arguments, which are read when
  the tag is closed.
-/
import WorkflowLint.Terminal.Literal.Value
import WorkflowLint.Terminal.Style
import WorkflowLint.Text.Quoted

namespace WorkflowLint.Terminal

/-- Why text cannot be shown. -/
inductive MarkupFault where
  | unmatched (tag : Text) (position : Nat)
  | nothingToClose (position : Nat)
  | handler (arguments parameters : Text) (fault : Literal.Fault)
  | component (fault : ComponentFault)
deriving DecidableEq, Repr

/-- The wording of a fault. -/
def MarkupFault.message : MarkupFault → Text
  | .unmatched tag position =>
    "closing tag '[" ++ tag ++ "]' at position " ++ Text.ofNat position
      ++ " doesn't match any open tag"
  | .nothingToClose position =>
    "closing tag '[/]' at position " ++ Text.ofNat position ++ " has nothing to close"
  | .handler arguments parameters fault =>
    if fault.isWritten then
      "error parsing " ++ Text.quoted arguments ++ " in " ++ Text.quoted parameters ++ "; "
        ++ fault.message
    else "error parsing " ++ Text.quoted parameters ++ "; " ++ fault.message
  | .component fault => fault.message

/-! ### Tags -/

/-- Whether a tag may start with a character. -/
def startsTag (c : Char) : Bool := ('a' ≤ c && c ≤ 'z') || c == '#' || c == '/' || c == '@'

/-- The text up to the first closing bracket, unless an opening one comes before. -/
def upToBracket? : Text → Option Text
  | [] => none
  | c :: rest =>
    if c = ']' then some [] else if c = '[' then none else (upToBracket? rest).map (c :: ·)

/-- The body of the tag whose opening bracket stands before a text. -/
def tagBody? : Text → Option Text
  | [] => none
  | c :: rest => if startsTag c then (upToBracket? rest).map (c :: ·) else none

/-- A piece of styled text: plain text, or a tag with the backslashes before it and
    the position where these start. -/
inductive Piece where
  | plain (text : Text)
  | tag (position slashes : Nat) (body : Text)
deriving DecidableEq, Repr

/-- Puts a character before pieces. -/
def consPlain (c : Char) : List Piece → List Piece
  | .plain text :: pieces => .plain (c :: text) :: pieces
  | pieces => .plain [c] :: pieces

/-- Puts the same character several times before pieces. -/
def consMany (count : Nat) (c : Char) (pieces : List Piece) : List Piece :=
  count.repeat (consPlain c) pieces

/-- The pieces of a text from a position on, leaving out its first `skip` characters,
    if `slashes` backslashes stand right before it. -/
def piecesFrom (position skip slashes : Nat) : Text → List Piece
  | [] => consMany slashes '\\' []
  | c :: rest =>
    match skip with
    | skip + 1 => piecesFrom (position + 1) skip 0 rest
    | 0 =>
      if c = '\\' then piecesFrom (position + 1) 0 (slashes + 1) rest
      else if c = '[' then
        match tagBody? rest with
        | some body =>
          .tag (position - slashes) slashes body
            :: piecesFrom (position + 1) (body.length + 1) 0 rest
        | none =>
          consMany slashes '\\' (consPlain '[' (piecesFrom (position + 1) 0 0 rest))
      else consMany slashes '\\' (consPlain c (piecesFrom (position + 1) 0 0 rest))

/-- The pieces of a text. -/
def pieces (markup : Text) : List Piece := piecesFrom 0 0 0 markup

/-! ### Escaping -/

/-- A piece as it is escaped. -/
def Piece.escaped : Piece → Text
  | .plain text => text
  | .tag _ slashes body => List.replicate (2 * slashes + 1) '\\' ++ '[' :: body ++ [']']

/-- Doubles a lone backslash at the end. -/
def guardEnd (text : Text) : Text :=
  if List.isSuffixOf ['\\'] text && !List.isSuffixOf ['\\', '\\'] text then text ++ ['\\']
  else text

/-- A text written so that its tags are plain text. -/
def escape (text : Text) : Text := guardEnd ((pieces text).flatMap Piece.escaped)

/-! ### Showing -/

/-- Plain text without the backslashes right before opening brackets. -/
def unslash : Text → Text
  | [] => []
  | '\\' :: '[' :: rest => '[' :: unslash rest
  | c :: rest => c :: unslash rest

/-- Whether a character rings or moves the cursor, and so is left out. -/
def isCursorControl (c : Char) : Bool := ['\x07', '\x08', '\x0b', '\x0c', '\r'].contains c

/-- Text without characters that ring or move the cursor. -/
def withoutControls (text : Text) : Text := text.filter fun c => !isCursorControl c

/-- The name of a tag, which ends at an equals sign. -/
def tagName (body : Text) : Text := body.takeWhile (· != '=')

/-- An open tag: the normal form of its style, and its parameters. -/
structure OpenTag where
  name : Text
  parameters : Option Text
deriving DecidableEq, Repr

namespace OpenTag

/-- The tag with some body. -/
def ofBody (body : Text) : Except ComponentFault OpenTag :=
  let name := tagName body
  (Style.normalForm name).map fun normal => ⟨normal, (body.drop name.length).tail?⟩

/-- The style of a tag with its parameters. -/
def styleText (tag : OpenTag) : Text :=
  tag.name ++ (tag.parameters.map fun parameters => ' ' :: parameters).getD []

/-- The arguments in the parameters of an event: those in parentheses after the name of
    a handler, or all there is if this does not look like a handler. -/
def handlerArguments (parameters : Text) : Text :=
  let parameters := Text.trim parameters
  match parameters.dropWhile fun c => Text.isWordChar c || c == '.' with
  | [] => "()"
  | arguments =>
    let isCall := arguments.head? == some '(' && 2 ≤ arguments.length
      && arguments.getLast? == some ')' && !arguments.contains '\n'
    if isCall then arguments else parameters

/-- Closes a tag. -/
def close (tag : OpenTag) : Except MarkupFault Unit :=
  match tag.name, tag.parameters with
  | '@' :: _, some parameters =>
    if parameters.isEmpty then .ok ()
    else
      let arguments := handlerArguments parameters
      (Literal.check arguments).mapError (MarkupFault.handler arguments parameters)
  | _, _ => .ok ()

end OpenTag

/-- Takes out the first tag of a style, if there is one. -/
def takeOut? (name : Text) : List OpenTag → Option (OpenTag × List OpenTag)
  | [] => none
  | tag :: rest =>
    if tag.name = name then some (tag, rest)
    else (takeOut? name rest).map fun (found, rest) => (found, tag :: rest)

/-- The open tags after a closing tag, the last one first. -/
def afterClosing (position : Nat) (body name : Text) (stack : List OpenTag) :
    Except MarkupFault (List OpenTag) := do
  if (Text.trim name).isEmpty then
    match stack with
    | [] => .error (.nothingToClose position)
    | tag :: stack => do
      tag.close
      pure stack
  else
    let name ← (Style.normalForm (Text.trim name)).mapError MarkupFault.component
    match takeOut? name stack with
    | none => .error (.unmatched body position)
    | some (tag, stack) => do
      tag.close
      pure stack

/-- The open tags after a tag, the last one first. -/
def afterTag (position : Nat) (body : Text) (stack : List OpenTag) :
    Except MarkupFault (List OpenTag) :=
  match tagName body with
  | '/' :: name => afterClosing position body name stack
  | _ => ((OpenTag.ofBody body).mapError MarkupFault.component).map (· :: stack)

/-- What pieces look like, if some tags are open before them. -/
def showPieces (stack : List OpenTag) : List Piece → Except MarkupFault Text
  | [] => .ok []
  | .plain text :: pieces => do
    let rest ← showPieces stack pieces
    pure (unslash text ++ rest)
  | .tag position slashes body :: pieces => do
    let kept := List.replicate (slashes / 2) '\\'
    if slashes % 2 = 1 then
      let rest ← showPieces stack pieces
      pure (kept ++ '[' :: body ++ ']' :: rest)
    else
      let stack ← afterTag (position + slashes / 2 * 2) body stack
      let rest ← showPieces stack pieces
      pure (kept ++ rest)

/-- Fails if a component of a color in the style of a tag is not a number. -/
def Piece.checkStyle : Piece → Except MarkupFault Unit
  | .plain _ => .ok ()
  | .tag _ slashes body =>
    if slashes % 2 = 1 || body.head? == some '/' then .ok ()
    else
      (OpenTag.ofBody body >>= fun tag => Style.checkComponents tag.styleText).mapError
        MarkupFault.component

/-- What styled text looks like. -/
def render (markup : Text) : Except MarkupFault Text := do
  let pieces := pieces markup
  let text ← showPieces [] pieces
  pieces.forM Piece.checkStyle
  pure (withoutControls text)

end WorkflowLint.Terminal
