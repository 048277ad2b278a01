/-
  WorkflowLint/Fix.lean
  =====================
  **Applying fixes.**

  The fixes that findings carry are applied to the lines of a text, the highest
  line first; on one line they are applied in the order of the findings.  A fix
  with a target replaces the first occurrence of the target on the line as it
  has become, any other fix replaces the whole line.  Lines are never inserted
  or removed.
-/
import WorkflowLint.Diagnostic

namespace WorkflowLint

/-- What became of a fix, or of all of them. -/
inductive FixEvent where
  | outOfRange (line : Int) (ruleId : Option Text)
  | targetMissing (target : Text) (line : Int)
  | applied (count : Nat)
deriving DecidableEq, Repr

/-- What the log says about a fix. -/
def FixEvent.message : FixEvent → Text
  | .outOfRange line ruleId =>
    "Fix skipped: line " ++ Text.ofInt line ++ " out of range (" ++ ruleId.getD "None" ++ ")"
  | .targetMissing target line =>
    "Fix skipped: '" ++ target ++ "' not on line " ++ Text.ofInt line
  | .applied count => "Applied " ++ Text.ofNat count ++ " fix(es)"

namespace Fix

/-- Puts a finding before the first one whose line is not higher. -/
def insertByLine (diagnostic : Diagnostic) : List Diagnostic → List Diagnostic
  | [] => [diagnostic]
  | other :: rest =>
    if diagnostic.line.getD 0 < other.line.getD 0 then other :: insertByLine diagnostic rest
    else diagnostic :: other :: rest

/-- The findings that can be fixed, the highest line first; findings on the same
    line keep their order. -/
def plan (diagnostics : List Diagnostic) : List Diagnostic :=
  (diagnostics.filter Diagnostic.isFixable).foldr insertByLine []

/-- The target of a fix, if it has one that is not empty. -/
def target? (diagnostic : Diagnostic) : Option Text :=
  diagnostic.target.filter fun target => !target.isEmpty

/-- The text of a line after a fix, unless its target is not there. -/
def onLine? (diagnostic : Diagnostic) (fix line : Text) : Option Text :=
  match target? diagnostic with
  | none => some fix
  | some target =>
    if Text.hasPart target line then some (Text.replaceFirst target fix line) else none

/-- The position among `count` lines of the line with a number counted from one. -/
def position? (count : Nat) (line : Int) : Option Nat :=
  if 1 ≤ line ∧ line ≤ count then some (line - 1).toNat else none

/-- The lines while fixes are applied, with the number of fixes applied so far
    and what is to be said about the others. -/
structure State where
  lines : List Text
  applied : Nat
  events : List FixEvent
deriving DecidableEq, Repr

/-- Applies one fix. -/
def State.apply (state : State) (diagnostic : Diagnostic) : State :=
  match diagnostic.line, diagnostic.fix with
  | some line, some fix =>
    match position? state.lines.length line with
    | none => { state with events := state.events ++ [.outOfRange line diagnostic.ruleId] }
    | some position =>
      match onLine? diagnostic fix (state.lines.getD position []) with
      | none =>
        { state with
          events := state.events ++ [.targetMissing ((target? diagnostic).getD []) line] }
      | some text =>
        { state with lines := state.lines.set position text, applied := state.applied + 1 }
  | _, _ => state

/-- The state after all fixes of some findings. -/
def run (text : Text) (diagnostics : List Diagnostic) : State :=
  (plan diagnostics).foldl State.apply ⟨Text.lines text, 0, []⟩

/-- A text with the fixes of some findings applied. -/
def apply (text : Text) (diagnostics : List Diagnostic) : Text :=
  Text.joinLines (run text diagnostics).lines

/-- What there is to say about the fixes, ending with the number applied. -/
def events (text : Text) (diagnostics : List Diagnostic) : List FixEvent :=
  (run text diagnostics).events ++ [.applied (run text diagnostics).applied]

/-- The log of applying fixes. -/
def log (text : Text) (diagnostics : List Diagnostic) : List Text :=
  (events text diagnostics).map FixEvent.message

end Fix

end WorkflowLint
