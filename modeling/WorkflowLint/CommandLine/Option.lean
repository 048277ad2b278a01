/-
  WorkflowLint/CommandLine/Option.lean
  ====================================
  **Reading the arguments.**

  Every option is a switch.  A long option may be shortened as long as only one
  option starts like it, and short options may be joined behind one hyphen.  The
  first argument that is no option is the path; a lone hyphen, a negative number
  and an argument with a space in it are no options.  After two hyphens there are
  no options any more.  What is neither an option nor the path is left over.
-/
import WorkflowLint.Text.DecimalDigit

namespace WorkflowLint.CommandLine

/-- The switches. -/
inductive Switch where
  | fix
  | strict
  | json
  | listRules
  | verbose
  | version
  | help
deriving DecidableEq, Repr

/-- How each switch is written. -/
def spellings : List (Text × Switch) :=
  [("--fix", .fix), ("--strict", .strict), ("--json", .json), ("--list-rules", .listRules),
   ("--verbose", .verbose), ("-v", .version), ("--version", .version), ("-h", .help),
   ("--help", .help)]

/-- The switch of an exact spelling. -/
def switchOf? (text : Text) : Option Switch := spellings.lookup text

/-- Why arguments cannot be read: an option may mean several switches, or a switch is
    given a value. -/
inductive UsageError where
  | ambiguous (argument : Text)
  | unexpectedValue (value : Text)
deriving DecidableEq, Repr

/-! ### Single arguments -/

/-- What an argument is. -/
inductive Argument where
  | positional
  | unknown
  | switch (spelling : Text) (switch : Switch) (value : Option Text)
deriving DecidableEq, Repr

/-- Whether a text is made of digits, and has one. -/
def isDigits (text : Text) : Bool := !text.isEmpty && text.all Text.isDigit

/-- The text without one line feed at its end. -/
def dropFinalNewline (text : Text) : Text :=
  if text.getLast? = some '\n' then text.dropLast else text

/-- Whether a text is a negative number, with or without a decimal point. -/
def isNegativeNumber (text : Text) : Bool :=
  match dropFinalNewline text with
  | '-' :: rest =>
    isDigits rest
      || match Text.cutAt? '.' rest with
        | some (whole, fraction) => whole.all Text.isDigit && isDigits fraction
        | none => false
  | _ => false

/-- The switches that a shortened long option may mean, with its value. -/
def longMatches (argument : Text) : List Argument :=
  let (stem, value) :=
    match Text.cutAt? '=' argument with
    | some (stem, value) => (stem, some value)
    | none => (argument, none)
  spellings.filterMap fun (spelling, switch) =>
    if stem.isPrefixOf spelling then some (.switch spelling switch value) else none

/-- The switches that an argument with one hyphen may mean: a short option with
    something behind it, or a longer one that starts like the argument. -/
def shortMatches (argument : Text) : List Argument :=
  spellings.filterMap fun (spelling, switch) =>
    if spelling = argument.take 2 then some (.switch spelling switch (some (argument.drop 2)))
    else if argument.isPrefixOf spelling then some (.switch spelling switch none)
    else none

/-- What an argument that starts with a hyphen may mean. -/
def candidates (argument : Text) : List Argument :=
  match argument with
  | _ :: '-' :: _ => longMatches argument
  | _ => shortMatches argument

/-- The switch before an equals sign, with what stands after it. -/
def withValue? (argument : Text) : Option Argument :=
  match Text.cutAt? '=' argument with
  | none => none
  | some (spelling, value) =>
    (switchOf? spelling).map fun switch => .switch spelling switch (some value)

/-- What an argument before two hyphens is. -/
def classify (argument : Text) : Except UsageError Argument :=
  match argument with
  | '-' :: _ :: _ =>
    match switchOf? argument, withValue? argument, candidates argument with
    | some switch, _, _ => .ok (.switch argument switch none)
    | none, some found, _ => .ok found
    | none, none, [found] => .ok found
    | none, none, _ :: _ :: _ => .error (.ambiguous argument)
    | none, none, [] =>
      .ok (if isNegativeNumber argument || argument.contains ' ' then .positional else .unknown)
  | _ => .ok .positional

/-! ### Joined short options -/

/-- The switches in what follows a short option. -/
def joined : Text → Except UsageError (List Switch)
  | [] => .ok []
  | c :: rest =>
    match switchOf? ['-', c] with
    | none => .error (.unexpectedValue (c :: rest))
    | some switch => (joined rest).map (switch :: ·)

/-- The switches that an option stands for.  Only short options may be followed by
    something, which is more of them. -/
def expand (spelling : Text) (switch : Switch) : Option Text → Except UsageError (List Switch)
  | none => .ok [switch]
  | some value =>
    match spelling, value with
    | '-' :: '-' :: _, value => .error (.unexpectedValue value)
    | _, [] => .error (.unexpectedValue [])
    | _, value => (joined value).map (switch :: ·)

/-! ### All arguments -/

/-- The arguments as they were read: the path if there is one, the switches, and what
    is left over. -/
structure Arguments where
  path : Option Text
  switches : List Switch
  leftOver : List Text
deriving DecidableEq, Repr

namespace Arguments

/-- No arguments. -/
def none : Arguments := ⟨.none, [], []⟩

/-- Whether a switch is given. -/
def has (arguments : Arguments) (switch : Switch) : Bool := arguments.switches.contains switch

/-- The path, which is the current directory if none is given. -/
def target (arguments : Arguments) : Text := arguments.path.getD "."

/-- Adds what stands after two hyphens, if there are any: the first argument there is
    the path if there is none yet.  If the hyphens come right after the path, they
    say no more; else they are left over with the rest. -/
def addRest (arguments : Arguments) (afterPath : Bool) : Option (List Text) → Arguments
  | .none => arguments
  | some rest =>
    match arguments.path, rest with
    | .none, [] => arguments
    | .none, path :: rest =>
      { arguments with path := some path, leftOver := arguments.leftOver ++ rest }
    | some _, rest =>
      let marked := if afterPath then rest else "--".toList :: rest
      { arguments with leftOver := arguments.leftOver ++ marked }

/-- Adds an argument that is no option: the path if there is none yet. -/
def addPositional (arguments : Arguments) (text : Text) : Arguments :=
  match arguments.path with
  | .none => { arguments with path := some text }
  | some _ => { arguments with leftOver := arguments.leftOver ++ [text] }

/-- Adds an argument that stands for something. -/
def add (arguments : Arguments) (text : Text) : Argument → Except UsageError Arguments
  | .positional => .ok (arguments.addPositional text)
  | .unknown => .ok { arguments with leftOver := arguments.leftOver ++ [text] }
  | .switch spelling switch value =>
    (expand spelling switch value).map fun switches =>
      { arguments with switches := arguments.switches ++ switches }

/-- Adds arguments and then what stands after two hyphens; `afterPath` says whether
    the path was added last. -/
def addAll (arguments : Arguments) (afterPath : Bool) (rest : Option (List Text)) :
    List (Text × Argument) → Except UsageError Arguments
  | [] => .ok (arguments.addRest afterPath rest)
  | (text, argument) :: others =>
    match arguments.add text argument with
    | .error error => .error error
    | .ok next => next.addAll (argument == .positional && arguments.path.isNone) rest others

/-- What arguments are, each with its text. -/
def classifyAll : List Text → Except UsageError (List (Text × Argument))
  | [] => .ok []
  | text :: rest => do
    let argument ← classify text
    let others ← classifyAll rest
    pure ((text, argument) :: others)

/-- The arguments before two hyphens and after them, if there are any. -/
def cutAtHyphens : List Text → List Text × Option (List Text)
  | [] => ([], .none)
  | text :: rest =>
    if text = "--" then ([], some rest)
    else
      let (before, after) := cutAtHyphens rest
      (text :: before, after)

/-- Reads arguments. -/
def read (texts : List Text) : Except UsageError Arguments := do
  let (before, after) := cutAtHyphens texts
  let classified ← classifyAll before
  addAll none false after classified

end Arguments

end WorkflowLint.CommandLine
