/-
  WorkflowLint/Yaml/Atom.lean
  ===========================
  **The values of scalars.**

  A plain scalar is a null, a truth value, a number, a date or a moment if it is
  written like one; everything else, and every quoted scalar, is a text.  Some
  texts have the form of a number or of a date without being one, and then the
  scalar has no value.
-/
import WorkflowLint.Number.Double
import WorkflowLint.Yaml.Calendar
import WorkflowLint.Yaml.Scalar

namespace WorkflowLint.Yaml

/-- The value of a scalar. -/
inductive Atom where
  | null
  | bool (value : Bool)
  | int (value : Int)
  | float (value : Double)
  | date (value : Date)
  | moment (value : Moment)
  | str (codes : CodePoints)
deriving DecidableEq, Repr

/-! ### Digits -/

/-- Whether a character is a decimal digit. -/
def isDigit (c : Char) : Bool := '0' ≤ c && c ≤ '9'

/-- Whether a character is a decimal digit or an underscore between digits. -/
def isSpacedDigit (c : Char) : Bool := isDigit c || c == '_'

/-- A text without its underscores, which say nothing. -/
def withoutUnderscores (text : Text) : Text := text.filter (· != '_')

/-- The number that digits of a base stand for. -/
def numberOf (base : Nat) (digits : Text) : Nat :=
  digits.foldl (fun n c => (hexValue? c).elim n fun digit => base * n + digit) 0

/-- Whether a text starts with a minus, and the text without its sign. -/
def cutSign : Text → Bool × Text
  | '-' :: rest => (true, rest)
  | '+' :: rest => (false, rest)
  | text => (false, text)

/-- An integer with a sign. -/
def signed (negative : Bool) (n : Nat) : Int := if negative then -(n : Int) else n

/-! ### Integers -/

/-- The digits of a base behind a mark, with underscores among them, if a text is
    written like that. -/
def digitsAfter? (mark : Text) (p : Char → Bool) (text : Text) : Option Text :=
  let digits := text.drop mark.length
  if mark.isPrefixOf text && !digits.isEmpty && digits.all (fun c => p c || c == '_') then
    some (withoutUnderscores digits)
  else none

/-- Whether a character is an octal digit. -/
def isOctal (c : Char) : Bool := '0' ≤ c && c ≤ '7'

/-- The base and the digits of the natural number that a text is written like. -/
def naturalDigits? (text : Text) : Option (Nat × Text) :=
  let binary := (digitsAfter? "0b" (fun c => c == '0' || c == '1') text).map (2, ·)
  let octal := (digitsAfter? "0o" isOctal text).map (8, ·)
  let hexadecimal := (digitsAfter? "0x" (fun c => (hexValue? c).isSome) text).map (16, ·)
  let decimal := (digitsAfter? "" isDigit text).map (10, ·)
  ((binary.or octal).or hexadecimal).or decimal

/-- The natural number that digits are.  There may be too few of them, and in base ten
    too many. -/
def readNatural (base : Nat) (digits : Text) : Except ValueError Nat :=
  if digits.isEmpty then .error (.noDigits base)
  else if base = 10 ∧ digitLimit < digits.length then
    .error (.tooManyDigits digits.length)
  else .ok (numberOf base digits)

/-- The integer that a text is written like. -/
def readInt? (text : Text) : Option (Except ValueError Atom) :=
  let (negative, body) := cutSign text
  if text.head? = some '_' then none
  else
    (naturalDigits? body).map fun (base, digits) =>
      match readNatural base digits with
      | .error error => .error error
      | .ok n => .ok (.int (signed negative n))

/-! ### Floating-point numbers -/

/-- The parts of a decimal number: what it is, whether it has a minus, the digits on
    both sides of the point, and the exponent as written. -/
structure Decimal where
  negative : Bool
  whole : Text
  fraction : Text
  exponent : Text
deriving DecidableEq, Repr

/-- Whether a text is an exponent: a letter, a sign that may be left out or not, and
    digits. -/
def isExponent (signOptional : Bool) : Text → Bool
  | [] => false
  | c :: rest =>
    let digits := (cutSign rest).2
    (c == 'e' || c == 'E') && !digits.isEmpty && digits.all isDigit
      && (signOptional || digits.length < rest.length)

/-- The exponent that a text is; an empty one is zero. -/
def exponentOf (text : Text) : Int :=
  let (negative, digits) := cutSign (text.drop 1)
  signed negative (numberOf 10 digits)

/-- The parts of the decimal number that a text is written like.  A number without a
    point has an exponent, and one that starts with the point has an exponent with a
    sign, if it has one. -/
def decimalOf? (text : Text) : Option Decimal :=
  let (negative, body) := cutSign text
  let whole := body.takeWhile isSpacedDigit
  match body.drop whole.length with
  | '.' :: rest =>
    let fraction := rest.takeWhile isSpacedDigit
    let exponent := rest.drop fraction.length
    let parts := Decimal.mk negative whole fraction exponent
    if whole.isEmpty then
      if !fraction.isEmpty && (exponent.isEmpty || isExponent false exponent) then some parts
      else none
    else if whole.head? ≠ some '_' && (exponent.isEmpty || isExponent true exponent) then some parts
    else none
  | exponent =>
    if !whole.isEmpty && whole.head? ≠ some '_' && isExponent true exponent then
      some ⟨negative, whole, [], exponent⟩
    else none

/-- The number that decimal parts are.  There must be a digit beside the point. -/
def Decimal.value (decimal : Decimal) : Except ValueError Double :=
  let whole := withoutUnderscores decimal.whole
  let fraction := withoutUnderscores decimal.fraction
  if whole.isEmpty && fraction.isEmpty then
    .error (.noNumber ('.' :: decimal.exponent.map fun c => if c = 'E' then 'e' else c))
  else
    .ok (Double.ofDecimal decimal.negative (numberOf 10 (whole ++ fraction))
      (exponentOf decimal.exponent - fraction.length))

/-- The floating-point number that a text is written like. -/
def readFloat? (text : Text) : Option (Except ValueError Atom) :=
  (decimalOf? text).map fun decimal =>
    match decimal.value with
    | .error error => .error error
    | .ok value => .ok (.float value)

/-! ### Dates and moments -/

/-- A number of at least `least` and at most `most` digits at the start of a text. -/
def takeNumber? (least most : Nat) (text : Text) : Option (Nat × Text) :=
  let digits := (text.take most).takeWhile isDigit
  if digits.length < least then none else some (numberOf 10 digits, text.drop digits.length)

/-- What follows a mark at the start of a text. -/
def takeMark? (mark : Char) : Text → Option Text
  | [] => none
  | c :: rest => if c = mark then some rest else none

/-- What follows the mark or the blanks between a date and a time of day. -/
def takeSeparator? : Text → Option Text
  | [] => none
  | c :: rest =>
    if c = 'T' ∨ c = 't' then some rest
    else if c = ' ' ∨ c = '\t' then some (rest.dropWhile fun next => next == ' ' || next == '\t')
    else none

/-- The digits of a fraction of a second, if there is one, and what follows it. -/
def takeFraction : Text → Text × Text
  | '.' :: rest =>
    let digits := rest.takeWhile isDigit
    (digits, rest.drop digits.length)
  | text => ([], text)

/-- The zone that a text is: a letter, or hours and minutes with a sign. -/
def readZone? (text : Text) : Option (Except ValueError Zone) :=
  match text with
  | ['Z'] => some (Zone.of 0 text)
  | sign :: rest =>
    if sign = '+' ∨ sign = '-' then do
      let (hours, rest) ← takeNumber? 1 2 rest
      let (minutes, rest) ←
        match rest with
        | ':' :: rest => takeNumber? 2 2 rest
        | rest => some (0, rest)
      if rest.isEmpty then some (Zone.of (signed (sign == '-') (60 * hours + minutes)) text)
      else none
    else none
  | [] => none

/-- The zone that may follow a time of day, after blanks. -/
def readZonePart? (text : Text) : Option (Except ValueError (Option Zone)) :=
  if text.isEmpty then some (.ok none)
  else
    (readZone? (text.dropWhile fun c => c == ' ' || c == '\t')).map fun zone => zone.map some

/-- The microseconds that the digits of a fraction are, rounded at the seventh digit. -/
def microsOf (digits : Text) : Nat :=
  let shown := digits.take 6
  let micros := numberOf 10 (shown ++ List.replicate (6 - shown.length) '0')
  if (digits.drop 6).head?.any fun c => '4' < c then micros + 1 else micros

/-- The date with which a text starts, its month and its day having at least `least`
    digits, and what follows it. -/
def takeDate? (least : Nat) (text : Text) : Option (Except ValueError Date × Text) := do
  let (year, rest) ← takeNumber? 4 4 text
  let rest ← takeMark? '-' rest
  let (month, rest) ← takeNumber? least 2 rest
  let rest ← takeMark? '-' rest
  let (day, rest) ← takeNumber? least 2 rest
  pure (Date.of year month day, rest)

/-- The date that a text is written like. -/
def readDate? (text : Text) : Option (Except ValueError Atom) :=
  match takeDate? 2 text with
  | some (date, []) => some (date.map .date)
  | _ => none

/-- A moment, or the one a second later if its microseconds were rounded up to a
    second. -/
def roundedMoment (date : Except ValueError Date) (hour minute second micros : Nat)
    (zone : Option Zone) : Except ValueError Moment :=
  if micros < 1000000 then Moment.of date hour minute second micros zone
  else
    match Moment.of date hour minute second 0 zone with
    | .error error => .error error
    | .ok moment => moment.nextSecond

/-- The moment that a text is written like.  Its zone is looked at before its date. -/
def readMoment? (text : Text) : Option (Except ValueError Atom) := do
  let (date, rest) ← takeDate? 1 text
  let rest ← takeSeparator? rest
  let (hour, rest) ← takeNumber? 1 2 rest
  let rest ← takeMark? ':' rest
  let (minute, rest) ← takeNumber? 2 2 rest
  let rest ← takeMark? ':' rest
  let (second, rest) ← takeNumber? 2 2 rest
  let (fraction, rest) := takeFraction rest
  let zone ← readZonePart? rest
  pure <|
    match zone with
    | .error error => .error error
    | .ok zone => (roundedMoment date hour minute second (microsOf fraction) zone).map .moment

/-! ### Plain scalars -/

/-- The words that stand for a value. -/
def words : List (Text × Atom) :=
  [("", .null), ("~", .null), ("null", .null), ("Null", .null), ("NULL", .null),
   ("true", .bool true), ("True", .bool true), ("TRUE", .bool true),
   ("false", .bool false), ("False", .bool false), ("FALSE", .bool false),
   (".inf", .float (.infinite false)), (".Inf", .float (.infinite false)),
   (".INF", .float (.infinite false)), ("+.inf", .float (.infinite false)),
   ("+.Inf", .float (.infinite false)), ("+.INF", .float (.infinite false)),
   ("-.inf", .float (.infinite true)), ("-.Inf", .float (.infinite true)),
   ("-.INF", .float (.infinite true)), (".nan", .float .undefined),
   (".NaN", .float .undefined), (".NAN", .float .undefined)]

/-- The value that a word stands for. -/
def readWord? (text : Text) : Option Atom :=
  (words.find? fun word => word.1 == text).map Prod.snd

/-- The value of a plain scalar.  A lone equals sign and a merge key stand for no
    value of their own. -/
def readAtom (text : Text) : Except Fault Atom :=
  if text == "<<".toList || text == "=".toList then .error .noValue
  else
    let form := ((readFloat? text).or (readInt? text)).or ((readDate? text).or (readMoment? text))
    match readWord? text, form with
    | some atom, _ => .ok atom
    | none, some (.ok atom) => .ok atom
    | none, some (.error error) => .error (.value error)
    | none, none => .ok (.str (CodePoints.ofText text))

namespace Atom

/-! ### Comparing -/

/-- The integer that a truth value or a number without a fraction counts as. -/
def toInt? : Atom → Option Int
  | .bool value => some (if value then 1 else 0)
  | .int value => some value
  | .float value => value.toInt?
  | _ => none

/-- Whether two atoms are the same.  Numbers and truth values are compared by value,
    moments by the instant. -/
def isSame (a b : Atom) : Bool :=
  match a, b with
  | .moment x, .moment y => x.isSame y
  | a, b =>
    match a.toInt?, b.toInt? with
    | some m, some n => m == n
    | none, none => a == b
    | _, _ => false

/-- The truth value that an atom stands for. -/
def isTrue : Atom → Bool
  | .null => false
  | .bool value => value
  | .int value => value != 0
  | .float value => !value.isZero
  | .date _ => true
  | .moment _ => true
  | .str codes => !codes.isEmpty

/-! ### Writing -/

/-- An integer in decimal digits, if they are not too many. -/
def intText (value : Int) : Except ValueError Text :=
  if Nat.pow 10 digitLimit ≤ value.natAbs then .error .tooLongToWrite
  else .ok (Text.ofInt value)

/-- An atom inside brackets. -/
def inner : Atom → Except ValueError Text
  | .null => .ok "None"
  | .bool value => .ok (if value then "True" else "False")
  | .int value => intText value
  | .float value => .ok value.toText
  | .date value => .ok value.inner
  | .moment value => .ok value.inner
  | .str codes => .ok (Text.quotedCodes codes)

/-- An atom that stands alone. -/
def display : Atom → Except ValueError CodePoints
  | .str codes => .ok codes
  | .date value => .ok (CodePoints.ofText value.display)
  | .moment value => .ok (CodePoints.ofText value.display)
  | atom => atom.inner.map CodePoints.ofText

end Atom

end WorkflowLint.Yaml
