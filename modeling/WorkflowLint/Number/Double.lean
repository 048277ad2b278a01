/-
  WorkflowLint/Number/Double.lean
  ===============================
  **Floating-point numbers.**

  A finite double is a significand times a power of two.  A decimal number is
  rounded to the nearest double, a tie going to the even significand.  A double is
  written with the fewest digits that read back as the same double, and with the
  nearest ones among those: the digits are searched on decimal grids of one, two,
  up to seventeen digits, by exact arithmetic on natural numbers.
-/
import WorkflowLint.Host.Float
import WorkflowLint.Text.Basic

namespace WorkflowLint

/-- A floating-point number of sixty-four bits.  A finite one is its significand
    times two to its exponent. -/
inductive Double where
  | finite (negative : Bool) (significand : Nat) (exponent : Int)
  | infinite (negative : Bool)
  | undefined
deriving DecidableEq, Repr

/-! ### Ratios -/

/-- A quotient of natural numbers. -/
structure Ratio where
  num : Nat
  den : Nat
deriving DecidableEq, Repr

namespace Ratio

/-- A natural number as a ratio. -/
def ofNat (n : Nat) : Ratio := ⟨n, 1⟩

/-- A ratio times a power. -/
def scale (base : Nat) (power : Int) (r : Ratio) : Ratio :=
  ⟨r.num * base.pow power.toNat, r.den * base.pow (-power).toNat⟩

/-- The largest natural number that is not above a ratio. -/
def floor (r : Ratio) : Nat := r.num / r.den

/-- Whether a ratio is below another one. -/
def isBelow (r s : Ratio) : Bool := r.num * s.den < s.num * r.den

/-- The nearest natural number, the even one of two. -/
def round (r : Ratio) : Nat :=
  let rest := 2 * (r.num % r.den)
  if r.den < rest ∨ (rest = r.den ∧ r.floor % 2 = 1) then r.floor + 1 else r.floor

end Ratio

namespace Double

/-! ### Rounding decimal numbers -/

/-- The least significand of fifty-three bits. -/
def leastSignificand : Nat := Nat.pow 2 52

/-- The number of digits of a natural number. -/
def digitCount (n : Nat) : Nat := (Nat.toDigits 10 n).length

/-- The exponent of the double that is nearest to a positive ratio: its significand
    takes fifty-three bits, unless the exponent would be too small. -/
def exponentFor (r : Ratio) : Int :=
  let guess : Int := (r.num.log2 : Int) - r.den.log2 - 52
  let exponent := if (r.scale 2 (-guess)).floor < leastSignificand then guess - 1 else guess
  max exponent (-1074)

/-- The double that is nearest to a positive ratio. -/
def ofRatio (negative : Bool) (r : Ratio) : Double :=
  let exponent := exponentFor r
  let significand := (r.scale 2 (-exponent)).round
  let (significand, exponent) :=
    if significand = 2 * leastSignificand then (leastSignificand, exponent + 1)
    else (significand, exponent)
  if 971 < exponent then .infinite negative else .finite negative significand exponent

/-- The double that is nearest to digits times a power of ten. -/
def ofDecimal (negative : Bool) (digits : Nat) (power : Int) : Double :=
  let size := digitCount digits + power
  if digits = 0 ∨ size < -330 then .finite negative 0 0
  else if 310 < size then .infinite negative
  else ofRatio negative ((Ratio.ofNat digits).scale 10 power)

/-! ### Shortest digits -/

/-- A quarter of the unit in the last place, times a natural number. -/
def quarters (exponent : Int) (n : Nat) : Ratio := (Ratio.ofNat n).scale 2 (exponent - 2)

/-- Whether digits times a power of ten are rounded to a double. -/
def readsBack (significand : Nat) (exponent : Int) (digits : Nat) (power : Int) : Bool :=
  let decimal := (Ratio.ofNat digits).scale 10 power
  let below := if significand = leastSignificand ∧ -1074 < exponent then 1 else 2
  let low := quarters exponent (4 * significand - below)
  let high := quarters exponent (4 * significand + 2)
  if significand % 2 = 0 then !decimal.isBelow low && !high.isBelow decimal
  else low.isBelow decimal && decimal.isBelow high

/-- The nearer of the two neighbours of a double on the grid of a power of ten, if
    one of them is rounded to it. -/
def digitsAt? (significand : Nat) (exponent : Int) (power : Int) : Option (Nat × Int) :=
  let scaled := ((Ratio.ofNat significand).scale 2 exponent).scale 10 (-power)
  let near := scaled.round
  let far := if near = scaled.floor then near + 1 else scaled.floor
  if readsBack significand exponent near power then some (near, power)
  else if readsBack significand exponent far power then some (far, power)
  else none

/-- The number of digits before the point, which is not positive for a number that
    is less than a tenth. -/
def pointOf (r : Ratio) : Int :=
  let guess : Int := (digitCount r.num : Int) - digitCount r.den
  if r.isBelow ((Ratio.ofNat 1).scale 10 guess) then guess else guess + 1

/-- The fewest digits that are rounded to a double, with their power of ten. -/
def shortest (significand : Nat) (exponent : Int) : Nat × Int :=
  let point := pointOf ((Ratio.ofNat significand).scale 2 exponent)
  let found := (List.range 17).findSome? fun (count : Nat) =>
    digitsAt? significand exponent (point - ((count : Int) + 1))
  found.getD (0, 0)

/-! ### Writing -/

/-- An exponent with its sign and at least two digits. -/
def exponentText (exponent : Int) : Text :=
  let digits := Text.ofNat exponent.natAbs
  (if exponent < 0 then '-' else '+') :: List.replicate (2 - digits.length) '0' ++ digits

/-- Digits with the point after the given number of them.  The point is written
    as such from the fourth place before the first digit up to the sixteenth
    after it, and by an exponent elsewhere. -/
def positioned (digits : Text) (point : Int) : Text :=
  if -4 < point ∧ point ≤ 0 then "0." ++ List.replicate (-point).toNat '0' ++ digits
  else if 0 < point ∧ point ≤ 16 then
    let whole := digits.take point.toNat
    let fraction := digits.drop point.toNat
    whole ++ List.replicate (point.toNat - digits.length) '0' ++ "."
      ++ (if fraction.isEmpty then ['0'] else fraction)
  else
    digits.take 1 ++ (if digits.length = 1 then [] else '.' :: digits.drop 1) ++ "e"
      ++ exponentText (point - 1)

/-- The text of a double. -/
def toText : Double → Text
  | .undefined => "nan"
  | .infinite negative => (if negative then ['-'] else []) ++ "inf"
  | .finite negative significand exponent =>
    let sign : Text := if negative then ['-'] else []
    if significand = 0 then sign ++ "0.0"
    else
      let (number, power) := shortest significand exponent
      let digits := Text.ofNat number
      sign ++ positioned (Text.dropRightWhile (· == '0') digits) (digits.length + power)

/-- The text of a double in a report, where what is not finite has another name. -/
def reportText : Double → Text
  | .undefined => "NaN"
  | .infinite negative => (if negative then ['-'] else []) ++ "Infinity"
  | number => number.toText

/-- Doubles as a report has them. -/
def format : FloatFormat := ⟨Double, reportText, ofDecimal⟩

/-- The integer that a double is, if it is one. -/
def toInt? : Double → Option Int
  | .finite negative significand exponent =>
    let r := (Ratio.ofNat significand).scale 2 exponent
    if r.num % r.den = 0 then some (if negative then -(r.floor : Int) else r.floor) else none
  | _ => none

/-- Whether a double is zero. -/
def isZero : Double → Bool
  | .finite _ significand _ => significand == 0
  | _ => false

end Double

end WorkflowLint
