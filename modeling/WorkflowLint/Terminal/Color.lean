/-
  WorkflowLint/Terminal/Color.lean
  ================================
  **Colors.**

  A color is a name of the terminal palette, six hexadecimal digits after a number
  sign, a place in the palette as in `color(9)`, or a mixture as in `rgb(0,128,255)`.
  Case does not count.  The components of a mixture are read as numbers before they
  are compared with their bound, so one without digits is an error and not just no
  color.
-/
import WorkflowLint.Number.DigitLimit
import WorkflowLint.Text.Blank
import WorkflowLint.Text.DecimalDigit
import WorkflowLint.Text.LowerCase

namespace WorkflowLint.Terminal

/-- Why a component is not a number. -/
inductive ComponentFault where
  | noDigits
  | tooManyDigits (count : Nat)
deriving DecidableEq, Repr

/-- The wording of a fault. -/
def ComponentFault.message : ComponentFault → Text
  | .noDigits => "invalid literal for int() with base 10: ''"
  | .tooManyDigits count => tooManyDigitsText count

/-- Why a text is not a style: it gives none, or a component of a color in it is not a
    number. -/
inductive StyleFault where
  | unknown
  | component (fault : ComponentFault)
deriving DecidableEq, Repr

namespace Color

/-! ### The palette -/

/-- The hues that have a bright variant. -/
def brightNames : List Text :=
  ["black", "blue", "cyan", "green", "magenta", "red", "white", "yellow"]

/-- The names without a shade. -/
def plainNames : List Text :=
  ["black", "blue_violet", "cadet_blue", "cornflower_blue", "dark_blue", "dark_cyan",
   "dark_goldenrod", "dark_green", "dark_khaki", "dark_magenta", "dark_red", "dark_turquoise",
   "dark_violet", "green_yellow", "light_coral", "light_green", "light_sea_green",
   "light_slate_blue", "light_slate_gray", "light_slate_grey", "medium_spring_green",
   "medium_turquoise", "medium_violet_red", "navy_blue", "rosy_brown", "sandy_brown", "tan",
   "violet", "white"]

/-- The names with their shades, from the first one to the light ones. -/
def shadedNamesFromAquamarine : List (Text × List Text) :=
  [("aquamarine", ["1", "3"]), ("blue", ["", "1", "3"]), ("chartreuse", ["1", "2", "3", "4"]),
   ("cornsilk", ["1"]), ("cyan", ["", "1", "2", "3"]), ("dark_olive_green", ["1", "2", "3"]),
   ("dark_orange", ["", "3"]), ("dark_sea_green", ["", "1", "2", "3", "4"]),
   ("dark_slate_gray", ["1", "2", "3"]), ("deep_pink", ["1", "2", "3", "4"]),
   ("deep_sky_blue", ["1", "2", "3", "4"]), ("dodger_blue", ["1", "2", "3"]),
   ("gold", ["1", "3"]), ("green", ["", "1", "3", "4"]), ("honeydew", ["2"]),
   ("hot_pink", ["", "2", "3"]), ("indian_red", ["", "1"]), ("khaki", ["1", "3"]),
   ("light_cyan", ["1", "3"]), ("light_goldenrod", ["1", "2", "3"]),
   ("light_pink", ["1", "3", "4"]), ("light_salmon", ["1", "3"]), ("light_sky_blue", ["1", "3"]),
   ("light_steel_blue", ["", "1", "3"]), ("light_yellow", ["3"])]

/-- The names with their shades, from magenta on. -/
def shadedNamesFromMagenta : List (Text × List Text) :=
  [("magenta", ["", "1", "2", "3"]), ("medium_orchid", ["", "1", "3"]),
   ("medium_purple", ["", "1", "2", "3", "4"]), ("misty_rose", ["1", "3"]),
   ("navajo_white", ["1", "3"]), ("orange", ["1", "3", "4"]), ("orange_red", ["1"]),
   ("orchid", ["", "1", "2"]), ("pale_green", ["1", "3"]), ("pale_turquoise", ["1", "4"]),
   ("pale_violet_red", ["1"]), ("pink", ["1", "3"]), ("plum", ["1", "2", "3", "4"]),
   ("purple", ["", "3", "4"]), ("red", ["", "1", "3"]), ("royal_blue", ["1"]), ("salmon", ["1"]),
   ("sea_green", ["1", "2", "3"]), ("sky_blue", ["1", "2", "3"]), ("slate_blue", ["1", "3"]),
   ("spring_green", ["1", "2", "3", "4"]), ("steel_blue", ["", "1", "3"]),
   ("thistle", ["1", "3"]), ("turquoise", ["2", "4"]), ("wheat", ["1", "4"]),
   ("yellow", ["", "1", "2", "3", "4"])]

/-- The names with their shades. -/
def shadedNames : List (Text × List Text) := shadedNamesFromAquamarine ++ shadedNamesFromMagenta

/-- The shades of grey. -/
def greyShades : List Text :=
  ["0", "3", "7", "11", "15", "19", "23", "27", "30", "35", "37", "39", "42", "46", "50", "53",
   "54", "58", "62", "63", "66", "69", "70", "74", "78", "82", "84", "85", "89", "93", "100"]

/-- Whether a text is a name with one of its shades. -/
def isShade (text name : Text) (shades : List Text) : Bool :=
  shades.any fun shade => name ++ shade == text

/-- Whether a text is a name of the palette. -/
def isNamed (text : Text) : Bool :=
  text == "default" || plainNames.contains text
    || brightNames.any (fun hue => "bright_" ++ hue == text)
    || shadedNames.any (fun (name, shades) => isShade text name shades)
    || isShade text "grey" greyShades || isShade text "gray" greyShades

/-! ### Numbers -/

/-- The greatest place in the palette, and the greatest component of a mixture. -/
def greatest : Nat := 255

/-- Whether a text is a number sign and six hexadecimal digits. -/
def isHexadecimal : Text → Bool
  | '#' :: digits =>
    digits.length == 6 && digits.all fun c => c.isDigit || ('a' ≤ c && c ≤ 'f')
  | _ => false

/-- What stands in parentheses after a name. -/
def argument? (name text : Text) : Option Text :=
  let opening := name ++ ['(']
  if opening.isPrefixOf text && text.getLast? == some ')' then
    some (text.drop opening.length).dropLast
  else none

/-- Whether a text gives a place in the palette. -/
def isPlace (text : Text) : Bool :=
  match argument? "color" text with
  | some digits =>
    !digits.isEmpty && digits.length ≤ 3 && digits.all Char.isDigit
      && Text.ofDigitValues (digits.filterMap Text.digitValue?) ≤ greatest
  | none => false

/-- The number that a component gives. -/
def component (digits : Text) : Except StyleFault Nat :=
  if digits.isEmpty then .error (.component .noDigits)
  else if digitLimit < digits.length then .error (.component (.tooManyDigits digits.length))
  else .ok (Text.ofDigitValues (digits.filterMap Text.digitValue?))

/-- Whether a text gives a mixture. -/
def isMixture (text : Text) : Except StyleFault Bool :=
  match argument? "rgb" text with
  | none => .ok false
  | some components =>
    if components.isEmpty || !components.all (fun c => c == ',' || Text.isDigit c) then .ok false
    else
      match Text.pieces ',' components with
      | [red, green, blue] => do
        let red ← component red
        let green ← component green
        let blue ← component blue
        pure ([red, green, blue].all (· ≤ greatest))
      | _ => .ok false

/-- The color that a word gives, by its text in lower case. -/
def read (word : Text) : Except StyleFault Text :=
  let text := Text.lowerCase word
  if isNamed text || isHexadecimal text || isPlace text then .ok text
  else do
    if ← isMixture text then pure text else throw .unknown

end Color

end WorkflowLint.Terminal
