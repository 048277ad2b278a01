/-
  WorkflowLint/Terminal/Style.lean
  ================================
  **Styles.**

  A style is written as words: effects by their names or short names, `not`
  before an effect that is switched off, a color, `on` before the color behind
  the text, and `link` before an address.  A later word replaces an earlier one of
  its kind.  Two texts that give the same style have the same normal form: the
  effects in a fixed order, then the colors and the address.
-/
import WorkflowLint.Terminal.Color

namespace WorkflowLint.Terminal

/-! ### Effects -/

/-- What a style switches on or off. -/
inductive Effect where
  | bold
  | dim
  | italic
  | underline
  | blink
  | fastBlink
  | reverse
  | conceal
  | strike
  | doubleUnderline
  | frame
  | encircle
  | overline
deriving DecidableEq, Repr

namespace Effect

/-- All effects in the order in which they are written. -/
def all : List Effect :=
  [.bold, .dim, .italic, .underline, .blink, .fastBlink, .reverse, .conceal, .strike,
   .doubleUnderline, .frame, .encircle, .overline]

/-- The name of an effect. -/
def name : Effect → Text
  | .bold => "bold"
  | .dim => "dim"
  | .italic => "italic"
  | .underline => "underline"
  | .blink => "blink"
  | .fastBlink => "blink2"
  | .reverse => "reverse"
  | .conceal => "conceal"
  | .strike => "strike"
  | .doubleUnderline => "underline2"
  | .frame => "frame"
  | .encircle => "encircle"
  | .overline => "overline"

/-- The short name of an effect. -/
def shortName? : Effect → Option Text
  | .bold => some "b"
  | .dim => some "d"
  | .italic => some "i"
  | .underline => some "u"
  | .reverse => some "r"
  | .conceal => some "c"
  | .strike => some "s"
  | .doubleUnderline => some "uu"
  | .overline => some "o"
  | _ => none

/-- The effect that a word names. -/
def ofWord? (word : Text) : Option Effect :=
  all.find? fun effect => effect.name == word || effect.shortName? == some word

end Effect

/-! ### Styles -/

/-- A style: its effects with what they are set to, the latest first, its colors
    and its address. -/
structure Style where
  effects : List (Effect × Bool)
  color : Option Text
  background : Option Text
  link : Option Text
deriving DecidableEq, Repr

namespace Style

/-- The style that changes nothing. -/
def plain : Style := ⟨[], none, none, none⟩

/-- A style with an effect set. -/
def set (style : Style) (effect : Effect) (on : Bool) : Style :=
  { style with effects := (effect, on) :: style.effects }

/-- A style changed by words. -/
def change (style : Style) : List Text → Except StyleFault Style
  | [] => .ok style
  | word :: words =>
    let key := Text.lowerCase word
    if key == "on" then
      match words with
      | [] => .error .unknown
      | word :: words => do
        let color ← Color.read word
        change { style with background := some color } words
    else if key == "not" then
      match words with
      | [] => .error .unknown
      | word :: words =>
        match Effect.ofWord? word with
        | none => .error .unknown
        | some effect => change (style.set effect false) words
    else if key == "link" then
      match words with
      | [] => .error .unknown
      | word :: words => change { style with link := some word } words
    else
      match Effect.ofWord? key with
      | some effect => change (style.set effect true) words
      | none => do
        let color ← Color.read word
        change { style with color := some color } words

/-- The text of the style that changes nothing. -/
def plainText : Text := "none"

/-- The style that a text gives. -/
def read (text : Text) : Except StyleFault Style :=
  if Text.trim text == plainText then .ok plain else plain.change (Text.words text)

/-- The words of an effect that is set. -/
def effectWords (style : Style) (effect : Effect) : List Text :=
  match style.effects.lookup effect with
  | none => []
  | some true => [effect.name]
  | some false => ["not", effect.name]

/-- The words that give a style. -/
def words (style : Style) : List Text :=
  Effect.all.flatMap style.effectWords
    ++ style.color.toList
    ++ (style.background.map fun color => (["on", color] : List Text)).getD []
    ++ (style.link.map fun address => (["link", address] : List Text)).getD []

/-- The text that gives a style. -/
def text (style : Style) : Text :=
  match style.words with
  | [] => plainText
  | words => Text.join " " words

/-- The normal form of a style's text, or the text in lower case if it gives none. -/
def normalForm (text : Text) : Except ComponentFault Text :=
  match read text with
  | .ok style => .ok style.text
  | .error .unknown => .ok (Text.lowerCase (Text.trim text))
  | .error (.component fault) => .error fault

/-- Fails if a component of a color in a text is not a number. -/
def checkComponents (text : Text) : Except ComponentFault Unit := (normalForm text).map fun _ => ()

end Style

end WorkflowLint.Terminal
