/-
  WorkflowLint/Yaml/Display.lean
  ==============================
  **Values as texts and as truth values.**

  Where a text is expected, any value stands for its display: a text for itself, a
  list and a mapping for their parts in brackets, texts inside being quoted.  A
  container inside itself is three dots in its brackets.  Where a truth value is
  expected, null, zero and everything empty are false.
-/
import WorkflowLint.Yaml.Graph

namespace WorkflowLint.Yaml

/-! ### Inside brackets -/

/-- Texts with commas between them, if they all could be written. -/
def joinTexts : List (Except ValueError Text) → Except ValueError Text
  | [] => .ok []
  | [text] => text
  | .error error :: _ => .error error
  | .ok text :: next :: others => (joinTexts (next :: others)).map fun rest => text ++ ", " ++ rest

/-- A text between an opening and a closing bracket. -/
def enclosed (opening closing : Char) (text : Except ValueError Text) : Except ValueError Text :=
  text.map fun text => opening :: text ++ [closing]

namespace Key

/-- A key inside brackets.  A tuple is put between parentheses, with a comma after a
    lone item. -/
def inner : Key → Except ValueError Text
  | .atom a => a.inner
  | .tuple [item] => enclosed '(' ')' (item.inner.map fun text => text ++ ",")
  | .tuple items => enclosed '(' ')' (joinTexts (items.map Atom.inner))

/-- A key that stands alone. -/
def display : Key → Except ValueError CodePoints
  | .atom a => a.display
  | key => key.inner.map CodePoints.ofText

end Key

/-- An entry inside brackets, given its value there. -/
def entryText (key : Key) (value : Except ValueError Text) : Except ValueError Text :=
  match key.inner with
  | .error error => .error error
  | .ok key => value.map fun value => key ++ ": " ++ value

namespace Graph

/-- A value inside brackets, inside the containers `around`.  As containers that are in
    themselves are cut, no more than all of them are nested. -/
def innerFrom (graph : Graph) (fuel : Nat) (around : List NodeId) (value : Value) :
    Except ValueError Text :=
  match fuel, value with
  | 0, _ => .ok []
  | _ + 1, .atom atom => atom.inner
  | fuel + 1, .container id =>
    let parts := graph.innerFrom fuel (id :: around)
    match graph.content id, around.contains id with
    | .list _, true => .ok "[...]"
    | .mapping _, true => .ok "\x7b...\x7d"
    | .list items, false => enclosed '[' ']' (joinTexts (items.map parts))
    | .mapping entries, false =>
      enclosed '\x7b' '\x7d'
        (joinTexts (entries.map fun (key, value) => entryText key (parts value)))

/-- A value inside brackets. -/
def inner (graph : Graph) (value : Value) : Except ValueError Text :=
  graph.innerFrom (graph.size + 2) [] value

/-- A value that stands alone. -/
def display (graph : Graph) : Value → Except ValueError CodePoints
  | .atom atom => atom.display
  | value => (graph.inner value).map CodePoints.ofText

/-- The truth value that a value stands for. -/
def isTrue (graph : Graph) : Value → Bool
  | .atom atom => atom.isTrue
  | .container id =>
    match graph.content id with
    | .list items => !items.isEmpty
    | .mapping entries => !entries.isEmpty

end Graph

end WorkflowLint.Yaml
