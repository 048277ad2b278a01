/-
  WorkflowLint/Yaml/Encoding.lean
  ===============================
  **The characters of a YAML file.**

  A file is in UTF-8, unless a byte order mark at its start says that it is in
  UTF-16, with the low or the high octet of a unit first.  The text may hold no
  control characters other than line ends and tabs.  A mark at its start is
  left out, and all line ends become line feeds.
-/
import WorkflowLint.Text.Utf8
import WorkflowLint.Yaml.Fault

namespace WorkflowLint.Yaml

/-! ### UTF-16 -/

/-- The order of the two octets of a unit. -/
inductive UnitOrder where
  | lowFirst
  | highFirst
deriving DecidableEq, Repr

/-- The order of octets that a byte order mark at the start gives, if it is there. -/
def unitOrder? : Octets → Option UnitOrder
  | 0xFF :: 0xFE :: _ => some .lowFirst
  | 0xFE :: 0xFF :: _ => some .highFirst
  | _ => none

/-- The units of sixteen bits that octets are, unless one octet is left over. -/
def units? (order : UnitOrder) : Octets → Option (List Nat)
  | [] => some []
  | [_] => none
  | first :: second :: rest =>
    let code :=
      match order with
      | .lowFirst => first.toNat + 0x100 * second.toNat
      | .highFirst => 0x100 * first.toNat + second.toNat
    (units? order rest).map (code :: ·)

/-- Whether a unit is the first half of a surrogate pair. -/
def isFirstHalf (code : Nat) : Bool := 0xD800 ≤ code && code < 0xDC00

/-- Whether a unit is the second half of a surrogate pair. -/
def isSecondHalf (code : Nat) : Bool := 0xDC00 ≤ code && code < 0xE000

/-- The text that units stand for, after the first half of a surrogate pair or not;
    nothing if a half has no other half. -/
def ofUnits? : Option Nat → List Nat → Option Text
  | none, [] => some []
  | some _, [] => none
  | none, code :: rest =>
    if isFirstHalf code then ofUnits? (some code) rest
    else if isSecondHalf code then none
    else (ofUnits? none rest).map (Char.ofNat code :: ·)
  | some half, code :: rest =>
    if isSecondHalf code then
      let whole := 0x10000 + 0x400 * (half - 0xD800) + (code - 0xDC00)
      (ofUnits? none rest).map (Char.ofNat whole :: ·)
    else none

/-! ### Texts -/

/-- The characters of octets. -/
def decode (octets : Octets) : Except Fault Text :=
  match unitOrder? octets with
  | some order =>
    match (units? order octets).bind (ofUnits? none) with
    | some text => .ok text
    | none => .error .encoding
  | none =>
    match Utf8.decode octets with
    | .ok text => .ok text
    | .error _ => .error .encoding

/-- Whether a character may belong to a YAML text. -/
def isAdmitted (c : Char) : Bool :=
  Text.inRanges c.toNat
    [(0x09, 0x0A), (0x0D, 0x0D), (0x20, 0x7E), (0x85, 0x85), (0xA0, 0xD7FF), (0xE000, 0xFFFD),
     (0x10000, 0x10FFFF)]

/-- A text without a byte order mark at its start. -/
def dropMark : Text → Text
  | '\ufeff' :: rest => rest
  | text => text

/-- The text of a YAML file. -/
def readText (octets : Octets) : Except Fault Text :=
  match decode octets with
  | .error fault => .error fault
  | .ok text =>
    if text.all isAdmitted then .ok (dropMark (Utf8.normalizeLineEnds text))
    else .error .unprintable

end WorkflowLint.Yaml
