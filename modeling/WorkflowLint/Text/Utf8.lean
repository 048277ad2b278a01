/-
  WorkflowLint/Text/Utf8.lean
  ===========================
  **UTF-8.**

  Texts are stored as octets in UTF-8.  Decoding goes through the octets one at
  a time and refuses a sequence at the first octet that rules it out; the error
  names the octet at which the refused character starts.  The bounds of the
  second octet keep out overlong forms, surrogates and code points above
  U+10FFFF.
-/
import WorkflowLint.Text.Basic

namespace WorkflowLint

/-- The octets of a file. -/
abbrev Octets := List UInt8

/-- Why octets are no UTF-8. -/
inductive Utf8Fault where
  | invalidStart
  | invalidContinuation
  | unexpectedEnd
deriving DecidableEq, Repr

/-- The wording of a fault. -/
def Utf8Fault.message : Utf8Fault → Text
  | .invalidStart => "invalid start byte"
  | .invalidContinuation => "invalid continuation byte"
  | .unexpectedEnd => "unexpected end of data"

/-- A fault with the position of the octet at which its character starts. -/
structure Utf8Error where
  fault : Utf8Fault
  position : Nat
deriving DecidableEq, Repr

namespace Utf8

/-! ### Encoding -/

/-- The octet of a number below 256. -/
def octet (n : Nat) : UInt8 := UInt8.ofNat n

/-- The continuation octet that holds the lowest six bits of a number. -/
def continuation (n : Nat) : UInt8 := octet (0x80 + n % 0x40)

/-- The octets of a code point. -/
def encodeCode (code : Nat) : Octets :=
  if code < 0x80 then [octet code]
  else if code < 0x800 then [octet (0xC0 + code / 0x40), continuation code]
  else if code < 0x10000 then
    [octet (0xE0 + code / 0x1000), continuation (code / 0x40), continuation code]
  else
    [octet (0xF0 + code / 0x40000), continuation (code / 0x1000), continuation (code / 0x40),
     continuation code]

/-- The octets of a text. -/
def encode (text : Text) : Octets := text.flatMap fun c => encodeCode c.toNat

/-! ### Decoding -/

/-- A character that is not complete: how many octets it still needs, the bounds
    of the next one, the bits collected so far, and where it started. -/
structure Pending where
  owed : Nat
  low : Nat
  high : Nat
  bits : Nat
  start : Nat
deriving DecidableEq, Repr

/-- The pending character after its first octet, if the octet can start a
    character of several octets. -/
def pendingAfter? (position lead : Nat) : Option Pending :=
  if 0xC2 ≤ lead ∧ lead ≤ 0xDF then some ⟨1, 0x80, 0xBF, lead - 0xC0, position⟩
  else if lead = 0xE0 then some ⟨2, 0xA0, 0xBF, 0, position⟩
  else if lead = 0xED then some ⟨2, 0x80, 0x9F, 0xD, position⟩
  else if 0xE1 ≤ lead ∧ lead ≤ 0xEF then some ⟨2, 0x80, 0xBF, lead - 0xE0, position⟩
  else if lead = 0xF0 then some ⟨3, 0x90, 0xBF, 0, position⟩
  else if 0xF1 ≤ lead ∧ lead ≤ 0xF3 then some ⟨3, 0x80, 0xBF, lead - 0xF0, position⟩
  else if lead = 0xF4 then some ⟨3, 0x80, 0x8F, 4, position⟩
  else none

/-- Decodes octets from a position on, with a character pending or not. -/
def decodeFrom (position : Nat) : Option Pending → Octets → Except Utf8Error Text
  | none, [] => .ok []
  | some pending, [] => .error ⟨.unexpectedEnd, pending.start⟩
  | none, first :: rest =>
    if first.toNat < 0x80 then
      (decodeFrom (position + 1) none rest).map fun text => Char.ofNat first.toNat :: text
    else
      match pendingAfter? position first.toNat with
      | none => .error ⟨.invalidStart, position⟩
      | some pending => decodeFrom (position + 1) (some pending) rest
  | some pending, next :: rest =>
    if pending.low ≤ next.toNat ∧ next.toNat ≤ pending.high then
      let bits := pending.bits * 0x40 + next.toNat % 0x40
      if pending.owed = 1 then
        (decodeFrom (position + 1) none rest).map fun text => Char.ofNat bits :: text
      else decodeFrom (position + 1) (some ⟨pending.owed - 1, 0x80, 0xBF, bits, pending.start⟩) rest
    else .error ⟨.invalidContinuation, pending.start⟩

/-- Decodes octets. -/
def decode (octets : Octets) : Except Utf8Error Text := decodeFrom 0 none octets

/-! ### Byte order mark and line ends -/

/-- The octets of the byte order mark. -/
def byteOrderMark : Octets := [0xEF, 0xBB, 0xBF]

/-- Decodes octets without one byte order mark at their start; positions of
    faults count from after the mark.  Octets that only start a mark are the empty
    text. -/
def decodeMarked (octets : Octets) : Except Utf8Error Text :=
  if octets.isPrefixOf byteOrderMark then .ok []
  else if byteOrderMark.isPrefixOf octets then decode (octets.drop byteOrderMark.length)
  else decode octets

/-- The text with every carriage return, alone or with a line feed after it,
    turned into a line feed. -/
def normalizeLineEnds : Text → Text
  | [] => []
  | '\r' :: '\n' :: rest => '\n' :: normalizeLineEnds rest
  | c :: rest => (if c = '\r' then '\n' else c) :: normalizeLineEnds rest

end Utf8

end WorkflowLint
