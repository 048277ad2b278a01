/-
  WorkflowLint/Text/CodePoint.lean
  ================================
  **Code points.**

  What comes from outside may have any code points, even halves of surrogate pairs,
  which are no characters.  Such a thing is a list of code points.  Every text is one
  (`ofText`), and a list of code points is a text exactly if all of them are
  characters (`toText_eq_ok_iff`).
-/
import WorkflowLint.Text.Basic

namespace WorkflowLint

/-- A list of code points, halves of surrogate pairs included. -/
abbrev CodePoints := List Nat

namespace CodePoints

/-- The code points of a text. -/
def ofText (text : Text) : CodePoints := text.map Char.toNat

/-- Whether a code point is a character. -/
def isCharacter (code : Nat) : Bool := code.isValidChar

end CodePoints

/-- Why code points are no text: where those start that are no characters, how many there are
    in a row, and the first of them. -/
structure EncodeError where
  position : Nat
  count : Nat
  code : Nat
deriving DecidableEq, Repr

namespace CodePoints

/-- The first code points in a row that are no characters. -/
def surrogates (codes : CodePoints) : EncodeError :=
  let run := (codes.dropWhile isCharacter).takeWhile fun code => !isCharacter code
  ⟨(codes.takeWhile isCharacter).length, run.length, run.headD 0⟩

/-- The text that code points are. -/
def toText (codes : CodePoints) : Except EncodeError Text :=
  if codes.all isCharacter then .ok (codes.map Char.ofNat) else .error codes.surrogates

theorem isCharacter_toNat (c : Char) : isCharacter c.toNat = true := decide_eq_true c.valid

theorem toNat_ofNat {code : Nat} (h : isCharacter code = true) : (Char.ofNat code).toNat = code := by
  rw [Char.ofNat, dif_pos (of_decide_eq_true h)]
  rfl

/-- Code points are a text exactly if they are those of the text. -/
theorem toText_eq_ok_iff {codes : CodePoints} {text : Text} :
    codes.toText = .ok text ↔ codes = ofText text := by
  constructor
  · intro h
    rw [toText] at h
    split at h
    · rename_i hall
      cases h
      have hcode (code : Nat) (hmem : code ∈ codes) : (Char.toNat ∘ Char.ofNat) code = code :=
        toNat_ofNat (List.all_eq_true.mp hall code hmem)
      rw [ofText, List.map_map, List.map_congr_left hcode, List.map_id']
    · cases h
  · rintro rfl
    have hall : (ofText text).all isCharacter = true := by
      rw [ofText, List.all_map, List.all_eq_true]
      exact fun c _ => isCharacter_toNat c
    have hchar (c : Char) (_ : c ∈ text) : (Char.ofNat ∘ Char.toNat) c = c := Char.ofNat_toNat c
    rw [toText, if_pos hall, ofText, List.map_map, List.map_congr_left hchar, List.map_id']

end CodePoints

end WorkflowLint
