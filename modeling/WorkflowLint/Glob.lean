/-
  WorkflowLint/Glob.lean
  ======================
  **Glob patterns.**

  A pattern stands for whole texts.  A star stands for any characters, slashes
  and line feeds included, a question mark for one character, and brackets for
  one character of a class; everything else stands for itself.  A class that
  starts with an exclamation mark holds the characters that are not listed.  A
  bracket that is not closed stands for itself, and a closing bracket that comes
  first in a class belongs to the class.

  What pieces stand for is said by recursion on them (`matchesPieces`), but
  following that recursion may take a time that is exponential in the number of
  stars.  Matching therefore goes from the last piece to the first one and keeps
  which ends of the text the pieces stand for; `matchesRow_eq` says that this is
  the same.
-/
import WorkflowLint.Text.CodePoint

namespace WorkflowLint

/-- A piece of a pattern. -/
inductive GlobPiece where
  | star
  | any
  | literal (code : Nat)
  | oneOf (negated : Bool) (ranges : List (Nat × Nat))
deriving DecidableEq, Repr

namespace Glob

/-! ### Classes -/

/-- A part of a class as written: a code point, or a hyphen between the two ends of
    a range. -/
inductive ClassPart where
  | code (code : Nat)
  | hyphen
deriving DecidableEq, Repr

/-- The parts of the body of a class.  A hyphen joins the code points around it,
    unless it comes first or last or right after a range; `canJoin` says whether a
    hyphen may come next. -/
def classParts (canJoin : Bool) : CodePoints → List ClassPart
  | [] => []
  | [code] => [.code code]
  | code :: next :: rest =>
    if code = '-'.toNat ∧ canJoin then .hyphen :: .code next :: classParts false rest
    else .code code :: classParts true (next :: rest)

/-- The parts without the ranges whose ends are in the wrong order. -/
def dropEmptyRanges : List ClassPart → List ClassPart
  | .code a :: .hyphen :: .code b :: rest =>
    if b < a then dropEmptyRanges rest
    else .code a :: .hyphen :: .code b :: dropEmptyRanges rest
  | part :: rest => part :: dropEmptyRanges rest
  | [] => []

/-- The code points that parts stand for, as ranges. -/
def rangesOf : List ClassPart → List (Nat × Nat)
  | .code a :: .hyphen :: .code b :: rest => (a, b) :: rangesOf rest
  | .code a :: rest => (a, a) :: rangesOf rest
  | .hyphen :: rest => ('-'.toNat, '-'.toNat) :: rangesOf rest
  | [] => []

/-- The parts of a class as written.  An exclamation mark at the start is not the
    end of a range. -/
def partsOf : CodePoints → List ClassPart
  | [] => []
  | code :: rest =>
    if code = '!'.toNat then .code code :: classParts false rest
    else classParts false (code :: rest)

/-- The class that a body in brackets stands for. -/
def classOf (body : CodePoints) : GlobPiece :=
  match dropEmptyRanges (partsOf body) with
  | .code code :: rest =>
    if code = '!'.toNat then .oneOf true (rangesOf rest)
    else .oneOf false (rangesOf (.code code :: rest))
  | parts => .oneOf false (rangesOf parts)

/-- A mark at the start of a list of code points, if it is there, and what follows
    it. -/
def cutMark (mark : Char) : CodePoints → CodePoints × CodePoints
  | [] => ([], [])
  | code :: rest => if code = mark.toNat then ([code], rest) else ([], code :: rest)

/-- The body of a class, for what follows its opening bracket, if the class is
    closed. -/
def classBody? (codes : CodePoints) : Option CodePoints :=
  let (negation, listed) := cutMark '!' codes
  let (first, others) := cutMark ']' listed
  (Text.cutAt? ']'.toNat others).map fun (body, _) => negation ++ first ++ body

/-! ### Patterns -/

/-- The pieces of a pattern, leaving out its first `skip` code points. -/
def piecesFrom (skip : Nat) : CodePoints → List GlobPiece
  | [] => []
  | code :: rest =>
    match skip with
    | skip + 1 => piecesFrom skip rest
    | 0 =>
      if code = '*'.toNat then .star :: piecesFrom 0 rest
      else if code = '?'.toNat then .any :: piecesFrom 0 rest
      else if code = '['.toNat then
        match classBody? rest with
        | some body => classOf body :: piecesFrom (body.length + 1) rest
        | none => .literal code :: piecesFrom 0 rest
      else .literal code :: piecesFrom 0 rest

/-- The pieces of a pattern. -/
def pieces (pattern : CodePoints) : List GlobPiece := piecesFrom 0 pattern

/-- Whether a piece other than a star stands for a code point. -/
def accepts (code : Nat) : GlobPiece → Bool
  | .star => false
  | .any => true
  | .literal other => code == other
  | .oneOf negated ranges =>
    negated != ranges.any fun (first, last) => first ≤ code && code ≤ last

/-- All ends of a list, the longest first. -/
def suffixes : CodePoints → List CodePoints
  | [] => [[]]
  | code :: rest => (code :: rest) :: suffixes rest

/-- Whether pieces stand for a list of code points. -/
def matchesPieces : List GlobPiece → CodePoints → Bool
  | [], codes => codes.isEmpty
  | .star :: pieces, codes => (suffixes codes).any fun rest => matchesPieces pieces rest
  | _ :: _, [] => false
  | piece :: pieces, code :: rest => accepts code piece && matchesPieces pieces rest

/-! ### Matching all ends at once -/

/-- Whether some later member is true, for every member. -/
def anyFrom : List Bool → List Bool
  | [] => []
  | b :: row =>
    let later := anyFrom row
    (b || later.headD false) :: later

/-- For all ends of a list, whether a piece other than a star and the pieces after it
    stand for them, given the row of the pieces after it. -/
def shiftRow (piece : GlobPiece) : CodePoints → List Bool → List Bool
  | code :: rest, _ :: row => (accepts code piece && row.headD false) :: shiftRow piece rest row
  | _, _ => [false]

/-- For all ends of a list, whether a piece and the pieces after it stand for them,
    given the row of the pieces after it. -/
def pieceRow (codes : CodePoints) (piece : GlobPiece) (row : List Bool) : List Bool :=
  match piece with
  | .star => anyFrom row
  | piece => shiftRow piece codes row

/-- For all ends of a list, whether pieces stand for them. -/
def matchesRow (codes : CodePoints) (pieces : List GlobPiece) : List Bool :=
  pieces.foldr (pieceRow codes) ((suffixes codes).map List.isEmpty)

/-- Whether a pattern stands for a text. -/
def accepts? (pattern : CodePoints) (text : Text) : Bool :=
  (matchesRow (CodePoints.ofText text) (pieces pattern)).headD false

theorem suffixes_eq_cons (codes : CodePoints) : ∃ others, suffixes codes = codes :: others := by
  cases codes with
  | nil => exact ⟨[], rfl⟩
  | cons code rest => exact ⟨suffixes rest, rfl⟩

/-- A star stands for the ends at which some later end is matched. -/
theorem anyFrom_suffixes (f : CodePoints → Bool) (codes : CodePoints) :
    anyFrom ((suffixes codes).map f) = (suffixes codes).map fun rest => (suffixes rest).any f := by
  induction codes with
  | nil => simp [suffixes, anyFrom]
  | cons code rest ih =>
    obtain ⟨others, h⟩ := suffixes_eq_cons rest
    simp only [suffixes, List.map_cons, anyFrom, ih, List.any_cons]
    simp [h]

/-- Any other piece takes one code point. -/
theorem shiftRow_suffixes (piece : GlobPiece) (f : CodePoints → Bool) (codes : CodePoints) :
    shiftRow piece codes ((suffixes codes).map f) =
      (suffixes codes).map fun
        | [] => false
        | code :: rest => accepts code piece && f rest := by
  induction codes with
  | nil => rfl
  | cons code rest ih =>
    obtain ⟨others, h⟩ := suffixes_eq_cons rest
    simp only [suffixes, List.map_cons, shiftRow, ih]
    simp [h]

/-- The row of pieces says for every end whether the pieces stand for it. -/
theorem matchesRow_eq (codes : CodePoints) (pieces : List GlobPiece) :
    matchesRow codes pieces = (suffixes codes).map (matchesPieces pieces) := by
  induction pieces with
  | nil => rfl
  | cons piece pieces ih =>
    have step : matchesRow codes (piece :: pieces) =
        pieceRow codes piece (matchesRow codes pieces) := rfl
    rw [step, ih]
    cases piece with
    | star => exact anyFrom_suffixes _ _
    | any | literal | oneOf =>
      refine (shiftRow_suffixes _ _ _).trans (List.map_congr_left fun end' _ => ?_)
      cases end' <;> rfl

/-- A pattern stands for a text if its pieces do. -/
theorem accepts?_eq (pattern : CodePoints) (text : Text) :
    accepts? pattern text = matchesPieces (pieces pattern) (CodePoints.ofText text) := by
  obtain ⟨others, h⟩ := suffixes_eq_cons (CodePoints.ofText text)
  simp [accepts?, matchesRow_eq, h]

end Glob

end WorkflowLint
