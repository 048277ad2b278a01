/-
  WorkflowLint/Proofs/Rule/Content.lean
  =====================================
  **What content rules see of a line.**

  Content rules look at the trimmed text of a line up to version digits, at the
  column of the line, at its expressions and at its reference if that names no
  version.  Lines that agree in these are alike to every content rule, at their
  own place and among the lines that follow another (`check_congr`).
-/
import WorkflowLint.Proofs.Line.Layout
import WorkflowLint.Proofs.Line.Outdated

namespace WorkflowLint

namespace Line

open Text (isBlank allBlank blur)

/-! ### Expressions -/

theorem expressionBody?_of_ne {c : Char} (h : c ≠ '$') (rest : Text) :
    expressionBody? (c :: rest) = none := by
  have hprefix : expressionOpen.isPrefixOf (c :: rest) = false :=
    Text.isPrefixOf_cons_of_ne (fun e => h e.symm) _ rest
  rw [expressionBody?, after?_eq_none hprefix, Option.bind_none]

/-- No expression starts where there is no dollar sign. -/
theorem expressions_append {front : Text} (h : '$' ∉ front) (text : Text) :
    expressions (front ++ text) = expressions text := by
  induction front with
  | nil => rfl
  | cons c front ih =>
    rw [List.mem_cons, not_or] at h
    rw [List.cons_append, expressions, expressionsFrom,
      expressionBody?_of_ne (fun e => h.1 e.symm)]
    exact ih h.2

theorem expressionBody?_append_blank (text : Text) {back : Text} (h : allBlank back = true) :
    expressionBody? (text ++ back) = expressionBody? text := by
  have hopen : ∀ c ∈ expressionOpen, isBlank c = false :=
    Text.forall_mem_of_all (by decide)
  have hclose : '}' ∉ back := not_mem_of_allBlank h (by decide)
  rw [expressionBody?, expressionBody?, after?_append_blank hopen text h]
  cases after? expressionOpen text with
  | none => rfl
  | some rest =>
    rw [Option.map_some, Option.bind_some, Option.bind_some]
    cases hcut : Text.cutAt? '}' rest with
    | none =>
      have hrest : '}' ∉ rest ++ back := by
        rw [List.mem_append, not_or]
        exact ⟨Text.not_mem_of_cutAt?_eq_none hcut, hclose⟩
      rw [Text.cutAt?_eq_none hrest]
    | some pair =>
      obtain ⟨body, after⟩ := pair
      rw [Text.cutAt?_append hcut]
      cases after with
      | cons c after =>
        by_cases hc : c = '}'
        · rw [hc]
          rfl
        · simp [hc]
      | nil =>
        -- the second brace would have to be a blank
        cases back with
        | nil => rfl
        | cons c back =>
          have hc : c ≠ '}' := fun e => hclose (by rw [e]; exact List.mem_cons_self ..)
          simp [hc]

/-- Blanks after a text hold no expression and close none. -/
theorem expressionsFrom_append_blank (skip : Nat) (text : Text) {back : Text}
    (h : allBlank back = true) :
    expressionsFrom skip (text ++ back) = expressionsFrom skip text := by
  induction text generalizing skip with
  | nil =>
    rw [List.nil_append, expressionsFrom]
    induction back generalizing skip with
    | nil => rfl
    | cons c back ih =>
      rw [Text.allBlank_cons, Bool.and_eq_true] at h
      cases skip with
      | succ skip => exact ih h.2 skip
      | zero =>
        have hc : c ≠ '$' := by
          rintro rfl
          exact absurd h.1 (by decide)
        rw [expressionsFrom, expressionBody?_of_ne hc]
        exact ih h.2 0
  | cons c text ih =>
    cases skip with
    | succ skip => exact ih skip
    | zero =>
      have hbody := expressionBody?_append_blank (c :: text) h
      rw [List.cons_append] at hbody
      rw [List.cons_append, expressionsFrom, expressionsFrom, hbody]
      split
      · rw [ih]
      · rw [ih]

/-- The expressions of a line that uses an action stand after the reference. -/
theorem UsesLine.expressions_line (uses : UsesLine) {reference : Text} (h : IsWord reference) :
    expressions (uses.line reference) = expressions uses.after := by
  have hbefore : '$' ∉ uses.before :=
    uses.not_mem_before (by decide) (by decide) (by decide) (by decide)
  rw [line, expressions_append hbefore, expressions_append (h.not_mem (by decide))]

/-! ### Lines that are alike -/

/-- Lines in which content rules see the same. -/
structure Alike (line other : Text) : Prop where
  blur_trim : blur (Text.trim other) = blur (Text.trim line)
  blankWidth_eq : Text.blankWidth other = Text.blankWidth line
  expressions_eq : expressions other = expressions line
  unpinned_eq : (usesReference? other).filter isUnpinned = (usesReference? line).filter isUnpinned

theorem Alike.refl (line : Text) : Alike line line := ⟨rfl, rfl, rfl, rfl⟩

variable {line other : Text}

theorem Alike.isIgnorable_eq (h : Alike line other) : isIgnorable other = isIgnorable line :=
  isIgnorable_of_blur_eq h.blur_trim

theorem Alike.allBlank_eq (h : Alike line other) : allBlank other = allBlank line := by
  have hempty := congrArg List.isEmpty h.blur_trim
  rw [Text.isEmpty_blur, Text.isEmpty_blur] at hempty
  rw [Bool.eq_iff_iff, ← Text.trim_eq_nil, ← Text.trim_eq_nil, ← List.isEmpty_iff,
    ← List.isEmpty_iff, hempty]

/-- Whether a part without blanks and version digits occurs. -/
theorem Alike.hasPart_eq (h : Alike line other) {part : Text} (hne : part ≠ [])
    (hblank : ∀ c ∈ part, isBlank c = false) (hdigit : ∀ c ∈ part, c ∉ Text.versionDigits) :
    Text.hasPart part other = Text.hasPart part line := by
  rw [← Text.hasPart_trim hblank hne other, ← Text.hasPart_blur hdigit, h.blur_trim,
    Text.hasPart_blur hdigit, Text.hasPart_trim hblank hne]

end Line

namespace ContentRule

open Line (Alike)

/-- A reference is objected to if it names no version. -/
theorem objections_unpinnedAction (view : LineView) :
    unpinnedAction.objections view =
      ((Line.usesReference? view.line).filter Line.isUnpinned).toList.map fun (action : Text) =>
        ("Action \"" : Text) ++ action
          ++ "\" missing version tag. Pin to a specific version (e.g., @v4 or @sha)." := by
  simp only [objections]
  cases Line.usesReference? view.line with
  | none => rfl
  | some action =>
    simp only [Option.filter]
    split <;> rfl

variable {line other : Text} {following following' : List Text}

theorem hasSecret_congr (h : Alike line other) :
    Line.hasSecret (Text.trim other) = Line.hasSecret (Text.trim line) := by
  rw [← Line.hasSecret_blur, h.blur_trim, Line.hasSecret_blur]

theorem hasPart_trim_congr (h : Alike line other) {part : Text}
    (hdigit : ∀ c ∈ part, c ∉ Text.versionDigits) :
    Text.hasPart part (Text.trim other) = Text.hasPart part (Text.trim line) := by
  rw [← Text.hasPart_blur hdigit, h.blur_trim, Text.hasPart_blur hdigit]

theorem leavesExpressionOpen_congr (h : Alike line other)
    (hopen : (following'.take Line.expressionReach).any (Text.hasPart Line.expressionClose) =
      (following.take Line.expressionReach).any (Text.hasPart Line.expressionClose)) :
    Line.leavesExpressionOpen other following' = Line.leavesExpressionOpen line following := by
  rw [Line.leavesExpressionOpen, Line.leavesExpressionOpen, hopen,
    h.hasPart_eq (by decide) (Text.forall_mem_of_all (by decide))
      (Text.forall_mem_of_all (by decide)),
    h.hasPart_eq (by decide) (Text.forall_mem_of_all (by decide))
      (Text.forall_mem_of_all (by decide))]

theorem hasEmptyRunner_congr (h : Alike line other)
    (hcolumn : Line.nextColumn? following' = Line.nextColumn? following) :
    Line.hasEmptyRunner other following' = Line.hasEmptyRunner line following := by
  have hkey : ∀ c ∈ "runs-on:".toList, c ∉ Text.versionDigits :=
    Text.forall_mem_of_all (by decide)
  rw [Line.hasEmptyRunner, Line.hasEmptyRunner, hcolumn, h.blankWidth_eq,
    ← Text.beq_blur hkey (Line.dropDash (Line.stripComment (Text.trim other))),
    ← Line.dropDash_blur, ← Line.stripComment_blur, h.blur_trim, Line.stripComment_blur,
    Line.dropDash_blur, Text.beq_blur hkey]

/-- Content rules find the same on lines that are alike, if what they look for on the lines
    after these is the same. -/
theorem check_congr (rule : ContentRule) (h : Alike line other)
    (hopen : (following'.take Line.expressionReach).any (Text.hasPart Line.expressionClose) =
      (following.take Line.expressionReach).any (Text.hasPart Line.expressionClose))
    (hcolumn : Line.nextColumn? following' = Line.nextColumn? following) (number : Int)
    (strict : Bool) :
    rule.check ⟨other, number, following', strict, other⟩ =
      rule.check ⟨line, number, following, strict, line⟩ := by
  have hobjections : rule.objections ⟨other, number, following', strict, other⟩ =
      rule.objections ⟨line, number, following, strict, line⟩ := by
    cases rule with
    | hardcodedSecret =>
      simp only [objections, hasSecret_congr h]
      rw [hasPart_trim_congr h (Text.forall_mem_of_all (by decide)),
        hasPart_trim_congr h (Text.forall_mem_of_all (by decide))]
    | unpinnedAction =>
      rw [objections_unpinnedAction, objections_unpinnedAction]
      simp only [h.unpinned_eq]
    | unbalancedParentheses => simp only [objections, h.expressions_eq]
    | unclosedExpression => simp only [objections, leavesExpressionOpen_congr h hopen]
    | emptyRunsOn => simp only [objections, hasEmptyRunner_congr h hcolumn]
  rw [check, check, hobjections]

end ContentRule

end WorkflowLint
