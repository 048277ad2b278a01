/-
  WorkflowLint/Proofs/Rule/Expression.lean
  ========================================
  **Every expression of a line is looked at once.**

  The bodies of a line's expressions are found from left to right, and the search goes on
  behind the mark that closes an expression.  The mark that opens one does not overlap with
  itself, so nothing that stands before it can shift the search, and a body ends at its first
  closing brace, whatever it opens itself.  Hence a line that is written as expressions between
  other texts is taken apart into just these (`expressions_withExpressions`), and each of them
  is found unbalanced or not by itself (`check_unbalancedParentheses`).
-/
import WorkflowLint.Proofs.Rule.Content

namespace WorkflowLint

namespace Line

/-! ### The search for expressions -/

theorem expressionsFrom_eq (skip : Nat) (text : Text) :
    expressionsFrom skip text = expressions (text.drop skip) := by
  induction text generalizing skip with
  | nil =>
    rw [List.drop_nil]
    rfl
  | cons c rest ih =>
    cases skip with
    | zero => rfl
    | succ skip => exact ih skip

theorem expressions_cons_of_body {c : Char} {rest body : Text}
    (h : expressionBody? (c :: rest) = some body) :
    expressions (c :: rest) = body :: expressions (rest.drop (body.length + 4)) := by
  rw [expressions, expressionsFrom, h, ← expressionsFrom_eq]

/-- An expression whose body holds no closing brace is found where it starts. -/
theorem expressions_open {body : Text} (h : '}' ∉ body) (rest : Text) :
    expressions (expressionOpen ++ (body ++ (expressionClose ++ rest))) =
      body :: expressions rest := by
  have hcut : Text.cutAt? '}' (body ++ (expressionClose ++ rest)) = some (body, '}' :: rest) := by
    induction body with
    | nil => rfl
    | cons c body ih =>
      rw [List.mem_cons, not_or] at h
      rw [List.cons_append, Text.cutAt?, if_neg (fun e => h.1 e.symm), ih h.2, Option.map_some]
  have hbody : expressionBody? ('$' :: '{' :: '{' :: (body ++ (expressionClose ++ rest))) =
      some body := by
    change expressionBody? (expressionOpen ++ (body ++ (expressionClose ++ rest))) = some body
    rw [expressionBody?, after?_append, Option.bind_some, hcut]
    rfl
  -- what is skipped is the rest of the opening mark, the body and the closing mark
  have hrest : ('{' :: '{' :: (body ++ (expressionClose ++ rest))).drop (body.length + 4) =
      rest := by
    rw [List.drop_succ_cons, List.drop_succ_cons, ← List.append_assoc]
    exact List.drop_left' (by simp [expressionClose])
  calc expressions ('$' :: '{' :: '{' :: (body ++ (expressionClose ++ rest)))
      = body :: expressions (('{' :: '{' :: (body ++ (expressionClose ++ rest))).drop
          (body.length + 4)) := expressions_cons_of_body hbody
    _ = body :: expressions rest := by rw [hrest]

theorem expressions_cons_of_not_open {c : Char} {rest : Text}
    (h : ¬expressionOpen <+: c :: rest) : expressions (c :: rest) = expressions rest := by
  have hprefix : expressionOpen.isPrefixOf (c :: rest) = false := by
    rw [← Bool.not_eq_true, List.isPrefixOf_iff_prefix]
    exact h
  rw [expressions, expressionsFrom, expressionBody?, after?_eq_none hprefix, Option.bind_none]
  rfl

theorem expressions_of_not_infix {text : Text} (h : ¬expressionOpen <:+: text) :
    expressions text = [] := by
  induction text with
  | nil => rfl
  | cons c rest ih =>
    rw [List.infix_cons_iff, not_or] at h
    rw [expressions_cons_of_not_open h.1]
    exact ih h.2

/-- No proper start of the mark is one of its ends: before the mark, it does not start unless it
    stands there as a whole. -/
theorem not_prefix_append_open {c : Char} {front : Text} (h : ¬expressionOpen <+: c :: front)
    (text : Text) : ¬expressionOpen <+: c :: (front ++ (expressionOpen ++ text)) := by
  intro hprefix
  match front with
  | [] => simp [expressionOpen] at hprefix
  | [d] => simp [expressionOpen] at hprefix
  | d :: e :: front =>
    apply h
    refine List.prefix_of_prefix_length_le hprefix (List.prefix_append ..) ?_
    simp [expressionOpen]

/-- What stands before an expression does not hide it. -/
theorem expressions_append_open {front : Text} (h : ¬expressionOpen <:+: front) (text : Text) :
    expressions (front ++ (expressionOpen ++ text)) = expressions (expressionOpen ++ text) := by
  induction front with
  | nil => rfl
  | cons c front ih =>
    rw [List.infix_cons_iff, not_or] at h
    rw [List.cons_append, expressions_cons_of_not_open (not_prefix_append_open h.1 text)]
    exact ih h.2

/-! ### Lines written with expressions -/

/-- A text with expressions: each with what stands before it and with its body, and what stands
    behind the last one. -/
def withExpressions : List (Text × Text) → Text → Text
  | [], tail => tail
  | (front, body) :: others, tail =>
    front ++ (expressionOpen ++ (body ++ (expressionClose ++ withExpressions others tail)))

/-- The expressions of a text are those that it is written with. -/
theorem expressions_withExpressions {parts : List (Text × Text)} {tail : Text}
    (hfronts : ∀ part ∈ parts, ¬expressionOpen <:+: part.1)
    (hbodies : ∀ part ∈ parts, '}' ∉ part.2)
    (htail : ¬expressionOpen <:+: tail) :
    expressions (withExpressions parts tail) = parts.map Prod.snd := by
  induction parts with
  | nil => exact expressions_of_not_infix htail
  | cons part others ih =>
    rw [List.forall_mem_cons] at hfronts hbodies
    rw [withExpressions, expressions_append_open hfronts.1, expressions_open hbodies.1,
      ih hfronts.2 hbodies.2, List.map_cons]

theorem isBalanced_trim_iff {body : Text} :
    isBalanced (Text.trim body) = true ↔ body.count '(' = body.count ')' := by
  -- parentheses are no blanks
  have hcount {c : Char} (hc : Text.isBlank c = false) :
      (Text.trim body).count c = body.count c := by
    obtain ⟨back, hback, htext⟩ := Text.exists_trim body
    have hfront := not_mem_of_allBlank (Text.allBlank_takeWhile body) hc
    conv => rhs; rw [htext]
    rw [List.count_append, List.count_append, List.count_eq_zero_of_not_mem hfront,
      List.count_eq_zero_of_not_mem (not_mem_of_allBlank hback hc), Nat.zero_add, Nat.add_zero]
  rw [isBalanced, beq_iff_eq, hcount (by decide), hcount (by decide)]

end Line

/-! ### Unbalanced expressions -/

/-- The finding about an expression that has not as many opening as closing parentheses. -/
def unbalancedFinding (number : Int) (body : Text) : Diagnostic :=
  { severity := .error
    message := "Unbalanced parentheses in expression: $\x7b\x7b " ++ Text.trim body ++ " \x7d\x7d"
    line := some number
    ruleId := some "expressions/unbalanced-parentheses" }

/-- A line that is written with expressions has one finding for each of them that is unbalanced, in
    their order, and no other. -/
theorem check_unbalancedParentheses {view : LineView} {parts : List (Text × Text)} {tail : Text}
    (hline : view.line = Line.withExpressions parts tail)
    (hfronts : ∀ part ∈ parts, ¬Line.expressionOpen <:+: part.1)
    (hbodies : ∀ part ∈ parts, '}' ∉ part.2) (htail : ¬Line.expressionOpen <:+: tail) :
    ContentRule.unbalancedParentheses.check view =
      ((parts.map Prod.snd).filter fun body => body.count '(' ≠ body.count ')').map
        (unbalancedFinding view.number) := by
  have hexpressions := Line.expressions_withExpressions hfronts hbodies htail
  have hfilter : (fun body => !Line.isBalanced (Text.trim body)) =
      fun body : Text => decide (body.count '(' ≠ body.count ')') := by
    funext body
    rw [Bool.eq_iff_iff, Bool.not_eq_true', decide_eq_true_iff, ← Bool.not_eq_true,
      Line.isBalanced_trim_iff]
  rw [ContentRule.check, ContentRule.objections, hline, hexpressions, hfilter, List.map_map]
  rfl

/-- Half an opening mark before an expression, a whole one in its body, and closing braces behind
    it. -/
theorem check_unbalancedParentheses_nested :
    let line : Text := ("$$\x7b\x7bf( $\x7b\x7b (x \x7d\x7d\x7d\x7d) $\x7b" : Text)
      ++ "$\x7b\x7b(g)\x7d\x7d$\x7b\x7b\x7b) \x7d\x7d"
    let parts : List (Text × Text) :=
      [("$", "f( $\x7b\x7b (x "), ("\x7d\x7d) $\x7b", "(g)"), ([], "\x7b) ")]
    line = Line.withExpressions parts [] ∧
      (∀ part ∈ parts, ¬Line.expressionOpen <:+: part.1) ∧ (∀ part ∈ parts, '}' ∉ part.2) ∧
      ContentRule.unbalancedParentheses.check ⟨line, 7, [], false, line⟩ =
        [unbalancedFinding 7 "f( $\x7b\x7b (x ", unbalancedFinding 7 "\x7b) "] := by
  intro line parts
  have hline : line = Line.withExpressions parts [] := by decide
  have hfronts : ∀ part ∈ parts, ¬Line.expressionOpen <:+: part.1 := by decide
  have hbodies : ∀ part ∈ parts, '}' ∉ part.2 := by decide
  exact ⟨hline, hfronts, hbodies,
    check_unbalancedParentheses hline hfronts hbodies (by decide)⟩

end WorkflowLint
