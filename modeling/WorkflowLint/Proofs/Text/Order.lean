/-
  WorkflowLint/Proofs/Text/Order.lean
  ===================================
  **Sorted texts.**

  The texts are in the order of a dictionary whose letters are in the order of their code
  points (`precedes_iff`).  Sorting is insertion sort in this order, so that it loses no text
  and adds none (`mem_sort`), and no text stands behind one that it comes before (`pairwise_sort`).
-/
import WorkflowLint.Text.Order
import Mathlib.Data.List.Lex
import Mathlib.Data.List.Sort

namespace WorkflowLint.Text

variable {text other third : Text}

/-! ### The order -/

/-- A text comes before another one: it goes on to it, or has the smaller code point where they
    first differ. -/
def Before (text other : Text) : Prop :=
  List.Lex (· < ·) (text.map Char.toNat) (other.map Char.toNat)

instance (text other : Text) : Decidable (Before text other) :=
  inferInstanceAs (Decidable (List.Lex _ _ _))

theorem Before.asymm (h : Before text other) : ¬Before other text :=
  Std.Asymm.asymm (r := List.Lex (· < ·)) _ _ h

/-- Of two texts one comes before the other. -/
theorem Before.of_ne (hne : text ≠ other) (hnot : ¬Before other text) : Before text other := by
  by_contra hother
  have heq := Std.Trichotomous.trichotomous (r := List.Lex (· < ·)) _ _ hother hnot
  exact hne (List.map_injective_iff.mpr (fun _ _ => Char.toNat_inj.mp) heq)

/-- What comes before a text comes before or after any other text. -/
theorem Before.or_before (h : Before text third) (other : Text) :
    Before text other ∨ Before other third := by
  have hlex : IsOrderConnected (List Nat) (List.Lex (· < ·)) := inferInstance
  exact hlex.conn _ (other.map Char.toNat) _ h

theorem precedes_iff : precedes text other = true ↔ ¬Before other text := by
  induction text generalizing other with
  | nil => simp [precedes, Before]
  | cons c text ih =>
    cases other with
    | nil => simp [precedes, Before]
    | cons d other =>
      by_cases hsame : c = d
      · subst hsame
        have hlex : Before (c :: other) (c :: text) ↔ Before other text := by
          rw [Before, List.map_cons, List.map_cons, List.lex_cons_iff, Before]
        rw [precedes, if_pos rfl, ih, hlex]
      · have hne : c.toNat ≠ d.toNat := fun heq => hsame (Char.toNat_inj.mp heq)
        have hlex : Before (d :: other) (c :: text) ↔ d.toNat < c.toNat := by
          rw [Before, List.map_cons, List.map_cons, List.cons_lex_cons_iff]
          simp [hne.symm]
        rw [precedes, if_neg hsame, decide_eq_true_eq, hlex]
        omega

-- The order is that of the code points, so capital letters come first.
example : Before "Test.yml" "build.yml" := by decide

theorem precedes_total (text other : Text) :
    precedes text other = true ∨ precedes other text = true := by
  rw [precedes_iff, precedes_iff, ← not_and_or]
  exact fun hboth => hboth.1.asymm hboth.2

theorem precedes_trans (h : precedes text other = true) (hthird : precedes other third = true) :
    precedes text third = true := by
  rw [precedes_iff] at h hthird ⊢
  exact fun hbefore => (hbefore.or_before other).elim hthird h

/-! ### Sorting -/

theorem insertSorted_eq (text : Text) (texts : List Text) : insertSorted text texts =
    texts.orderedInsert (fun text other => precedes text other = true) text := by
  induction texts with
  | nil => rfl
  | cons other rest ih => rw [insertSorted, List.orderedInsert_cons, ih]

theorem sort_eq (texts : List Text) :
    sort texts = texts.insertionSort fun text other => precedes text other = true := by
  induction texts with
  | nil => rfl
  | cons text rest ih =>
    rw [List.insertionSort_cons, ← ih, ← insertSorted_eq, sort, List.foldr_cons, sort]

theorem mem_sort {texts : List Text} : text ∈ sort texts ↔ text ∈ texts := by
  rw [sort_eq]
  exact List.mem_insertionSort _

theorem pairwise_sort (texts : List Text) :
    (sort texts).Pairwise fun text other => ¬Before other text := by
  have : Std.Total fun text other : Text => precedes text other = true := ⟨precedes_total⟩
  have : IsTrans Text fun text other => precedes text other = true :=
    ⟨fun _ _ _ h hthird => precedes_trans h hthird⟩
  rw [sort_eq]
  exact (List.pairwise_insertionSort _ _).imp precedes_iff.mp

end WorkflowLint.Text
