/-
  WorkflowLint/Proofs/Repetition.lean
  ===================================
  **Lists without their repetitions.**

  A list without its repetitions holds each of its items once, where it came first.
  So an item that is added at the end counts only if it is new (`eraseDups_concat`).
-/

namespace WorkflowLint

variable {α : Type} [BEq α]

/-- A fact about lists holds if it holds of a list whenever it holds of the items behind the
    first that are not the same as the first. -/
theorem eraseDups_induction {motive : List α → Prop} (nil : motive [])
    (cons : ∀ item rest, motive (rest.filter fun other => !other == item) → motive (item :: rest))
    (items : List α) : motive items :=
  match items with
  | [] => nil
  | item :: rest => cons item rest (eraseDups_induction nil cons _)
termination_by items.length
decreasing_by exact Nat.lt_succ_of_le (List.length_filter_le _ _)

theorem eraseDups_sublist (items : List α) : items.eraseDups.Sublist items := by
  induction items using eraseDups_induction with
  | nil => exact .slnil
  | cons item rest ih =>
    rw [List.eraseDups_cons]
    exact (ih.trans List.filter_sublist).cons_cons item

theorem isEmpty_eraseDups (items : List α) : items.eraseDups.isEmpty = items.isEmpty := by
  cases items with
  | nil => rfl
  | cons item rest =>
    rw [List.eraseDups_cons]
    rfl

variable [LawfulBEq α]

theorem nodup_eraseDups (items : List α) : items.eraseDups.Nodup := by
  induction items using eraseDups_induction with
  | nil => exact .nil
  | cons item rest ih =>
    rw [List.eraseDups_cons]
    refine List.nodup_cons.mpr ⟨fun hmem => ?_, ih⟩
    have hkept := (List.mem_filter.mp (List.mem_eraseDups.mp hmem)).2
    simp at hkept

theorem eraseDups_concat [DecidableEq α] (items : List α) (item : α) :
    (items ++ [item]).eraseDups =
      if item ∈ items then items.eraseDups else items.eraseDups ++ [item] := by
  rw [List.eraseDups_append]
  split
  · rename_i hmem
    have hnone : [item].removeAll items = [] := by simp [List.removeAll, hmem]
    rw [hnone, List.eraseDups_nil, List.append_nil]
  · rename_i hnew
    have hsame : [item].removeAll items = [item] := by simp [List.removeAll, hnew]
    rw [hsame, List.eraseDups_cons, List.filter_nil, List.eraseDups_nil]

end WorkflowLint
