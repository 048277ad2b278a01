/-
  WorkflowLint/Proofs/Text/Part.lean
  ==================================
  **Parts of a text.**

  A part is found and replaced where it first occurs (`exists_firstPart`).
  `replaceFirst_between` gives the place from what stands before it: nothing there
  may be the first character of the part.  Blanks around a text neither add nor
  hide a part without blanks (`hasPart_trim`).
-/
import WorkflowLint.Proofs.Text.Trim

namespace WorkflowLint.Text

/-! ### Finding and replacing -/

theorem isPrefixOf_append_self (part back : Text) : part.isPrefixOf (part ++ back) = true := by
  rw [List.isPrefixOf_iff_prefix]
  exact List.prefix_append part back

theorem hasPart_append (part back : Text) : hasPart part (part ++ back) = true := by
  cases h : part ++ back with
  | nil =>
    obtain ⟨rfl, -⟩ := List.append_eq_nil_iff.mp h
    rfl
  | cons c rest => rw [hasPart, ← h, isPrefixOf_append_self, Bool.true_or]

/-- What stands before a part does not hide it. -/
theorem hasPart_between (front part back : Text) :
    hasPart part (front ++ (part ++ back)) = true := by
  induction front with
  | nil => exact hasPart_append part back
  | cons c front ih => rw [List.cons_append, hasPart, ih, Bool.or_true]

theorem isPrefixOf_cons_of_ne {c d : Char} (h : c ≠ d) (part text : Text) :
    (c :: part).isPrefixOf (d :: text) = false := by
  rw [List.isPrefixOf_cons_cons, beq_false_of_ne h, Bool.false_and]

/-- The first occurrence of a part is the one shown, if its first character does
    not stand before it. -/
theorem replaceFirst_between {c : Char} {front : Text} (h : c ∉ front) (part new back : Text) :
    replaceFirst (c :: part) new (front ++ (c :: part ++ back)) = front ++ (new ++ back) := by
  induction front with
  | nil =>
    have hprefix : (c :: part).isPrefixOf (c :: part ++ back) = true :=
      isPrefixOf_append_self (c :: part) back
    rw [List.cons_append] at hprefix
    rw [List.nil_append, List.nil_append, List.cons_append, replaceFirst, if_pos hprefix,
      ← List.cons_append, List.drop_left]
  | cons d front ih =>
    rw [List.mem_cons, not_or] at h
    rw [List.cons_append, replaceFirst, isPrefixOf_cons_of_ne h.1, ih h.2]
    rfl

/-- A part is found where it stands somewhere in the text. -/
theorem hasPart_iff {part text : Text} : hasPart part text = true ↔ part <:+: text := by
  induction text with
  | nil =>
    rw [hasPart, List.isEmpty_iff, List.infix_nil]
  | cons c rest ih =>
    rw [hasPart, Bool.or_eq_true, List.isPrefixOf_iff_prefix, ih, List.infix_cons_iff]

/-- The first place of a part in a text: between `front` and `back`, and nowhere further to the
    left. -/
structure FirstPart (part front back text : Text) : Prop where
  text_eq : text = front ++ (part ++ back)
  length_le : ∀ front' back', text = front' ++ (part ++ back') → front.length ≤ front'.length

theorem firstPart_append (part back : Text) : FirstPart part [] back (part ++ back) :=
  ⟨rfl, fun _ _ _ => Nat.zero_le _⟩

/-- A part that does not stand at the start of a text has its first place in the rest. -/
theorem FirstPart.cons {part front back rest : Text} {c : Char}
    (h : FirstPart part front back rest) (hstart : ¬part <+: c :: rest) :
    FirstPart part (c :: front) back (c :: rest) := by
  constructor
  · rw [h.text_eq, List.cons_append]
  · intro front' back' htext
    cases front' with
    | nil => exact absurd ⟨back', htext.symm⟩ hstart
    | cons d front' =>
      have hrest : rest = front' ++ (part ++ back') := (List.cons.inj htext).2
      have hle := h.length_le front' back' hrest
      simpa using hle

/-- A part that is there has a first place, and that is where it is replaced. -/
theorem exists_firstPart {part text : Text} (h : part <:+: text) : ∃ front back,
    FirstPart part front back text ∧
      ∀ new, replaceFirst part new text = front ++ (new ++ back) := by
  induction text with
  | nil =>
    obtain rfl := List.infix_nil.mp h
    exact ⟨[], [], firstPart_append [] [], fun new => by simp [replaceFirst]⟩
  | cons c rest ih =>
    by_cases hstart : part <+: c :: rest
    · obtain ⟨back, hback⟩ := hstart
      refine ⟨[], back, hback ▸ firstPart_append part back, fun new => ?_⟩
      have hprefix : part.isPrefixOf (c :: rest) = true :=
        List.isPrefixOf_iff_prefix.mpr ⟨back, hback⟩
      rw [replaceFirst, if_pos hprefix, ← hback, List.drop_left]
      rfl
    · have hrest : part <:+: rest := (List.infix_cons_iff.mp h).resolve_left hstart
      obtain ⟨front, back, hfirst, hreplace⟩ := ih hrest
      refine ⟨c :: front, back, hfirst.cons hstart, fun new => ?_⟩
      have hprefix : part.isPrefixOf (c :: rest) = false := by
        rw [← Bool.not_eq_true, List.isPrefixOf_iff_prefix]
        exact hstart
      simp [replaceFirst, hprefix, hreplace]

theorem cutAt?_eq_none {mark : Char} {text : Text} (h : mark ∉ text) :
    cutAt? mark text = none := by
  induction text with
  | nil => rfl
  | cons c text ih =>
    rw [List.mem_cons, not_or] at h
    rw [cutAt?, if_neg (fun e => h.1 e.symm), ih h.2]
    rfl

theorem not_mem_of_cutAt?_eq_none {mark : Char} {text : Text} (h : cutAt? mark text = none) :
    mark ∉ text := by
  induction text with
  | nil => exact List.not_mem_nil
  | cons c text ih =>
    rw [cutAt?] at h
    split at h
    · exact absurd h (by simp)
    · rename_i hc
      rw [List.mem_cons, not_or]
      exact ⟨fun e => hc e.symm, ih (Option.map_eq_none_iff.mp h)⟩

/-- A mark that is there is found whatever comes after the text. -/
theorem cutAt?_append {mark : Char} {text before after : Text}
    (h : cutAt? mark text = some (before, after)) (back : Text) :
    cutAt? mark (text ++ back) = some (before, after ++ back) := by
  induction text generalizing before with
  | nil => exact absurd h (by simp [cutAt?])
  | cons c text ih =>
    rw [cutAt?] at h
    rw [List.cons_append, cutAt?]
    split at h
    · rename_i hc
      obtain ⟨rfl, rfl⟩ := Prod.mk.inj (Option.some_inj.mp h)
      rw [if_pos hc]
    · rename_i hc
      obtain ⟨⟨front, rest⟩, hcut, hpair⟩ := Option.map_eq_some_iff.mp h
      obtain ⟨rfl, rfl⟩ := Prod.mk.inj hpair
      rw [if_neg hc, ih hcut, Option.map_some]

/-! ### Blanks around a text -/

variable {part : Text}

theorem isPrefixOf_append_blank (hpart : ∀ c ∈ part, isBlank c = false) (text : Text)
    {back : Text} (h : allBlank back = true) :
    part.isPrefixOf (text ++ back) = part.isPrefixOf text := by
  induction part generalizing text with
  | nil => cases text <;> simp
  | cons c part ih =>
    have hc : isBlank c = false := hpart c (List.mem_cons_self ..)
    cases text with
    | nil =>
      cases back with
      | nil => rfl
      | cons d back =>
        have hd : isBlank d = true := by
          rw [allBlank_cons, Bool.and_eq_true] at h
          exact h.1
        have hne : c ≠ d := by
          rintro rfl
          rw [hd] at hc
          exact Bool.noConfusion hc
        rw [List.nil_append, isPrefixOf_cons_of_ne hne]
        rfl
    | cons d text =>
      rw [List.cons_append, List.isPrefixOf_cons_cons, List.isPrefixOf_cons_cons,
        ih (fun x hx => hpart x (List.mem_cons_of_mem _ hx))]

theorem hasPart_append_blank (hpart : ∀ c ∈ part, isBlank c = false) (hne : part ≠ [])
    (text : Text) {back : Text} (h : allBlank back = true) :
    hasPart part (text ++ back) = hasPart part text := by
  induction text with
  | nil =>
    induction back with
    | nil => rfl
    | cons c back ih =>
      have hprefix := isPrefixOf_append_blank hpart [] h
      rw [allBlank_cons, Bool.and_eq_true] at h
      calc hasPart part (c :: back)
          = (part.isPrefixOf (c :: back) || hasPart part back) := rfl
        _ = (part.isPrefixOf [] || hasPart part []) := by
            rw [show c :: back = [] ++ c :: back from rfl, hprefix, ← ih h.2]
            rfl
        _ = hasPart part [] := by
            cases part with
            | nil => exact absurd rfl hne
            | cons d part => rfl
  | cons c text ih =>
    have hprefix := isPrefixOf_append_blank hpart (c :: text) h
    rw [List.cons_append] at hprefix
    rw [List.cons_append, hasPart, hasPart, hprefix, ih]

theorem hasPart_append_left_blank (hpart : ∀ c ∈ part, isBlank c = false) (hne : part ≠ [])
    {front : Text} (h : allBlank front = true) (text : Text) :
    hasPart part (front ++ text) = hasPart part text := by
  induction front with
  | nil => rfl
  | cons c front ih =>
    rw [allBlank_cons, Bool.and_eq_true] at h
    cases part with
    | nil => exact absurd rfl hne
    | cons d part =>
      have hd : d ≠ c := by
        rintro rfl
        have := hpart d (List.mem_cons_self ..)
        rw [h.1] at this
        exact Bool.noConfusion this
      rw [List.cons_append, hasPart, isPrefixOf_cons_of_ne hd, Bool.false_or, ih h.2]

/-- Whether a part without blanks occurs in a text shows in the trimmed text. -/
theorem hasPart_trim (hpart : ∀ c ∈ part, isBlank c = false) (hne : part ≠ []) (text : Text) :
    hasPart part (trim text) = hasPart part text := by
  obtain ⟨back, hback, htext⟩ := exists_trim text
  conv => rhs; rw [htext]
  rw [hasPart_append_blank hpart hne _ hback,
    hasPart_append_left_blank hpart hne (allBlank_takeWhile text)]

end WorkflowLint.Text
