/-
  WorkflowLint/Proofs/Line/Layout.lean
  ====================================
  **What a change of layout leaves alone.**

  Expanding the tabs at the start of a line and dropping the blanks at its end
  change neither its trimmed text nor whether it is indented nor the reference
  that is read off it.
-/
import WorkflowLint.Proofs.Line.Uses
import WorkflowLint.Rule.Layout

namespace WorkflowLint.Line

open Text (isBlank isIndent allBlank)

/-! ### Lines with a text of their own -/

theorem trim_ne_nil {line : Text} (h : isIgnorable line = false) : Text.trim line ≠ [] := by
  rw [isIgnorable, Bool.or_eq_false_iff] at h
  intro hnil
  rw [hnil] at h
  exact Bool.noConfusion h.1

theorem isIgnorable_of_trim_eq {line other : Text} (h : Text.trim other = Text.trim line) :
    isIgnorable other = isIgnorable line := by
  rw [isIgnorable, isIgnorable, h]

theorem trimLeft_ne_nil {line : Text} (h : Text.trim line ≠ []) : Text.trimLeft line ≠ [] :=
  fun hnil => h (Text.trim_eq_nil.mpr (Text.trimLeft_eq_nil.mp hnil))

/-! ### Tabs at the start -/

/-- The spaces and tabs at the start of a line are expanded, and nothing else. -/
theorem expandLeadingTabs_append {front : Text} (hfront : ∀ c ∈ front, isIndent c = true)
    (text : Text) :
    ∃ spaces, (∀ c ∈ spaces, c = ' ') ∧
      expandLeadingTabs (front ++ text) = spaces ++ expandLeadingTabs text := by
  induction front with
  | nil => exact ⟨[], fun c hc => absurd hc List.not_mem_nil, rfl⟩
  | cons c front ih =>
    obtain ⟨spaces, hspaces, htext⟩ := ih fun d hd => hfront d (List.mem_cons_of_mem _ hd)
    have hc : c = ' ' ∨ c = '\t' := by
      have := hfront c (List.mem_cons_self ..)
      rwa [isIndent, Bool.or_eq_true, beq_iff_eq, beq_iff_eq] at this
    rcases hc with rfl | rfl
    · refine ⟨' ' :: spaces, ?_, by rw [List.cons_append, expandLeadingTabs, htext]; rfl⟩
      intro d hd
      rcases List.mem_cons.mp hd with rfl | hd
      · rfl
      · exact hspaces d hd
    · refine ⟨' ' :: ' ' :: spaces, ?_, by rw [List.cons_append, expandLeadingTabs, htext]; rfl⟩
      intro d hd
      rcases List.mem_cons.mp hd with rfl | hd
      · rfl
      rcases List.mem_cons.mp hd with rfl | hd
      · rfl
      · exact hspaces d hd

theorem expandLeadingTabs_of_head {text : Text}
    (h : ∀ c, text.head? = some c → isIndent c = false) : expandLeadingTabs text = text := by
  cases text with
  | nil => rfl
  | cons c rest =>
    have htab : c ≠ '\t' := by
      rintro rfl
      exact absurd (h _ rfl) (by decide)
    have hspace : c ≠ ' ' := by
      rintro rfl
      exact absurd (h _ rfl) (by decide)
    rw [expandLeadingTabs]
    · intro rest' heq
      exact htab (List.cons.inj heq).1
    · intro rest' heq
      exact hspace (List.cons.inj heq).1

/-- A line and its expansion are the same text after spaces and tabs at the start. -/
theorem exists_expandLeadingTabs (line : Text) :
    ∃ front spaces text, (∀ c ∈ front, isIndent c = true) ∧ (∀ c ∈ spaces, c = ' ') ∧
      (∀ c, text.head? = some c → isIndent c = false) ∧
      line = front ++ text ∧ expandLeadingTabs line = spaces ++ text := by
  have hhead : ∀ c, (line.dropWhile isIndent).head? = some c → isIndent c = false := by
    intro c hc
    have hnot := List.head?_dropWhile_not isIndent line
    rw [hc] at hnot
    simpa using hnot
  have hfront : ∀ c ∈ line.takeWhile isIndent, isIndent c = true :=
    List.all_eq_true.mp List.all_takeWhile
  obtain ⟨spaces, hspaces, htext⟩ := expandLeadingTabs_append hfront (line.dropWhile isIndent)
  refine ⟨line.takeWhile isIndent, spaces, line.dropWhile isIndent, hfront, hspaces, hhead,
    List.takeWhile_append_dropWhile.symm, ?_⟩
  rw [List.takeWhile_append_dropWhile] at htext
  rw [htext, expandLeadingTabs_of_head hhead]

theorem allBlank_of_isIndent {front : Text} (h : ∀ c ∈ front, isIndent c = true) :
    allBlank front = true :=
  Text.allBlank_iff.mpr fun c hc => Text.isBlank_of_isIndent (h c hc)

theorem allBlank_of_spaces {spaces : Text} (h : ∀ c ∈ spaces, c = ' ') :
    allBlank spaces = true :=
  Text.allBlank_iff.mpr fun c hc => by rw [h c hc]; decide

theorem trimLeft_expandLeadingTabs (line : Text) :
    Text.trimLeft (expandLeadingTabs line) = Text.trimLeft line := by
  obtain ⟨front, spaces, text, hfront, hspaces, -, hline, hexpand⟩ := exists_expandLeadingTabs line
  rw [hexpand, Text.trimLeft_append (allBlank_of_spaces hspaces), hline,
    Text.trimLeft_append (allBlank_of_isIndent hfront)]

theorem trim_expandLeadingTabs (line : Text) :
    Text.trim (expandLeadingTabs line) = Text.trim line := by
  rw [Text.trim, Text.trim, trimLeft_expandLeadingTabs]

theorem startsWithTab_expandLeadingTabs (line : Text) :
    startsWithTab (expandLeadingTabs line) = false := by
  obtain ⟨front, spaces, text, -, hspaces, htext, -, hexpand⟩ := exists_expandLeadingTabs line
  rw [startsWithTab, hexpand, beq_eq_false_iff_ne]
  intro h
  rw [List.head?_append] at h
  cases spaces with
  | nil => exact absurd (htext '\t' h) (by decide)
  | cons c spaces =>
    rw [List.head?_cons, Option.some_or, hspaces c (List.mem_cons_self ..)] at h
    exact absurd (Option.some_inj.mp h) (by decide)

theorem isIndented_expandLeadingTabs (line : Text) :
    isIndented (expandLeadingTabs line) = isIndented line := by
  rw [expandLeadingTabs.eq_def]
  split <;> rfl

/-- The end of a line with a text of its own is not at its start. -/
theorem getLast?_expandLeadingTabs {line : Text} (h : Text.trim line ≠ []) :
    (expandLeadingTabs line).getLast? = line.getLast? := by
  obtain ⟨front, spaces, text, hfront, -, -, hline, hexpand⟩ := exists_expandLeadingTabs line
  have hne : text ≠ [] := by
    rintro rfl
    rw [List.append_nil] at hline
    exact h (Text.trim_eq_nil.mpr (hline ▸ allBlank_of_isIndent hfront))
  rw [hexpand, hline, List.getLast?_append, List.getLast?_append]
  cases hlast : text.getLast? with
  | none => exact absurd (List.getLast?_eq_none_iff.mp hlast) hne
  | some c => rfl

/-! ### Blanks at the end -/

/-- A line is its trimmed form and then spaces and tabs. -/
theorem exists_trimTrailing (line : Text) :
    ∃ back, allBlank back = true ∧ line = trimTrailing line ++ back := by
  obtain ⟨back, hback, hline⟩ := Text.exists_dropRightWhile isIndent line
  exact ⟨back, allBlank_of_isIndent hback, hline⟩

theorem trim_trimTrailing (line : Text) : Text.trim (trimTrailing line) = Text.trim line := by
  obtain ⟨back, hback, hline⟩ := exists_trimTrailing line
  conv => rhs; rw [hline]
  rw [Text.trim_append _ hback]

theorem head?_trimTrailing {line : Text} (h : Text.trim line ≠ []) :
    (trimTrailing line).head? = line.head? := by
  obtain ⟨back, -, hline⟩ := exists_trimTrailing line
  rw [← trim_trimTrailing] at h
  cases hhead : trimTrailing line with
  | nil => rw [hhead] at h; exact absurd rfl h
  | cons c rest => rw [hline, hhead]; rfl

theorem startsWithTab_trimTrailing {line : Text} (h : Text.trim line ≠ []) :
    startsWithTab (trimTrailing line) = startsWithTab line := by
  rw [startsWithTab, startsWithTab, head?_trimTrailing h]

theorem isIndented_trimTrailing {line : Text} (h : Text.trim line ≠ []) :
    isIndented (trimTrailing line) = isIndented line := by
  rw [isIndented, isIndented, head?_trimTrailing h]

theorem endsInIndent_trimTrailing (line : Text) : endsInIndent (trimTrailing line) = false := by
  rw [endsInIndent]
  cases hlast : (trimTrailing line).getLast? with
  | none => rfl
  | some c => exact Text.getLast?_dropRightWhile hlast

/-- Tabs at the start and blanks at the end of a line with a text of its own may be corrected in
    either order. -/
theorem expandLeadingTabs_trimTrailing {line : Text} (h : Text.trim line ≠ []) :
    expandLeadingTabs (trimTrailing line) = trimTrailing (expandLeadingTabs line) := by
  have hcons {c : Char} {rest : Text} (h : Text.trim rest ≠ []) :
      trimTrailing (c :: rest) = c :: trimTrailing rest := by
    refine Text.dropRightWhile_append_of_ne_nil [c] ?_
    intro hnil
    rw [← trim_trimTrailing, trimTrailing, hnil] at h
    exact h rfl
  have htrim {c : Char} (hc : isBlank c = true) (rest : Text) :
      Text.trim (c :: rest) = Text.trim rest :=
    Text.trim_append_left (show allBlank [c] = true by simpa using hc) rest
  induction line using expandLeadingTabs.induct with
  | case1 rest ih =>
    rw [htrim (by decide)] at h
    have hexpand : Text.trim (expandLeadingTabs rest) ≠ [] := by rwa [trim_expandLeadingTabs]
    have hspace : Text.trim (' ' :: expandLeadingTabs rest) ≠ [] := by rwa [htrim (by decide)]
    rw [hcons h, expandLeadingTabs, expandLeadingTabs, hcons hspace, hcons hexpand, ih h]
  | case2 rest ih =>
    rw [htrim (by decide)] at h
    have hexpand : Text.trim (expandLeadingTabs rest) ≠ [] := by rwa [trim_expandLeadingTabs]
    rw [hcons h, expandLeadingTabs, expandLeadingTabs, hcons hexpand, ih h]
  | case3 line htab hspace =>
    have hhead : ∀ c, line.head? = some c → isIndent c = false := by
      intro c hc
      cases line with
      | nil => exact absurd hc (by simp)
      | cons d rest =>
        obtain rfl : d = c := by simpa using hc
        rw [isIndent, Bool.or_eq_false_iff, beq_eq_false_iff_ne, beq_eq_false_iff_ne]
        exact ⟨fun e => hspace rest (by rw [e]), fun e => htab rest (by rw [e])⟩
    rw [expandLeadingTabs_of_head hhead, expandLeadingTabs_of_head]
    rwa [head?_trimTrailing h]

/-! ### The reference on a line -/

theorem usesReference?_expandLeadingTabs (line : Text) :
    usesReference? (expandLeadingTabs line) = usesReference? line := by
  rw [usesReference?, usesReference?, trimLeft_expandLeadingTabs]

/-- A dash is dropped from a text whatever blanks come after the text, unless nothing but
    blanks follows the dash. -/
theorem dropDash_append_blank (text : Text) {back : Text} (h : allBlank back = true) :
    dropDash (text ++ back) = dropDash text ++ back ∨
      (allBlank (text.drop 1) = true ∧ text.head? = some '-') := by
  match text with
  | [] =>
    refine Or.inl ?_
    cases back with
    | nil => rfl
    | cons c back =>
      rw [Text.allBlank_cons, Bool.and_eq_true] at h
      have hc : c ≠ '-' := by
        rintro rfl
        exact absurd h.1 (by decide)
      exact dropDash_of_ne hc back
  | [c] =>
    by_cases hc : c = '-'
    · exact Or.inr ⟨rfl, by rw [hc]; rfl⟩
    · rw [List.cons_append, dropDash_of_ne hc, dropDash_of_ne hc]
      exact Or.inl rfl
  | c :: d :: rest =>
    by_cases hc : c = '-'
    · subst hc
      rw [List.cons_append, List.cons_append, dropDash, dropDash]
      by_cases hd : isBlank d = true
      · rw [if_pos hd, if_pos hd]
        by_cases hrest : Text.trimLeft rest = []
        · refine Or.inr ⟨?_, rfl⟩
          rw [List.drop_succ_cons, List.drop_zero, Text.allBlank_cons, hd,
            Text.trimLeft_eq_nil.mp hrest]
          rfl
        · exact Or.inl (Text.trimLeft_append_of_head hrest back)
      · rw [if_neg hd, if_neg hd]
        exact Or.inl rfl
    · rw [List.cons_append, dropDash_of_ne hc, dropDash_of_ne hc]
      exact Or.inl rfl

theorem after?_append_blank {word : Text} (hword : ∀ c ∈ word, isBlank c = false) (text : Text)
    {back : Text} (h : allBlank back = true) :
    after? word (text ++ back) = (after? word text).map (· ++ back) := by
  rw [after?, after?, Text.isPrefixOf_append_blank hword _ h]
  split
  · rename_i hprefix
    obtain ⟨rest, rfl⟩ := List.isPrefixOf_iff_prefix.mp hprefix
    rw [List.append_assoc, List.drop_left, List.drop_left]
    rfl
  · rfl

/-- Nothing is read as a reference after a dash and blanks. -/
theorem after?_uses_dash {text : Text} (hblank : allBlank (text.drop 1) = true)
    (hdash : text.head? = some '-') : after? "uses:" (dropDash text) = none := by
  match text with
  | [] => rfl
  | [c] =>
    obtain rfl : '-' = c := by simpa using hdash.symm
    rfl
  | c :: d :: rest =>
    obtain rfl : '-' = c := by simpa using hdash.symm
    rw [List.drop_succ_cons, List.drop_zero, Text.allBlank_cons, Bool.and_eq_true] at hblank
    rw [dropDash, if_pos hblank.1, Text.trimLeft_eq_nil.mpr hblank.2]
    rfl

/-- Blanks after a line do not change the reference that is read off it. -/
theorem usesReference?_append_blank {line : Text} (hne : Text.trim line ≠ []) {back : Text}
    (h : allBlank back = true) (hline : '\n' ∉ line ++ back) :
    usesReference? (line ++ back) = usesReference? line := by
  have hword : ∀ c ∈ "uses:".toList, isBlank c = false := Text.forall_mem_of_all (by decide)
  rw [List.mem_append, not_or] at hline
  rw [usesReference?, usesReference?, Text.trimLeft_append_of_head (trimLeft_ne_nil hne)]
  rcases dropDash_append_blank (Text.trimLeft line) h with hdrop | ⟨hblank, hdash⟩
  · rw [hdrop, after?_append_blank hword _ h]
    cases hrest : after? "uses:" (dropDash (Text.trimLeft line)) with
    | none => rfl
    | some rest =>
      have hmem : '\n' ∉ rest := by
        obtain ⟨margin, dash, rfl, -⟩ := exists_of_after?_dropDash hrest
        intro hmem
        refine hline.1 ?_
        simp only [List.mem_append]
        exact Or.inr (Or.inr (Or.inr hmem))
      have hmem' : '\n' ∉ rest ++ back := by
        rw [List.mem_append, not_or]
        exact ⟨hmem, hline.2⟩
      rw [Option.map_some, Option.bind_some, Option.bind_some, wholeLine?_of_not_mem hmem,
        wholeLine?_of_not_mem hmem', Option.map_some, Option.map_some, Text.trim_append _ h]
  · have hblank' : allBlank ((Text.trimLeft line ++ back).drop 1) = true := by
      rw [List.drop_append, Text.allBlank_append, hblank, Bool.true_and]
      exact Text.allBlank_iff.mpr fun c hc =>
        Text.allBlank_iff.mp h c (List.mem_of_mem_drop hc)
    have hdash' : (Text.trimLeft line ++ back).head? = some '-' := by
      rw [List.head?_append, hdash]
      rfl
    rw [after?_uses_dash hblank hdash, after?_uses_dash hblank' hdash']

theorem usesReference?_trimTrailing {line : Text} (hne : Text.trim line ≠ [])
    (hline : '\n' ∉ line) : usesReference? (trimTrailing line) = usesReference? line := by
  obtain ⟨back, hback, heq⟩ := exists_trimTrailing line
  conv => rhs; rw [heq]
  refine (usesReference?_append_blank ?_ hback (heq ▸ hline)).symm
  rw [trim_trimTrailing]
  exact hne

/-- A line that is passed over uses no action. -/
theorem usesReference?_of_isIgnorable {line : Text} (h : isIgnorable line = true) :
    usesReference? line = none := by
  rw [isIgnorable, Bool.or_eq_true, List.isEmpty_iff, beq_iff_eq] at h
  rcases h with hnil | hhash
  · rw [usesReference?, Text.trimLeft_eq_nil.mpr (Text.trim_eq_nil.mp hnil)]
    rfl
  · have hhead := Text.head?_dropRightWhile hhash
    cases htext : Text.trimLeft line with
    | nil => rw [usesReference?, htext]; rfl
    | cons c rest =>
      rw [htext] at hhead
      obtain rfl : c = '#' := by simpa using hhead
      rw [usesReference?, htext, dropDash_of_ne (by decide)]
      rfl

end WorkflowLint.Line
