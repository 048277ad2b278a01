/-
  WorkflowLint/Proofs/Text/Trim.lean
  ==================================
  **Blanks around a text.**

  Every text is its trimmed form between two runs of blanks (`exists_trim`), and
  conversely a tight text, one that neither starts nor ends with a blank, is what
  is left of it between blanks (`trim_between`).  What the linter reads off a
  trimmed line is therefore read off any line by splitting it in three.
-/
import WorkflowLint.Text.Blank

namespace WorkflowLint.Text

/-- A property of every character of a given text can be checked by going through them. -/
theorem forall_mem_of_all {P : Char → Prop} [DecidablePred P] {text : Text}
    (h : (text.all fun c => decide (P c)) = true) : ∀ c ∈ text, P c := by
  intro c hc
  exact of_decide_eq_true (List.all_eq_true.mp h c hc)

/-! ### Dropping from the right -/

variable {p : Char → Bool}

theorem dropRightWhile_append (text : Text) {tail : Text} (h : ∀ c ∈ tail, p c = true) :
    dropRightWhile p (text ++ tail) = dropRightWhile p text := by
  simp only [dropRightWhile, List.reverse_append]
  rw [List.dropWhile_append_of_pos (fun c hc => h c (List.mem_reverse.mp hc))]

theorem dropRightWhile_of_getLast {text : Text}
    (h : ∀ c, text.getLast? = some c → p c = false) : dropRightWhile p text = text := by
  rw [dropRightWhile]
  cases hr : text.reverse with
  | nil => simpa using hr
  | cons c rest =>
    have hlast : text.getLast? = some c := by rw [List.getLast?_eq_head?_reverse, hr]; rfl
    rw [List.dropWhile_cons_of_neg (by simp [h c hlast]), ← hr, List.reverse_reverse]

/-- What is dropped from the right satisfies the predicate throughout. -/
theorem exists_dropRightWhile (p : Char → Bool) (text : Text) :
    ∃ tail, (∀ c ∈ tail, p c = true) ∧ text = dropRightWhile p text ++ tail := by
  refine ⟨(text.reverse.takeWhile p).reverse, ?_, ?_⟩
  · intro c hc
    exact List.all_eq_true.mp List.all_takeWhile c (List.mem_reverse.mp hc)
  · rw [dropRightWhile, ← List.reverse_append, List.takeWhile_append_dropWhile,
      List.reverse_reverse]

theorem dropRightWhile_sublist (p : Char → Bool) (text : Text) :
    (dropRightWhile p text).Sublist text := by
  obtain ⟨tail, -, htext⟩ := exists_dropRightWhile p text
  conv => rhs; rw [htext]
  exact List.sublist_append_left _ _

theorem dropRightWhile_append_of_ne_nil (front : Text) {text : Text}
    (h : dropRightWhile p text ≠ []) :
    dropRightWhile p (front ++ text) = front ++ dropRightWhile p text := by
  have hne : text.reverse.dropWhile p ≠ [] := fun hnil => h (by rw [dropRightWhile, hnil]; rfl)
  rw [dropRightWhile, List.reverse_append, List.dropWhile_append,
    if_neg (by simpa using hne), List.reverse_append, List.reverse_reverse, dropRightWhile]

theorem getLast?_dropRightWhile {text : Text} {c : Char}
    (h : (dropRightWhile p text).getLast? = some c) : p c = false := by
  rw [dropRightWhile, List.getLast?_reverse] at h
  have hnot := List.head?_dropWhile_not p text.reverse
  rw [h] at hnot
  simpa using hnot

/-! ### Runs of blanks -/

@[simp] theorem allBlank_nil : allBlank [] = true := rfl

@[simp] theorem allBlank_cons (c : Char) (text : Text) :
    allBlank (c :: text) = (isBlank c && allBlank text) := rfl

@[simp] theorem allBlank_append (front back : Text) :
    allBlank (front ++ back) = (allBlank front && allBlank back) := List.all_append

theorem allBlank_iff {text : Text} : allBlank text = true ↔ ∀ c ∈ text, isBlank c = true :=
  List.all_eq_true

@[simp] theorem allBlank_replicate (n : Nat) : allBlank (List.replicate n ' ') = true := by
  rw [allBlank_iff]
  intro c hc
  rw [List.eq_of_mem_replicate hc]
  decide

/-- A space or a tab is a blank. -/
theorem isBlank_of_isIndent {c : Char} (h : isIndent c = true) : isBlank c = true := by
  simp only [isIndent, Bool.or_eq_true, beq_iff_eq] at h
  rcases h with rfl | rfl <;> decide

theorem trimLeft_append {front : Text} (h : allBlank front = true) (text : Text) :
    trimLeft (front ++ text) = trimLeft text :=
  List.dropWhile_append_of_pos (allBlank_iff.mp h)

theorem trimRight_append (text : Text) {back : Text} (h : allBlank back = true) :
    trimRight (text ++ back) = trimRight text :=
  dropRightWhile_append text (allBlank_iff.mp h)

theorem trimLeft_of_head {text : Text} (h : ∀ c, text.head? = some c → isBlank c = false) :
    trimLeft text = text := by
  cases text with
  | nil => rfl
  | cons c rest => exact List.dropWhile_cons_of_neg (by simp [h c rfl])

theorem trimLeft_append_of_head {text : Text} (hne : trimLeft text ≠ []) (back : Text) :
    trimLeft (text ++ back) = trimLeft text ++ back := by
  rw [trimLeft, trimLeft, List.dropWhile_append, if_neg (by simpa [trimLeft] using hne)]

theorem trimRight_of_getLast {text : Text}
    (h : ∀ c, text.getLast? = some c → isBlank c = false) : trimRight text = text :=
  dropRightWhile_of_getLast h

/-- The blanks at the start of a text, and the text without them. -/
theorem takeWhile_append_trimLeft (text : Text) :
    text.takeWhile isBlank ++ trimLeft text = text := List.takeWhile_append_dropWhile

theorem allBlank_takeWhile (text : Text) : allBlank (text.takeWhile isBlank) = true :=
  List.all_takeWhile

theorem head?_trimLeft {text : Text} {c : Char} (h : (trimLeft text).head? = some c) :
    isBlank c = false := by
  have hnot := List.head?_dropWhile_not isBlank text
  rw [show (text.dropWhile isBlank).head? = some c from h] at hnot
  simpa using hnot

theorem trimLeft_eq_nil {text : Text} : trimLeft text = [] ↔ allBlank text = true := by
  constructor
  · intro h
    rw [← takeWhile_append_trimLeft text, h, List.append_nil]
    exact allBlank_takeWhile text
  · intro h
    have happ := trimLeft_append h []
    rwa [List.append_nil] at happ

/-! ### Tight texts -/

/-- Whether a text neither starts nor ends with a blank. -/
def Tight (text : Text) : Prop :=
  (∀ c, text.head? = some c → isBlank c = false) ∧
    ∀ c, text.getLast? = some c → isBlank c = false

theorem Tight.trim_eq {text : Text} (h : Tight text) : trim text = text := by
  rw [trim, trimLeft_of_head h.1, trimRight_of_getLast h.2]

/-- The first character of a text with some blanks dropped from its end. -/
theorem head?_dropRightWhile {text : Text} {c : Char}
    (h : (dropRightWhile p text).head? = some c) : text.head? = some c := by
  obtain ⟨tail, -, htext⟩ := exists_dropRightWhile p text
  rw [htext, List.head?_append, h]
  rfl

theorem tight_trim (text : Text) : Tight (trim text) := by
  constructor
  · intro c hc
    exact head?_trimLeft (head?_dropRightWhile hc)
  · intro c hc
    exact getLast?_dropRightWhile hc

theorem trim_eq_self_iff {text : Text} : trim text = text ↔ Tight text :=
  ⟨fun h => h ▸ tight_trim text, Tight.trim_eq⟩

/-- Between blanks, a tight text is all that trimming leaves. -/
theorem trim_between {front text back : Text} (hfront : allBlank front = true)
    (htext : Tight text) (hback : allBlank back = true) :
    trim (front ++ text ++ back) = text := by
  rw [List.append_assoc, trim, trimLeft_append hfront]
  cases text with
  | nil => simp [trimLeft_eq_nil.mpr hback, trimRight, dropRightWhile]
  | cons c rest =>
    rw [trimLeft_of_head (by intro d hd; exact htext.1 d hd), trimRight_append _ hback]
    exact trimRight_of_getLast htext.2

/-- Every text is its trimmed form between two runs of blanks. -/
theorem exists_trim (text : Text) :
    ∃ back, allBlank back = true ∧
      text = text.takeWhile isBlank ++ trim text ++ back := by
  obtain ⟨back, hback, htext⟩ := exists_dropRightWhile isBlank (trimLeft text)
  refine ⟨back, allBlank_iff.mpr hback, ?_⟩
  rw [List.append_assoc, trim, trimRight, ← htext, takeWhile_append_trimLeft]

theorem trim_sublist (text : Text) : (trim text).Sublist text := by
  obtain ⟨back, -, htext⟩ := exists_trim text
  conv => rhs; rw [htext]
  exact (List.sublist_append_right _ _).trans (List.sublist_append_left _ _)

theorem trim_append (text : Text) {back : Text} (h : allBlank back = true) :
    trim (text ++ back) = trim text := by
  obtain ⟨rest, hrest, htext⟩ := exists_trim text
  have hblanks : allBlank (rest ++ back) = true := by simp [hrest, h]
  conv => lhs; rw [htext, List.append_assoc]
  exact trim_between (allBlank_takeWhile text) (tight_trim text) hblanks

theorem trim_append_left {front : Text} (h : allBlank front = true) (text : Text) :
    trim (front ++ text) = trim text := by
  rw [trim, trim, trimLeft_append h]

/-- Text behind a text that is not blank leaves what trimming has left of that, and may add to
    it. -/
theorem exists_trim_append {text : Text} (h : trim text ≠ []) (back : Text) :
    ∃ more, trim (text ++ back) = trim text ++ more := by
  have hne : trimLeft text ≠ [] := by
    intro hnil
    exact h (by rw [trim, hnil]; rfl)
  obtain ⟨rest, -, htext⟩ := exists_dropRightWhile isBlank (trimLeft text)
  have htrim : trim (text ++ back) = trimRight (trim text ++ (rest ++ back)) := by
    rw [trim, trimLeft_append_of_head hne, ← List.append_assoc]
    exact congrArg (fun front => trimRight (front ++ back)) htext
  rw [htrim]
  by_cases hblank : dropRightWhile isBlank (rest ++ back) = []
  · obtain ⟨tail, htail, heq⟩ := exists_dropRightWhile isBlank (rest ++ back)
    rw [hblank, List.nil_append] at heq
    refine ⟨[], ?_⟩
    rw [List.append_nil, heq, trimRight_append _ (allBlank_iff.mpr htail)]
    exact trimRight_of_getLast (tight_trim text).2
  · exact ⟨_, dropRightWhile_append_of_ne_nil (trim text) hblank⟩

theorem trim_eq_nil {text : Text} : trim text = [] ↔ allBlank text = true := by
  constructor
  · intro h
    obtain ⟨back, hback, htext⟩ := exists_trim text
    rw [htext, h]
    simp [allBlank_takeWhile, hback]
  · intro h
    have happ := trim_append [] h
    rwa [List.nil_append] at happ

/-! ### Trimming one end -/

/-- Blanks at the end of a text behind a text that does not end in one. -/
theorem trimRight_append_left {front : Text}
    (h : ∀ c, front.getLast? = some c → isBlank c = false) (text : Text) :
    trimRight (front ++ text) = front ++ trimRight text := by
  by_cases hnil : trimRight text = []
  · obtain ⟨tail, htail, htext⟩ := exists_dropRightWhile isBlank text
    rw [show dropRightWhile isBlank text = [] from hnil, List.nil_append] at htext
    rw [hnil, List.append_nil, htext, trimRight_append _ (allBlank_iff.mpr htail)]
    exact trimRight_of_getLast h
  · exact dropRightWhile_append_of_ne_nil front hnil

theorem trimRight_append_trimRight (front text : Text) :
    trimRight (front ++ trimRight text) = trimRight (front ++ text) := by
  obtain ⟨tail, htail, htext⟩ := exists_dropRightWhile isBlank text
  conv => rhs; rw [htext, ← List.append_assoc, trimRight_append _ (allBlank_iff.mpr htail)]
  rfl

theorem trim_trimRight (text : Text) : trim (trimRight text) = trim text := by
  obtain ⟨tail, htail, htext⟩ := exists_dropRightWhile isBlank text
  conv => rhs; rw [htext, trim_append _ (allBlank_iff.mpr htail)]
  rfl

theorem trimLeft_trimRight (text : Text) : trimLeft (trimRight text) = trim text := by
  by_cases hnil : trim text = []
  · have hright := trimRight_append [] (trim_eq_nil.mp hnil)
    rw [List.nil_append] at hright
    rw [hright, hnil]
    rfl
  · have hright := dropRightWhile_append_of_ne_nil (text.takeWhile isBlank) hnil
    rw [takeWhile_append_trimLeft] at hright
    rw [show trimRight text = text.takeWhile isBlank ++ trim text from hright,
      trimLeft_append (allBlank_takeWhile text)]
    exact trimLeft_of_head (tight_trim text).1

/-! ### The width of the blanks at the start -/

theorem blankWidth_append {front : Text} (h : allBlank front = true) {text : Text}
    (htext : ∀ c, text.head? = some c → isBlank c = false) :
    blankWidth (front ++ text) = front.length := by
  rw [blankWidth, List.takeWhile_append_of_pos (allBlank_iff.mp h)]
  cases text with
  | nil => simp
  | cons c rest => simp [List.takeWhile_cons_of_neg, htext c rfl]

theorem blankWidth_append_left {front : Text} (h : allBlank front = true) (text : Text) :
    blankWidth (front ++ text) = front.length + blankWidth text := by
  rw [blankWidth, List.takeWhile_append_of_pos (allBlank_iff.mp h), List.length_append, blankWidth]

/-- Blanks at the end of a text that is not blank do not count at its start. -/
theorem blankWidth_append_right {text : Text} (h : trim text ≠ []) (back : Text) :
    blankWidth (text ++ back) = blankWidth text := by
  have hne : trimLeft text ≠ [] := by
    intro h'
    exact h (trim_eq_nil.mpr (trimLeft_eq_nil.mp h'))
  have hhead : ∀ c, (trimLeft text ++ back).head? = some c → isBlank c = false := by
    intro c hc
    cases htrim : trimLeft text with
    | nil => exact absurd htrim hne
    | cons d rest =>
      rw [htrim, List.cons_append, List.head?_cons] at hc
      have hd : (trimLeft text).head? = some c := by rw [htrim, List.head?_cons, hc]
      exact head?_trimLeft hd
  conv => lhs; rw [← takeWhile_append_trimLeft text, List.append_assoc]
  rw [blankWidth_append (allBlank_takeWhile text) hhead]
  rfl

end WorkflowLint.Text
