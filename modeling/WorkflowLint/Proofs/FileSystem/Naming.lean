/-
  WorkflowLint/Proofs/FileSystem/Naming.lean
  ==========================================
  **Places by their names.**

  A path that is written and read again is the same path (`ofText_toText`), so a place below a
  directory can be named by the text of its names from there.  The text leads back to the place
  (`Stands.walk_toText`), because no link is on the way.
-/
import WorkflowLint.FileSystem.Access
import WorkflowLint.Proofs.FileSystem.Resolve
import WorkflowLint.Proofs.Text.Lines

namespace WorkflowLint

namespace Path

/-- A name that is kept when it is read as part of a path. -/
def IsPart (name : Text) : Prop := name ≠ [] ∧ name ≠ "." ∧ '/' ∉ name

theorem isPart_of_mem_ofText {text part : Text} (h : part ∈ (Path.ofText text).parts) :
    IsPart part := by
  obtain ⟨hpiece, hkept⟩ := List.mem_filter.mp h
  simp only [Bool.and_eq_true, Bool.not_eq_true', List.isEmpty_eq_false_iff, bne_iff_ne] at hkept
  exact ⟨hkept.1, hkept.2, Text.not_mem_of_mem_pieces hpiece⟩

section

variable {parts : List Text} (h : ∀ part ∈ parts, IsPart part)

include h

theorem filter_parts :
    parts.filter (fun part => !part.isEmpty && part != ("." : Text)) = parts := by
  rw [List.filter_eq_self]
  intro part hpart
  have hpoint : part ≠ ['.'] := (h part hpart).2.1
  simp [(h part hpart).1, hpoint]

theorem pieces_join_parts (hne : parts ≠ []) : Text.pieces '/' (Text.join "/" parts) = parts :=
  Text.pieces_join hne fun part hpart => (h part hpart).2.2

/-- The text of names does not start with a slash. -/
theorem exists_head_join (hne : parts ≠ []) :
    ∃ c rest, Text.join "/" parts = c :: rest ∧ c ≠ '/' := by
  obtain ⟨part, others, rfl⟩ := List.exists_cons_of_ne_nil hne
  obtain ⟨hnil, -, hslash⟩ := h part (List.mem_cons_self ..)
  obtain ⟨c, rest, rfl⟩ := List.exists_cons_of_ne_nil hnil
  have hc : c ≠ '/' := fun heq => hslash (heq ▸ List.mem_cons_self ..)
  cases others with
  | nil => exact ⟨c, rest, rfl, hc⟩
  | cons next others => exact ⟨c, _, rfl, hc⟩

/-- A path that is written and read again is the same path. -/
theorem ofText_toText (start : PathStart) :
    Path.ofText (Path.toText ⟨start, parts⟩) = ⟨start, parts⟩ := by
  by_cases hne : parts = []
  · subst hne
    cases start <;> rfl
  · obtain ⟨c, rest, hjoin, hc⟩ := exists_head_join h hne
    have hpieces := pieces_join_parts h hne
    have hfilter := filter_parts h
    have htext : Path.toText ⟨start, parts⟩ = start.toText ++ Text.join "/" parts := by
      rw [toText, if_neg (by simp [hne])]
    rw [htext, ofText]
    cases start with
    | here =>
      have hstart : PathStart.ofText (Text.join "/" parts) = .here := by
        rw [hjoin]
        simp [PathStart.ofText, hc]
      simp only [PathStart.toText, List.nil_append, hstart, hpieces, hfilter]
    | root =>
      have hstart : PathStart.ofText ('/' :: Text.join "/" parts) = .root := by
        rw [hjoin]
        simp [PathStart.ofText, hc]
      have hall : Text.pieces '/' ('/' :: Text.join "/" parts) = [] :: parts := by
        rw [Text.pieces, if_pos rfl, hpieces]
      have hroot : PathStart.root.toText ++ Text.join "/" parts = '/' :: Text.join "/" parts := rfl
      rw [hroot, hstart, hall, List.filter_cons_of_neg (by decide), hfilter]
    | doubleRoot =>
      have hstart : PathStart.ofText ('/' :: '/' :: Text.join "/" parts) = .doubleRoot := by
        rw [hjoin]
        simp [PathStart.ofText, hc]
      have hall : Text.pieces '/' ('/' :: '/' :: Text.join "/" parts) = [] :: [] :: parts := by
        rw [Text.pieces, if_pos rfl, Text.pieces, if_pos rfl, hpieces]
      have hroot : PathStart.doubleRoot.toText ++ Text.join "/" parts =
          '/' :: '/' :: Text.join "/" parts := rfl
      rw [hroot, hstart, hall, List.filter_cons_of_neg (by decide),
        List.filter_cons_of_neg (by decide), hfilter]

end

end Path

namespace FileSystem

variable {fs : FileSystem} {place front back : Place}

/-- The names of all items are such as file systems admit: no slash and no null character is
    in them. -/
def Named (fs : FileSystem) : Prop :=
  ∀ entry ∈ fs.items, ∀ name ∈ entry.1, '/' ∉ name ∧ '\x00' ∉ name

/-- The file system seen from another current directory. -/
def seenFrom (fs : FileSystem) (place : Place) : FileSystem := { fs with current := place }

theorem leads_seenFrom {directory goal : Place} {parts : List Text} {links : Nat}
    (h : Leads fs place parts links goal) :
    Leads (fs.seenFrom directory) place parts links goal := by
  induction h with
  | here => exact .here
  | self hdir hself _ ih => exact .self hdir hself ih
  | up hdir hself hup _ ih => exact .up hdir hself hup ih
  | enter hdir hname hitem hlink _ ih => exact .enter hdir hname hitem hlink ih
  | follow hdir hname hitem _ _ ihtarget ihrest => exact .follow hdir hname hitem ihtarget ihrest

/-- What a place without links has above its last name. -/
theorem Stands.concat {part : Text} (h : Stands fs (place ++ [part])) :
    Stands fs place ∧ fs.item? place = some .directory ∧ IsName part ∧
      ∃ item, fs.item? (place ++ [part]) = some item ∧ ∀ target, item ≠ .link target := by
  generalize heq : place ++ [part] = whole at h
  cases h with
  | root => simp at heq
  | @child above last item hplace hdir hname hitem hlink =>
    obtain ⟨rfl, rfl⟩ : place = above ∧ part = last := by simpa using heq
    exact ⟨hplace, hdir, hname, item, hitem, hlink⟩

/-- The names below a directory lead from there to a place without links. -/
theorem Stands.leads_below (h : Stands fs (front ++ back)) :
    Leads fs front back 0 (front ++ back) := by
  induction back using List.reverseRecOn with
  | nil =>
    rw [List.append_nil]
    exact .here
  | append_singleton back part ih =>
    rw [← List.append_assoc] at h ⊢
    obtain ⟨hplace, hdir, hname, item, hitem, hlink⟩ := h.concat
    exact (ih hplace).append (.enter hdir hname hitem hlink .here)

/-- The names of a place without links are those of an item. -/
theorem Stands.isPart (h : Stands fs place) (hnamed : fs.Named) :
    ∀ part ∈ place, Path.IsPart part ∧ '\x00' ∉ part := by
  induction h with
  | root => exact fun part hpart => absurd hpart List.not_mem_nil
  | @child place last item _ _ hname hitem _ ih =>
    intro part hpart
    rcases List.mem_append.mp hpart with hpart | hpart
    · exact ih part hpart
    · rw [List.mem_singleton.mp hpart]
      rw [item?, if_neg (List.append_ne_nil_of_right_ne_nil _ (List.cons_ne_nil _ _))] at hitem
      obtain ⟨entry, hentry, hplace⟩ := List.mem_map.mp (mem_of_find? hitem)
      have hlast := hnamed entry hentry last (by simp [hplace])
      have hself := hname.1
      simp only [isSelf, Bool.or_eq_false_iff, List.isEmpty_eq_false_iff, beq_eq_false_iff_ne]
        at hself
      exact ⟨⟨hself.1, hself.2, hlast.1⟩, hlast.2⟩

/-- The text of the names below a directory leads from there to a place without links. -/
theorem Stands.walk_toText (h : Stands fs (front ++ back))
    (hparts : ∀ part ∈ back, Path.IsPart part ∧ '\x00' ∉ part) :
    (fs.seenFrom front).walk .followed (Path.ofText (Path.toText ⟨.here, back⟩)) =
      .ok (front ++ back) := by
  have hnull : Path.hasNull ⟨.here, back⟩ = false := by
    rw [Path.hasNull, List.any_eq_false]
    intro part hpart
    simpa using (hparts part hpart).2
  rw [Path.ofText_toText fun part hpart => (hparts part hpart).1]
  exact walk_followed_iff.mpr ⟨hnull, 0, Nat.zero_le _, leads_seenFrom h.leads_below⟩

end FileSystem

end WorkflowLint
