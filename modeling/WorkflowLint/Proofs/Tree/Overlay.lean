/-
  WorkflowLint/Proofs/Tree/Overlay.lean
  =====================================
  **One tree laid over another.**

  A tree that was read further down a text has its lines shifted.  Laying it over
  the tree of what stands before sets its root entries one after the other.  What
  lies below a key of the upper tree is seen through the lower one as it is, and
  changing it or setting a root key comes to the same before and after the
  overlay (`modifyAt_overlay`, `set_overlay`).
-/
import WorkflowLint.Proofs.Tree.Address
import WorkflowLint.Proofs.Tree.Relabel

namespace WorkflowLint

/-! ### Lines further down -/

mutual

/-- The tree with all recorded lines moved down by `offset`. -/
def Node.shift (offset : Int) : Node → Node
  | .scalar value line => .scalar value (line.map (· + offset))
  | .sequence items line => .sequence (Node.shiftItems offset items) (line.map (· + offset))
  | .mapping entries line => .mapping (Node.shiftEntries offset entries) (line.map (· + offset))

/-- The items with all recorded lines moved down. -/
def Node.shiftItems (offset : Int) : List Node → List Node
  | [] => []
  | item :: rest => item.shift offset :: Node.shiftItems offset rest

/-- The entries with all recorded lines moved down. -/
def Node.shiftEntries (offset : Int) : List (Entry Node) → List (Entry Node)
  | [] => []
  | ⟨key, line, value⟩ :: rest =>
    ⟨key, line.map (· + offset), value.shift offset⟩ :: Node.shiftEntries offset rest

end

namespace Node

theorem shiftItems_eq_map (offset : Int) (items : List Node) :
    shiftItems offset items = items.map (shift offset) := by
  induction items with
  | nil => rw [shiftItems, List.map_nil]
  | cons item rest ih => rw [shiftItems, ih, List.map_cons]

theorem shiftEntries_eq_map (offset : Int) (entries : List (Entry Node)) :
    shiftEntries offset entries = entries.map (Entry.relabel (· + offset) (shift offset)) := by
  induction entries with
  | nil => rw [shiftEntries, List.map_nil]
  | cons entry rest ih =>
    obtain ⟨key, line, value⟩ := entry
    rw [shiftEntries, ih, List.map_cons]
    rfl

theorem isRelabelling_shift (offset : Int) : IsRelabelling (· + offset) (shift offset) where
  scalar_eq value line := ⟨value, by rw [shift]⟩
  sequence_eq items line := by rw [shift, shiftItems_eq_map]
  mapping_eq entries line := by rw [shift, shiftEntries_eq_map]

end Node

/-! ### Setting entries one after the other -/

namespace Entries

variable {α : Type} {key other : Text} {base top : List (Entry α)}

/-- Entries with the entries of `top` set one after the other. -/
def overlay (base top : List (Entry α)) : List (Entry α) :=
  top.foldl (fun entries entry => set entry.key entry.value entry.line entries) base

theorem keys_modify (key : Text) (f : α → α) (entries : List (Entry α)) :
    keys (modify key f entries) = keys entries := by
  induction entries with
  | nil => rfl
  | cons entry rest ih =>
    rw [modify]
    split
    · rfl
    · simp only [keys, List.map_cons] at ih ⊢
      rw [ih]

theorem mem_keys_set_self (key : Text) (value : α) (line : Option Int)
    (entries : List (Entry α)) : key ∈ keys (set key value line entries) := by
  rw [keys_set]
  split
  · assumption
  · exact List.mem_append_right _ (List.mem_singleton.mpr rfl)

theorem mem_keys_set (h : key ∈ keys base) (other : Text) (value : α) (line : Option Int) :
    key ∈ keys (set other value line base) := by
  rw [keys_set]
  split
  · exact h
  · exact List.mem_append_left _ h

theorem nodup_keys_set (h : (keys base).Nodup) (key : Text) (value : α) (line : Option Int) :
    (keys (set key value line base)).Nodup := by
  rw [keys_set]
  split
  · exact h
  · rename_i hkey
    refine List.nodup_append.mpr ⟨h, List.nodup_cons.mpr ⟨List.not_mem_nil, List.nodup_nil⟩, ?_⟩
    intro found hfound last hlast heq
    rw [List.mem_singleton.mp hlast] at heq
    exact hkey (heq ▸ hfound)

theorem mem_lines_of_mem_modify {entry : Entry α} {f : α → α} {entries : List (Entry α)}
    (h : entry ∈ modify key f entries) : ∃ before ∈ entries, before.line = entry.line := by
  induction entries with
  | nil => exact absurd h List.not_mem_nil
  | cons first rest ih =>
    rw [modify] at h
    split at h
    · rcases List.mem_cons.mp h with rfl | h
      · exact ⟨first, List.mem_cons_self .., rfl⟩
      · exact ⟨entry, List.mem_cons_of_mem _ h, rfl⟩
    · rcases List.mem_cons.mp h with rfl | h
      · exact ⟨entry, List.mem_cons_self .., rfl⟩
      · obtain ⟨before, hbefore, hline⟩ := ih h
        exact ⟨before, List.mem_cons_of_mem _ hbefore, hline⟩

/-- Setting a key that is there, or with a line, records no key without a line. -/
theorem isSome_line_of_mem_set {value : α} {line : Option Int} {entries : List (Entry α)}
    (hlines : ∀ entry ∈ entries, entry.line.isSome = true)
    (hline : line.isSome = true ∨ key ∈ keys entries) {entry : Entry α}
    (h : entry ∈ set key value line entries) : entry.line.isSome = true := by
  induction entries with
  | nil =>
    rw [set, List.mem_singleton] at h
    rw [h]
    exact hline.resolve_right List.not_mem_nil
  | cons first rest ih =>
    have hfirst := hlines first (List.mem_cons_self ..)
    have hrest : ∀ other ∈ rest, other.line.isSome = true :=
      fun other hother => hlines other (List.mem_cons_of_mem _ hother)
    rw [set] at h
    split at h
    · rcases List.mem_cons.mp h with rfl | h
      · rw [Option.isSome_or, hfirst, Bool.or_true]
      · exact hrest entry h
    · rename_i hkey
      rcases List.mem_cons.mp h with rfl | h
      · exact hfirst
      · exact ih hrest
          (hline.imp_right fun hmem => (List.mem_cons.mp hmem).resolve_left (Ne.symm hkey)) h

theorem get?_set_self (key : Text) (value : α) (line : Option Int) (entries : List (Entry α)) :
    get? key (set key value line entries) = some value := by
  induction entries with
  | nil => rw [set, get?_cons, if_pos rfl]
  | cons entry rest ih =>
    rw [set]
    split
    · rw [get?_cons, if_pos rfl]
    · rename_i hkey
      rw [get?_cons, if_neg hkey, ih]

theorem get?_set_of_ne (h : other ≠ key) (value : α) (line : Option Int)
    (entries : List (Entry α)) : get? key (set other value line entries) = get? key entries := by
  induction entries with
  | nil => rw [set, get?_cons, if_neg h]
  | cons entry rest ih =>
    rw [set]
    split
    · rename_i hkey
      rw [get?_cons, get?_cons, if_neg h, if_neg (fun heq => h (hkey.symm.trans heq))]
    · rw [get?_cons, get?_cons, ih]

theorem modify_set_self (key : Text) (f : α → α) (value : α) (line : Option Int)
    (entries : List (Entry α)) :
    modify key f (set key value line entries) = set key (f value) line entries := by
  induction entries with
  | nil => rw [set, modify, if_pos rfl, set]
  | cons entry rest ih =>
    rw [set, set]
    split
    · rw [modify, if_pos rfl]
    · rename_i hkey
      rw [modify, if_neg hkey, ih]

theorem modify_set_of_ne (h : other ≠ key) (f : α → α) (value : α) (line : Option Int)
    (entries : List (Entry α)) :
    modify key f (set other value line entries) = set other value line (modify key f entries) := by
  induction entries with
  | nil => simp only [set, modify, if_neg h]
  | cons entry rest ih =>
    by_cases hother : entry.key = other
    · have hkey : entry.key ≠ key := fun heq => h (hother.symm.trans heq)
      rw [set, if_pos hother, modify, if_neg h, modify, if_neg hkey, set, if_pos hother]
    · rw [set, if_neg hother, modify, modify]
      split
      · rw [set, if_neg hother]
      · rw [set, if_neg hother, ih]

theorem set_set_self (key : Text) (value old : α) (line oldLine : Option Int)
    (entries : List (Entry α)) :
    set key value line (set key old oldLine entries) =
      set key value (line.or oldLine) entries := by
  induction entries with
  | nil => simp only [set, if_pos]
  | cons entry rest ih =>
    rw [set, set]
    split
    · rw [set, if_pos rfl, Option.or_assoc]
    · rename_i hkey
      rw [set, if_neg hkey, ih]

/-- A key that has its place already may be set before or after another one. -/
theorem set_set_of_ne (h : other ≠ key) (hmem : key ∈ keys base) (value value' : α)
    (line line' : Option Int) :
    set key value line (set other value' line' base) =
      set other value' line' (set key value line base) := by
  induction base with
  | nil => exact absurd hmem List.not_mem_nil
  | cons entry rest ih =>
    by_cases hkey : entry.key = key
    · have hother : entry.key ≠ other := fun heq => h (heq.symm.trans hkey)
      rw [set, if_neg hother, set, if_pos hkey, set, if_pos hkey, set, if_neg h.symm]
    · have hmem : key ∈ keys rest := (List.mem_cons.mp hmem).resolve_left fun heq => hkey heq.symm
      rw [set, set.eq_2 key, if_neg hkey]
      split
      · rw [set, if_neg h, set, if_pos ‹_›]
      · rw [set, if_neg hkey, set, if_neg ‹_›, ih hmem]

/-! ### Reading and changing through an overlay -/

theorem overlay_cons (base : List (Entry α)) (entry : Entry α) (rest : List (Entry α)) :
    overlay base (entry :: rest) = overlay (set entry.key entry.value entry.line base) rest := rfl

theorem get?_overlay_of_not_mem (h : key ∉ keys top) :
    get? key (overlay base top) = get? key base := by
  induction top generalizing base with
  | nil => rfl
  | cons entry rest ih =>
    rw [keys, List.map_cons, List.mem_cons, not_or] at h
    rw [overlay_cons, ih h.2, get?_set_of_ne (Ne.symm h.1)]

theorem modify_overlay_of_not_mem (h : key ∉ keys top) (f : α → α) :
    modify key f (overlay base top) = overlay (modify key f base) top := by
  induction top generalizing base with
  | nil => rfl
  | cons entry rest ih =>
    rw [keys, List.map_cons, List.mem_cons, not_or] at h
    rw [overlay_cons, overlay_cons, ih h.2, modify_set_of_ne (Ne.symm h.1)]

theorem set_overlay_of_not_mem (h : key ∉ keys top) (hmem : key ∈ keys base) (value : α)
    (line : Option Int) :
    set key value line (overlay base top) = overlay (set key value line base) top := by
  induction top generalizing base with
  | nil => rfl
  | cons entry rest ih =>
    rw [keys, List.map_cons, List.mem_cons, not_or] at h
    rw [overlay_cons, overlay_cons, ih h.2 (mem_keys_set hmem ..),
      set_set_of_ne (Ne.symm h.1) hmem]

/-- Entries with other keys are appended. -/
theorem overlay_of_disjoint (hnodup : (keys top).Nodup) (h : ∀ key ∈ keys top, key ∉ keys base) :
    overlay base top = base ++ top := by
  induction top generalizing base with
  | nil => exact (List.append_nil base).symm
  | cons entry rest ih =>
    obtain ⟨hfresh, hnodup⟩ := List.nodup_cons.mp hnodup
    rw [overlay_cons, set_of_not_mem (h entry.key (List.mem_cons_self ..)), ih hnodup]
    · rw [List.append_assoc]
      rfl
    · intro key hkey
      rw [keys, List.map_append, List.mem_append, not_or]
      refine ⟨h key (List.mem_cons_of_mem _ hkey), fun hmem => ?_⟩
      rw [List.map_singleton, List.mem_singleton] at hmem
      exact hfresh (hmem ▸ hkey)

/-- What an overlay shows of a key of the upper entries is what they have. -/
theorem get?_overlay (hnodup : (keys top).Nodup) (hmem : key ∈ keys top) :
    get? key (overlay base top) = get? key top := by
  induction top generalizing base with
  | nil => exact absurd hmem List.not_mem_nil
  | cons entry rest ih =>
    obtain ⟨hfresh, hnodup⟩ := List.nodup_cons.mp hnodup
    rw [overlay_cons, get?_cons]
    by_cases hkey : entry.key = key
    · rw [if_pos hkey, get?_overlay_of_not_mem (hkey ▸ hfresh), hkey, get?_set_self]
    · rw [if_neg hkey]
      exact ih hnodup ((List.mem_cons.mp hmem).resolve_left fun heq => hkey heq.symm)

/-- Changing the value of a key of the upper entries. -/
theorem modify_overlay (hnodup : (keys top).Nodup) (hmem : key ∈ keys top) (f : α → α) :
    modify key f (overlay base top) = overlay base (modify key f top) := by
  induction top generalizing base with
  | nil => exact absurd hmem List.not_mem_nil
  | cons entry rest ih =>
    obtain ⟨hfresh, hnodup⟩ := List.nodup_cons.mp hnodup
    rw [overlay_cons, modify]
    by_cases hkey : entry.key = key
    · rw [if_pos hkey, overlay_cons, modify_overlay_of_not_mem (hkey ▸ hfresh), hkey,
        modify_set_self]
    · rw [if_neg hkey, overlay_cons]
      exact ih hnodup ((List.mem_cons.mp hmem).resolve_left fun heq => hkey heq.symm)

/-- Setting a key on top. -/
theorem set_overlay (hnodup : (keys top).Nodup) (key : Text) (value : α) (line : Option Int) :
    set key value line (overlay base top) = overlay base (set key value line top) := by
  induction top generalizing base with
  | nil => rfl
  | cons entry rest ih =>
    obtain ⟨hfresh, hnodup⟩ := List.nodup_cons.mp hnodup
    rw [overlay_cons, set]
    split
    · rename_i hkey
      subst hkey
      rw [overlay_cons, set_overlay_of_not_mem hfresh (mem_keys_set_self ..), set_set_self]
    · rw [overlay_cons]
      exact ih hnodup

end Entries

/-! ### Overlays of trees -/

/-- Whether an address starts at one of some keys of the root. -/
def Address.StartsIn (keys : List Text) : Address → Prop
  | .key key :: _ => key ∈ keys
  | _ => False

theorem Address.StartsIn.append {keys : List Text} {address : Address}
    (h : address.StartsIn keys) (back : Address) : Address.StartsIn keys (address ++ back) := by
  cases address with
  | nil => exact h.elim
  | cons step rest =>
    cases step with
    | key key => exact h
    | item index => exact h.elim

theorem Address.StartsIn.mono {keys keys' : List Text} {address : Address}
    (h : address.StartsIn keys) (hkeys : ∀ key ∈ keys, key ∈ keys') : address.StartsIn keys' := by
  cases address with
  | nil => exact h.elim
  | cons step rest =>
    cases step with
    | key key => exact hkeys key h
    | item index => exact h.elim

namespace Node

/-- The tree with the root entries of `top` set one after the other, each with the line of its
    key. -/
def overlay (base top : Node) : Node :=
  top.entries.foldl (fun node entry => node.set entry.key entry.value entry.line) base

theorem overlay_mapping (entries : List (Entry Node)) (line : Option Int) (top : Node) :
    (mapping entries line).overlay top = mapping (Entries.overlay entries top.entries) line := by
  rw [overlay, Entries.overlay]
  induction top.entries generalizing entries with
  | nil => rfl
  | cons entry rest ih => exact ih _

variable {base top : List (Entry Node)} {line topLine : Option Int} {address : Address}

theorem at?_overlay (hnodup : (Entries.keys top).Nodup)
    (h : address.StartsIn (Entries.keys top)) :
    ((mapping base line).overlay (mapping top topLine)).at? address =
      (mapping top topLine).at? address := by
  rw [overlay_mapping]
  cases address with
  | nil => exact h.elim
  | cons step rest =>
    cases step with
    | key key =>
      rw [at?_cons, at?_cons, child?, child?]
      exact congrArg (Option.bind · _) (Entries.get?_overlay hnodup h)
    | item index => exact h.elim

theorem modifyAt_overlay (hnodup : (Entries.keys top).Nodup)
    (h : address.StartsIn (Entries.keys top)) (f : Node → Node) :
    modifyAt f address ((mapping base line).overlay (mapping top topLine)) =
      (mapping base line).overlay (modifyAt f address (mapping top topLine)) := by
  rw [overlay_mapping]
  cases address with
  | nil => exact h.elim
  | cons step rest =>
    cases step with
    | key key =>
      rw [modifyAt, modifyAt, modifyChild, modifyChild, overlay_mapping]
      exact congrArg (mapping · line) (Entries.modify_overlay hnodup h _)
    | item index => exact h.elim

theorem set_overlay (hnodup : (Entries.keys top).Nodup) (key : Text) (value : Node)
    (keyLine : Option Int) :
    ((mapping base line).overlay (mapping top topLine)).set key value keyLine =
      (mapping base line).overlay ((mapping top topLine).set key value keyLine) := by
  rw [overlay_mapping, set, set, overlay_mapping]
  exact congrArg (mapping · line) (Entries.set_overlay hnodup key value keyLine)

end Node

end WorkflowLint
