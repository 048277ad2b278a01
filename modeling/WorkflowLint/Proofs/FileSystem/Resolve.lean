/-
  WorkflowLint/Proofs/FileSystem/Resolve.lean
  ===========================================
  **A path that leads somewhere is resolved.**

  Resolving a path looks at what stands on its way less closely than a walk, and gives up on
  a link only if that link is being resolved already.  Where a walk succeeds this does not
  happen: the target of a link is walked along with fewer links than the path to the link, so
  no link is met on the way to its own target.  Hence the path is resolved to the place that
  the walk leads to (`resolve_of_walk`).
-/
import WorkflowLint.Proofs.FileSystem.Grounded
import Mathlib.Data.List.Induction
import Mathlib.Data.List.Perm.Subperm

namespace WorkflowLint.FileSystem

variable {fs : FileSystem} {place mid goal : Place} {parts : List Text} {links bound : Nat}
  {active : List Place}

/-! ### Places without links -/

/-- A place that is reached through directories only, and is no link itself. -/
inductive Stands (fs : FileSystem) : Place → Prop where
  | root : Stands fs []
  | child {place : Place} {part : Text} {item : Item} (hplace : Stands fs place)
      (hdir : fs.item? place = some .directory) (hname : IsName part)
      (hitem : fs.item? (place ++ [part]) = some item) (hlink : ∀ target, item ≠ .link target) :
      Stands fs (place ++ [part])

theorem Stands.dropLast (h : Stands fs place) : Stands fs place.dropLast := by
  cases h with
  | root => exact .root
  | child hplace =>
    rw [List.dropLast_concat]
    exact hplace

theorem Stands.targetStart (h : Stands fs place) (target : Text) :
    Stands fs (targetStart place target) := by
  rw [FileSystem.targetStart]
  split
  · exact h
  · exact .root

/-- The names of a place lead to it from the root. -/
theorem Stands.leads (h : Stands fs place) : Leads fs [] place 0 place := by
  induction h with
  | root => exact .here
  | child _ hdir hname hitem hlink ih => exact ih.append (.enter hdir hname hitem hlink .here)

/-- Names lead from a place without links to another one. -/
theorem Leads.stands (h : Leads fs place parts links goal) (hplace : Stands fs place) :
    Stands fs goal := by
  induction h with
  | here => exact hplace
  | self _ _ _ ih => exact ih hplace
  | up _ _ _ _ ih => exact ih hplace.dropLast
  | enter hdir hname hitem hlink _ ih => exact ih (.child hplace hdir hname hitem hlink)
  | follow _ _ _ _ _ ihtarget ihrest => exact ihrest (ihtarget (hplace.targetStart _))

theorem Grounded.stands_of_prefix (h : Grounded fs) :
    ∀ {place : Place}, place <+: fs.current → Stands fs place := by
  intro place
  induction place using List.reverseRecOn with
  | nil => exact fun _ => .root
  | append_singleton place part ih =>
    intro hbelow
    have hplace := (List.prefix_append place [part]).trans hbelow
    refine .child (ih hplace) (h.isDirectory _ hplace) ?_ (h.isDirectory _ hbelow) (by simp)
    exact h.isName part (hbelow.subset (List.mem_append_right _ (List.mem_singleton_self part)))

theorem Grounded.stands_start (h : Grounded fs) (start : PathStart) :
    Stands fs (fs.startOf start) := by
  cases start with
  | here => exact h.stands_of_prefix (List.prefix_refl _)
  | root | doubleRoot => exact .root

/-! ### Links that are being resolved -/

/-- Links that are being resolved, while names are left to go along that lead along no more than
    a number of links. -/
structure Resolving (fs : FileSystem) (bound : Nat) (active : List Place) : Prop where
  nodup : active.Nodup
  leads : ∀ link ∈ active, ∃ target links goal, fs.item? link = some (.link target) ∧
    Leads fs (targetStart link.dropLast target) (targetParts target) links goal ∧ bound ≤ links

theorem Resolving.mono {less : Nat} (h : Resolving fs bound active) (hle : less ≤ bound) :
    Resolving fs less active := by
  refine ⟨h.nodup, fun link hlink => ?_⟩
  obtain ⟨target, links, goal, hitem, hleads, hbound⟩ := h.leads link hlink
  exact ⟨target, links, goal, hitem, hleads, Nat.le_trans hle hbound⟩

theorem find?_eq_none_iff {items : List (Place × Item)} :
    find? place items = none ↔ place ∉ items.map Prod.fst := by
  induction items with
  | nil => simp [find?]
  | cons entry rest ih =>
    rw [find?, List.map_cons, List.mem_cons, not_or]
    by_cases heq : entry.1 = place
    · simp [heq]
    · rw [if_neg heq, ih]
      exact ⟨fun hnot => ⟨fun h => heq h.symm, hnot⟩, fun h => h.2⟩

theorem mem_of_find? {items : List (Place × Item)} {item : Item}
    (h : find? place items = some item) : place ∈ items.map Prod.fst := by
  by_contra hnot
  rw [find?_eq_none_iff.mpr hnot] at h
  cases h

/-- There are no more of them than items. -/
theorem Resolving.length_le (h : Resolving fs bound active) : active.length ≤ fs.items.length := by
  have hsubset : active ⊆ fs.items.map Prod.fst := by
    intro link hlink
    obtain ⟨target, -, -, hitem, -⟩ := h.leads link hlink
    rw [item?] at hitem
    split at hitem
    · cases hitem
    · exact mem_of_find? hitem
  rw [← List.length_map (f := Prod.fst)]
  exact (h.nodup.subperm hsubset).length_le

/-- A link whose target leads along fewer links is not one of them. -/
theorem Resolving.not_mem {link : Place} {target : Text} (h : Resolving fs bound active)
    (hitem : fs.item? link = some (.link target))
    (htarget : Leads fs (targetStart link.dropLast target) (targetParts target) links goal)
    (hlt : links < bound) : link ∉ active := by
  intro hlink
  obtain ⟨other, count, end', hother, hleads, hle⟩ := h.leads link hlink
  rw [hitem] at hother
  cases hother
  have heq := (hleads.unique htarget).1
  omega

/-! ### Resolving -/

theorem Leads.resolveWith_eq (h : Leads fs place parts links goal) {depth : Nat}
    (hactive : Resolving fs links active) (hdepth : fs.items.length < depth + active.length) :
    resolveWith fs (resolveLink fs depth active) place parts = (goal, true) := by
  induction h generalizing depth active with
  | here => rw [resolveWith]
  | self _ hself _ ih =>
    rw [resolveWith, if_pos hself]
    exact ih hactive hdepth
  | up _ hself hup _ ih =>
    rw [resolveWith, hself, if_neg Bool.false_ne_true, if_pos hup]
    exact ih hactive hdepth
  | @enter _ _ _ _ _ item _ hname hitem hlink _ ih =>
    rw [resolveWith, hname.1, if_neg Bool.false_ne_true, if_neg hname.2, hitem]
    cases item with
    | link target => exact absurd rfl (hlink target)
    | file | directory => exact ih hactive hdepth
  | @follow place mid _ part target rest inner outer hdir hname hitem htarget _ ihtarget ihrest =>
    have hlink : Leads fs (targetStart (place ++ [part]).dropLast target) (targetParts target)
        inner mid := by
      rw [List.dropLast_concat]
      exact htarget
    -- The target leads along fewer links than all names that are left, and these lead along no
    -- more links than any target that is being resolved.
    have hnot : place ++ [part] ∉ active := hactive.not_mem hitem hlink (by omega)
    have hinner : Resolving fs inner ((place ++ [part]) :: active) := by
      refine ⟨List.nodup_cons.mpr ⟨hnot, hactive.nodup⟩, fun link hmem => ?_⟩
      rcases List.mem_cons.mp hmem with rfl | hmem
      · exact ⟨target, inner, mid, hitem, hlink, Nat.le_refl _⟩
      · exact (hactive.mono (by omega)).leads link hmem
    have hlength := hactive.length_le
    obtain ⟨deeper, rfl⟩ : ∃ deeper, depth = deeper + 1 := ⟨depth - 1, by omega⟩
    have hresolved : resolveLink fs (deeper + 1) active (place ++ [part])
        (targetStart place target) (targetParts target) = (mid, true) := by
      rw [resolveLink, if_neg hnot]
      apply ihtarget hinner
      rw [List.length_cons]
      omega
    rw [resolveWith, hname.1, if_neg Bool.false_ne_true, if_neg hname.2, hitem]
    simp only [hresolved]
    exact ihrest (hactive.mono (by omega)) hdepth

/-- A path that leads somewhere is resolved to where it leads. -/
theorem resolve_of_walk (hgrounded : Grounded fs) {path : Path}
    (h : fs.walk .followed path = .ok goal) : fs.resolve path = .ok goal := by
  obtain ⟨hnull, links, -, hleads⟩ := walk_followed_iff.mp h
  have hresolved : resolveWith fs (resolveLink fs (fs.items.length + 1) [])
      (fs.startOf path.start) path.parts = (goal, true) :=
    hleads.resolveWith_eq ⟨List.nodup_nil, by simp⟩ (by simp)
  have hgoal := (hleads.stands (hgrounded.stands_start _)).leads
  rw [resolve, hnull, if_neg Bool.false_ne_true, hresolved]
  simp only
  cases hnull' : goal.toPath.hasNull with
  | true => simp [walk, hnull']
  | false => rw [walk_followed_iff.mpr ⟨hnull', 0, Nat.zero_le _, hgoal⟩]

end WorkflowLint.FileSystem
