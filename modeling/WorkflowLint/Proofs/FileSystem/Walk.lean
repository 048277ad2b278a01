/-
  WorkflowLint/Proofs/FileSystem/Walk.lean
  ========================================
  **Where names lead.**

  A walk that succeeds is a derivation (`walkLinks_followed_iff`): the names of a link's
  target lead somewhere, and the names after the link lead on from there.  Unlike the walk
  itself, which puts the names of the target before the others, a derivation says where each
  link leads by itself.  It also counts the links, so that a walk with a limit can be cut into
  its parts.
-/
import WorkflowLint.FileSystem.Walk

namespace WorkflowLint.FileSystem

variable {fs fs' : FileSystem} {place mid goal : Place} {part : Text} {parts front back rest : List Text}
  {links inner outer : Nat}

/-! ### The relation -/

/-- A name that stands for an item of a directory. -/
def IsName (part : Text) : Prop := isSelf part = false ∧ part ≠ ".."

instance (part : Text) : Decidable (IsName part) := inferInstanceAs (Decidable (_ ∧ _))

/-- Names lead from a place to another one, and that many links are followed on the way. -/
inductive Leads (fs : FileSystem) : Place → List Text → Nat → Place → Prop where
  | here {place : Place} : Leads fs place [] 0 place
  | self {place goal : Place} {part : Text} {rest : List Text} {links : Nat}
      (hdir : fs.item? place = some .directory) (hself : isSelf part = true)
      (hrest : Leads fs place rest links goal) : Leads fs place (part :: rest) links goal
  | up {place goal : Place} {part : Text} {rest : List Text} {links : Nat}
      (hdir : fs.item? place = some .directory) (hself : isSelf part = false) (hup : part = "..")
      (hrest : Leads fs place.dropLast rest links goal) : Leads fs place (part :: rest) links goal
  | enter {place goal : Place} {part : Text} {rest : List Text} {links : Nat} {item : Item}
      (hdir : fs.item? place = some .directory) (hname : IsName part)
      (hitem : fs.item? (place ++ [part]) = some item) (hlink : ∀ target, item ≠ .link target)
      (hrest : Leads fs (place ++ [part]) rest links goal) :
      Leads fs place (part :: rest) links goal
  | follow {place mid goal : Place} {part target : Text} {rest : List Text} {inner outer : Nat}
      (hdir : fs.item? place = some .directory) (hname : IsName part)
      (hitem : fs.item? (place ++ [part]) = some (.link target))
      (htarget : Leads fs (targetStart place target) (targetParts target) inner mid)
      (hrest : Leads fs mid rest outer goal) :
      Leads fs place (part :: rest) (inner + outer + 1) goal

/-- Names that lead to a directory start from one. -/
theorem Leads.isDirectory_start (h : Leads fs place parts links goal)
    (hgoal : fs.item? goal = some .directory) : fs.item? place = some .directory := by
  cases h with
  | here => exact hgoal
  | self hdir | up hdir | enter hdir | follow hdir => exact hdir

theorem Leads.append (h : Leads fs place front inner mid) (hback : Leads fs mid back outer goal) :
    Leads fs place (front ++ back) (inner + outer) goal := by
  induction h with
  | here =>
    rw [Nat.zero_add]
    exact hback
  | self hdir hself _ ih => exact .self hdir hself (ih hback)
  | up hdir hself hup _ ih => exact .up hdir hself hup (ih hback)
  | enter hdir hname hitem hlink _ ih => exact .enter hdir hname hitem hlink (ih hback)
  | @follow _ _ _ _ _ _ first second hdir hname hitem htarget _ _ ih =>
    rw [show first + second + 1 + outer = first + (second + outer) + 1 by omega]
    exact .follow hdir hname hitem htarget (ih hback)

/-- A walk along two lists of names is a walk along the first and then along the second. -/
theorem Leads.exists_of_append (h : Leads fs place (front ++ back) links goal) :
    ∃ inner outer mid, links = inner + outer ∧ Leads fs place front inner mid ∧
      Leads fs mid back outer goal := by
  induction front generalizing place links with
  | nil => exact ⟨0, links, place, (Nat.zero_add links).symm, .here, h⟩
  | cons part front ih =>
    rw [List.cons_append] at h
    cases h with
    | self hdir hself hrest =>
      obtain ⟨inner, outer, mid, hlinks, hfront, hback⟩ := ih hrest
      exact ⟨inner, outer, mid, hlinks, .self hdir hself hfront, hback⟩
    | up hdir hself hup hrest =>
      obtain ⟨inner, outer, mid, hlinks, hfront, hback⟩ := ih hrest
      exact ⟨inner, outer, mid, hlinks, .up hdir hself hup hfront, hback⟩
    | enter hdir hname hitem hlink hrest =>
      obtain ⟨inner, outer, mid, hlinks, hfront, hback⟩ := ih hrest
      exact ⟨inner, outer, mid, hlinks, .enter hdir hname hitem hlink hfront, hback⟩
    | @follow _ _ _ _ _ _ first _ hdir hname hitem htarget hrest =>
      obtain ⟨inner, outer, mid, hlinks, hfront, hback⟩ := ih hrest
      exact ⟨first + inner + 1, outer, mid, by omega, .follow hdir hname hitem htarget hfront, hback⟩

/-- Names lead to one place only, along one number of links. -/
theorem Leads.unique {links' : Nat} {goal' : Place} (h : Leads fs place parts links goal)
    (h' : Leads fs place parts links' goal') : links = links' ∧ goal = goal' := by
  induction h generalizing links' goal' with
  | here =>
    cases h'
    exact ⟨rfl, rfl⟩
  | self _ hself _ ih =>
    cases h' with
    | self _ _ hrest' => exact ih hrest'
    | up _ hself' => simp [hself] at hself'
    | enter _ hname' => simp [hself, IsName] at hname'
    | follow _ hname' => simp [hself, IsName] at hname'
  | up _ hself hup _ ih =>
    cases h' with
    | self _ hself' => simp [hself] at hself'
    | up _ _ _ hrest' => exact ih hrest'
    | enter _ hname' => exact absurd hup hname'.2
    | follow _ hname' => exact absurd hup hname'.2
  | enter _ hname hitem hlink _ ih =>
    cases h' with
    | self _ hself' => simp [hself', IsName] at hname
    | up _ _ hup' => exact absurd hup' hname.2
    | enter _ _ _ _ hrest' => exact ih hrest'
    | follow _ _ hitem' =>
      rw [hitem] at hitem'
      exact absurd (Option.some.inj hitem') (hlink _)
  | follow _ hname hitem _ _ ihtarget ihrest =>
    cases h' with
    | self _ hself' => simp [hself', IsName] at hname
    | up _ _ hup' => exact absurd hup' hname.2
    | enter _ _ hitem' hlink' =>
      rw [hitem] at hitem'
      exact absurd (Option.some.inj hitem').symm (hlink' _)
    | follow _ _ hitem' htarget' hrest' =>
      rw [hitem] at hitem'
      cases hitem'
      obtain ⟨rfl, rfl⟩ := ihtarget htarget'
      obtain ⟨rfl, rfl⟩ := ihrest hrest'
      exact ⟨rfl, rfl⟩

/-! ### Walks -/

/-- How a walk goes on at a link, if it may follow some more. -/
def follower (fs : FileSystem) (last : LastName) : Nat → Place → List Text → Except WalkFault Place
  | 0 => fun _ _ => .error .tooManyLinks
  | links + 1 => walkLinks fs last links

theorem walkLinks_eq (fs : FileSystem) (last : LastName) (links : Nat) :
    walkLinks fs last links = walkWith fs (follower fs last links) last := by
  cases links with
  | zero => rfl
  | succ links => rfl

section Step

variable (last : LastName) (links) (hdir : fs.item? place = some .directory)

theorem walkLinks_nil : walkLinks fs last links place [] = .ok place := by
  rw [walkLinks_eq, walkWith]

include hdir

theorem walkLinks_self (hself : isSelf part = true) (rest : List Text) :
    walkLinks fs last links place (part :: rest) = walkLinks fs last links place rest := by
  rw [walkLinks_eq, walkWith, if_neg (not_not_intro hdir), if_pos hself]

theorem walkLinks_up (hself : isSelf part = false) (hup : part = "..") (rest : List Text) :
    walkLinks fs last links place (part :: rest) = walkLinks fs last links place.dropLast rest := by
  rw [walkLinks_eq, walkWith, if_neg (not_not_intro hdir), hself, if_neg Bool.false_ne_true,
    if_pos hup]

variable (hname : IsName part)

include hname

theorem walkLinks_name (hasks : ¬(last = .written ∧ asksForDirectory rest = true)) :
    walkLinks fs last links place (part :: rest) =
      match fs.item? (place ++ [part]) with
      | none => .error (if rest.isEmpty then .absent (place ++ [part]) else .notFound)
      | some (.link target) =>
        if rest.isEmpty ∧ last = .kept then .ok (place ++ [part])
        else follower fs last links (targetStart place target) (targetParts target ++ rest)
      | some _ => walkLinks fs last links (place ++ [part]) rest := by
  rw [walkLinks_eq, walkWith, if_neg (not_not_intro hdir), hname.1, if_neg Bool.false_ne_true,
    if_neg hname.2]
  exact if_neg hasks

theorem walkLinks_enter (hasks : ¬(last = .written ∧ asksForDirectory rest = true)) {item : Item}
    (hitem : fs.item? (place ++ [part]) = some item) (hlink : ∀ target, item ≠ .link target) :
    walkLinks fs last links place (part :: rest) =
      walkLinks fs last links (place ++ [part]) rest := by
  rw [walkLinks_name _ _ hdir hname hasks, hitem]
  cases item with
  | link target => exact absurd rfl (hlink target)
  | file | directory => rfl

theorem walkLinks_follow (hasks : ¬(last = .written ∧ asksForDirectory rest = true))
    (hkept : ¬(rest.isEmpty = true ∧ last = .kept)) {target : Text}
    (hitem : fs.item? (place ++ [part]) = some (.link target)) :
    walkLinks fs last (links + 1) place (part :: rest) =
      walkLinks fs last links (targetStart place target) (targetParts target ++ rest) := by
  rw [walkLinks_name _ _ hdir hname hasks, hitem]
  exact if_neg hkept

end Step

/-- A walk goes on from where its first names lead, with the links that are left, as long as
    a name comes after them or the last name is nothing special. -/
theorem Leads.walkLinks_append (h : Leads fs place front inner mid) {last : LastName}
    (hlast : last = .followed ∨ ∃ part ∈ back, part ≠ []) :
    walkLinks fs last (inner + outer) place (front ++ back) =
      walkLinks fs last outer mid back := by
  have hasks (rest : List Text) :
      ¬(last = .written ∧ asksForDirectory (rest ++ back) = true) := by
    rintro ⟨rfl, hasks⟩
    obtain ⟨part, hpart, hne⟩ := hlast.resolve_left (by decide)
    rw [asksForDirectory, Bool.and_eq_true, List.all_eq_true] at hasks
    exact hne (List.isEmpty_iff.mp (hasks.2 part (List.mem_append_right _ hpart)))
  have hkept (rest : List Text) : ¬((rest ++ back).isEmpty = true ∧ last = .kept) := by
    rintro ⟨hnil, rfl⟩
    obtain ⟨part, hpart, -⟩ := hlast.resolve_left (by decide)
    rw [List.isEmpty_iff, List.append_eq_nil_iff] at hnil
    rw [hnil.2] at hpart
    cases hpart
  induction h generalizing outer back with
  | here => rw [Nat.zero_add, List.nil_append]
  | self hdir hself _ ih =>
    rw [List.cons_append, walkLinks_self _ _ hdir hself, ih hlast hasks hkept]
  | up hdir hself hup _ ih =>
    rw [List.cons_append, walkLinks_up _ _ hdir hself hup, ih hlast hasks hkept]
  | enter hdir hname hitem hlink _ ih =>
    rw [List.cons_append, walkLinks_enter _ _ hdir hname (hasks _) hitem hlink, ih hlast hasks hkept]
  | @follow _ _ _ _ _ rest first second hdir hname hitem _ _ ihtarget ihrest =>
    have hlater : last = .followed ∨ ∃ part ∈ rest ++ back, part ≠ [] := by
      rcases hlast with hlast | ⟨part, hpart, hne⟩
      · exact Or.inl hlast
      · exact Or.inr ⟨part, List.mem_append_right _ hpart, hne⟩
    have hassoc (others : List Text) : others ++ (rest ++ back) = others ++ rest ++ back :=
      (List.append_assoc ..).symm
    rw [List.cons_append, show first + second + 1 + outer = first + (second + outer) + 1 by omega,
      walkLinks_follow _ _ hdir hname (hasks _) (hkept _) hitem,
      ihtarget hlater (fun others => hassoc others ▸ hasks _)
        (fun others => hassoc others ▸ hkept _), ihrest hlast hasks hkept]

/-- A walk finds a place, or at least where its last name is missing. -/
def Arrives (back : List Text) (result : Except WalkFault Place) : Prop :=
  (∃ goal, result = .ok goal) ∨ back ≠ [] ∧ ∃ goal, result = .error (.absent goal)

/-- The first names of a walk that arrives lead somewhere, if they do so after each link. -/
theorem exists_leads_of_walkWith {follow : Place → List Text → Except WalkFault Place}
    {last : LastName} (hlast : last = .followed ∨ ∃ part ∈ back, part ≠ [])
    (hfollow : ∀ {start front}, Arrives back (follow start (front ++ back)) →
      ∃ count mid, count + 1 ≤ links ∧ Leads fs start front count mid)
    (h : Arrives back (walkWith fs follow last place (front ++ back))) :
    ∃ count mid, count ≤ links ∧ Leads fs place front count mid := by
  induction front generalizing place with
  | nil => exact ⟨0, place, Nat.zero_le _, .here⟩
  | cons part rest ih =>
    rw [List.cons_append, walkWith] at h
    split at h
    · simp [Arrives] at h
    · rename_i hdir
      rw [ne_eq, Decidable.not_not] at hdir
      split at h
      · rename_i hself
        obtain ⟨count, mid, hle, hrest⟩ := ih h
        exact ⟨count, mid, hle, .self hdir hself hrest⟩
      · rename_i hself
        rw [Bool.not_eq_true] at hself
        split at h
        · rename_i hup
          obtain ⟨count, mid, hle, hrest⟩ := ih h
          exact ⟨count, mid, hle, .up hdir hself hup hrest⟩
        · rename_i hup
          split at h
          · simp [Arrives] at h
          · split at h
            · rcases h with ⟨goal, h⟩ | ⟨hne, goal, h⟩
              · cases h
              · simp [hne] at h
            · rename_i target hitem
              have hkept : ¬((rest ++ back).isEmpty = true ∧ last = .kept) := by
                rintro ⟨hnil, rfl⟩
                obtain ⟨part, hpart, -⟩ := hlast.resolve_left (by decide)
                simp [(List.append_eq_nil_iff.mp (List.isEmpty_iff.mp hnil)).2] at hpart
              rw [if_neg hkept, ← List.append_assoc] at h
              -- The walk goes on along the target and the other names; it is cut between them.
              obtain ⟨count, mid, hle, hwhole⟩ := hfollow h
              obtain ⟨inner, outer, between, rfl, htarget, hrest⟩ := hwhole.exists_of_append
              exact ⟨_, mid, hle, .follow hdir ⟨hself, hup⟩ hitem htarget hrest⟩
            · rename_i item hlink hitem
              obtain ⟨count, mid, hle, hrest⟩ := ih h
              exact ⟨count, mid, hle, .enter hdir ⟨hself, hup⟩ hitem (fun target => hlink target)
                hrest⟩

/-- The first names of a walk that arrives lead somewhere, along no more links than it may
    follow. -/
theorem exists_leads_of_walkLinks {last : LastName}
    (hlast : last = .followed ∨ ∃ part ∈ back, part ≠ [])
    (h : Arrives back (walkLinks fs last links place (front ++ back))) :
    ∃ count mid, count ≤ links ∧ Leads fs place front count mid := by
  induction links generalizing place front with
  | zero =>
    rw [walkLinks] at h
    exact exists_leads_of_walkWith hlast (fun hfollow => by simp [Arrives] at hfollow) h
  | succ links ih =>
    rw [walkLinks] at h
    refine exists_leads_of_walkWith hlast (fun hfollow => ?_) h
    obtain ⟨count, mid, hle, hleads⟩ := ih hfollow
    exact ⟨count, mid, Nat.succ_le_succ hle, hleads⟩

/-- A walk that follows links succeeds exactly if the names lead somewhere along no more links
    than it may follow. -/
theorem walkLinks_followed_iff : walkLinks fs .followed links place parts = .ok goal ↔
    ∃ count, count ≤ links ∧ Leads fs place parts count goal := by
  have hwalk {count outer : Nat} {mid : Place} (hleads : Leads fs place parts count mid) :
      walkLinks fs .followed (count + outer) place (parts ++ []) = .ok mid := by
    rw [hleads.walkLinks_append (Or.inl rfl), walkLinks_nil]
  rw [← List.append_nil parts]
  constructor
  · intro h
    obtain ⟨count, mid, hle, hleads⟩ := exists_leads_of_walkLinks (Or.inl rfl) (Or.inl ⟨goal, h⟩)
    obtain ⟨outer, rfl⟩ := Nat.exists_eq_add_of_le hle
    rw [hwalk hleads] at h
    cases h
    rw [List.append_nil]
    exact ⟨count, hle, hleads⟩
  · rintro ⟨count, hle, hleads⟩
    obtain ⟨outer, rfl⟩ := Nat.exists_eq_add_of_le hle
    rw [List.append_nil] at hleads
    exact hwalk hleads

theorem walk_followed_iff {path : Path} : fs.walk .followed path = .ok goal ↔
    path.hasNull = false ∧
      ∃ count, count ≤ linkLimit ∧ Leads fs (fs.startOf path.start) path.parts count goal := by
  rw [walk]
  cases path.hasNull with
  | true => simp
  | false => simp [walkLinks_followed_iff]

/-! ### Other file systems -/

/-- No walk goes through a place to a directory: neither a directory stands there nor a link to
    one. -/
def Blocks (fs : FileSystem) (place : Place) : Prop :=
  fs.item? place ≠ some .directory ∧
    ∀ target, fs.item? place = some (.link target) → ∀ links goal,
      Leads fs (targetStart place.dropLast target) (targetParts target) links goal →
        fs.item? goal ≠ some .directory

/-- Names lead to a directory whatever stands at places that no walk to it goes through. -/
theorem Leads.of_blocks (h : Leads fs place parts links goal)
    (hgoal : fs.item? goal = some .directory)
    (hagree : ∀ place, fs'.item? place = fs.item? place ∨ fs.Blocks place) :
    Leads fs' place parts links goal := by
  have hkeep {place : Place} (hdir : fs.item? place = some .directory) :
      fs'.item? place = some .directory := by
    rcases hagree place with hsame | hblocks
    · rw [hsame, hdir]
    · exact absurd hdir hblocks.1
  induction h with
  | here => exact .here
  | self hdir hself _ ih => exact .self (hkeep hdir) hself (ih hgoal)
  | up hdir hself hup _ ih => exact .up (hkeep hdir) hself hup (ih hgoal)
  | enter hdir hname _ _ hrest ih =>
    have hnext := hrest.isDirectory_start hgoal
    exact .enter (hkeep hdir) hname (hkeep hnext) (by simp) (ih hgoal)
  | @follow place mid _ part target _ inner _ hdir hname hitem htarget hrest ihtarget ihrest =>
    have hmid := hrest.isDirectory_start hgoal
    rcases hagree (place ++ [part]) with hsame | hblocks
    · exact .follow (hkeep hdir) hname (hsame.trans hitem) (ihtarget hmid) (ihrest hgoal)
    · refine absurd hmid (hblocks.2 target hitem inner mid ?_)
      rw [List.dropLast_concat]
      exact htarget

end WorkflowLint.FileSystem
