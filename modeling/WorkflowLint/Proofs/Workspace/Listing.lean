/-
  WorkflowLint/Proofs/Workspace/Listing.lean
  ==========================================
  **Every workflow once, in order.**

  A folder is listed by the names of its workflows (`IsListing`).  A directory stands for the
  workflows in its folder for workflows and its own ones, and of these a path is kept exactly if
  no earlier path is resolved to the same place (`firsts`), so that no workflow is lost and none
  is found twice, however the links among them go.
-/
import WorkflowLint.Proofs.Repetition
import WorkflowLint.Proofs.Text.Order
import WorkflowLint.Proofs.Workspace.Discovery

namespace WorkflowLint.FileSystem

variable {fs : FileSystem} {folder path target : Path} {place : Place} {name : Text}
  {paths : List Path} {seen : List Place}

/-! ### Names in a directory -/

/-- The names in a directory are those under which something stands there. -/
theorem mem_names : name ∈ fs.names place ↔ fs.item? (place ++ [name]) ≠ none := by
  rw [item?, if_neg (by simp), ne_eq, find?_eq_none_iff, not_not, names, Text.mem_sort,
    List.mem_filterMap, List.mem_map]
  refine exists_congr fun entry => and_congr_right fun _ => ?_
  rcases List.eq_nil_or_concat' entry.1 with hnil | ⟨front, last, hlast⟩
  · simp [hnil]
  · simp [hlast, and_comm]

/-! ### Workflows in a folder -/

/-- Whether a name ends like the name of a workflow. -/
def EndsAsWorkflow (name : Text) : Prop :=
  (".yml" : Text) <:+ name ∨ (".yaml" : Text) <:+ name

theorem isWorkflowName_iff : isWorkflowName name = true ↔ EndsAsWorkflow name := by
  rw [isWorkflowName, Bool.or_eq_true, List.isSuffixOf_iff_suffix, List.isSuffixOf_iff_suffix]
  rfl

theorem EndsAsWorkflow.isName (h : EndsAsWorkflow name) : IsName name := by
  have hlength : 4 ≤ name.length := by
    rcases h with hsuffix | hsuffix
    · exact hsuffix.length_le
    · exact Nat.le_of_succ_le hsuffix.length_le
  constructor
  · rw [isSelf, Bool.or_eq_false_iff]
    constructor
    · exact List.isEmpty_eq_false_iff.mpr (List.ne_nil_of_length_pos (by omega))
    · refine beq_eq_false_iff_ne.mpr ?_
      rintro rfl
      simp at hlength
  · rintro rfl
    simp at hlength

theorem below_name (folder : Path) (name : Text) : (folder.below [name]).name = name := by
  simp [Path.below, Path.name]

/-- What leads to a file in a folder leads through a directory that has its name. -/
theorem exists_directory_of_isFile (hname : IsName name)
    (h : fs.isFile (folder.below [name]) = true) :
    ∃ place, fs.walk .followed folder = .ok place ∧ fs.item? place = some .directory ∧
      name ∈ fs.names place := by
  obtain ⟨goal, hwalk⟩ := exists_walk_of_isFile h
  obtain ⟨hnull, -⟩ := walk_followed_iff.mp hwalk
  obtain ⟨place, hholds⟩ :=
    exists_holds_of_walk (below_name folder name) hname.ne_nil (Or.inl ⟨goal, hwalk⟩)
  refine ⟨place, ?_, hholds.isDirectory, mem_names.mpr fun hnone => ?_⟩
  · obtain ⟨links, hle, hleads⟩ := hholds.leads
    rw [Path.below, List.dropLast_concat] at hleads
    refine walk_followed_iff.mpr ⟨?_, links, hle, hleads⟩
    rw [Path.hasNull, Path.below, List.any_append, Bool.or_eq_false_iff] at hnull
    exact hnull.1
  · rw [hholds.walk_absent hnull (below_name folder name) hname hnone] at hwalk
    cases hwalk

theorem mem_workflowsIn : path ∈ fs.workflowsIn folder ↔
    ∃ name, path = folder.below [name] ∧ EndsAsWorkflow name ∧ fs.isFile path = true := by
  constructor
  · intro h
    rw [workflowsIn] at h
    split at h
    · exact absurd h List.not_mem_nil
    · split at h
      · obtain ⟨hmem, hkept⟩ := List.mem_filter.mp h
        obtain ⟨name, -, rfl⟩ := List.mem_map.mp hmem
        rw [Bool.and_eq_true, below_name, isWorkflowName_iff] at hkept
        exact ⟨name, rfl, hkept⟩
      · exact absurd h List.not_mem_nil
  · rintro ⟨name, rfl, hends, hfile⟩
    obtain ⟨place, hwalk, hdir, hmem⟩ := exists_directory_of_isFile hends.isName hfile
    rw [workflowsIn, hwalk]
    simp only [hdir, if_true]
    refine List.mem_filter.mpr ⟨List.mem_map_of_mem hmem, ?_⟩
    rw [below_name, isWorkflowName_iff.mpr hends, hfile, Bool.and_self]

theorem pairwise_workflowsIn (fs : FileSystem) (folder : Path) :
    (fs.workflowsIn folder).Pairwise fun path other => ¬Text.Before other.name path.name := by
  rw [workflowsIn]
  split
  · exact .nil
  · split
    · refine .filter _ (List.pairwise_map.mpr ?_)
      simp only [below_name]
      exact Text.pairwise_sort _
    · exact .nil

/-- The workflows in a folder, each once and in order of their names. -/
structure IsListing (fs : FileSystem) (folder : Path) (paths : List Path) : Prop where
  mem_iff : ∀ path, path ∈ paths ↔
    ∃ name, path = folder.below [name] ∧ EndsAsWorkflow name ∧ fs.isFile path = true
  sorted : paths.Pairwise fun path other => Text.Before path.name other.name

/-- A folder has one listing. -/
theorem IsListing.unique {paths' : List Path} (h : fs.IsListing folder paths)
    (h' : fs.IsListing folder paths') : paths = paths' := by
  have : Std.Irrefl fun path other : Path => Text.Before path.name other.name :=
    ⟨fun _ hbefore => hbefore.asymm hbefore⟩
  have : Std.Antisymm fun path other : Path => Text.Before path.name other.name :=
    ⟨fun _ _ hbefore hafter => absurd hafter hbefore.asymm⟩
  exact h.sorted.eq_of_mem_iff h'.sorted fun path => (h.mem_iff path).trans (h'.mem_iff path).symm

/-! ### Leaving out repetitions -/

theorem isListing_eraseDups (fs : FileSystem) (folder : Path) :
    fs.IsListing folder (fs.workflowsIn folder).eraseDups := by
  refine ⟨fun path => List.mem_eraseDups.trans mem_workflowsIn, ?_⟩
  have hordered := (pairwise_workflowsIn fs folder).sublist (eraseDups_sublist _)
  refine (hordered.and (nodup_eraseDups _)).imp_of_mem fun {path other} hpath hother h => ?_
  obtain ⟨first, rfl, -⟩ := mem_workflowsIn.mp (List.mem_eraseDups.mp hpath)
  obtain ⟨second, rfl, -⟩ := mem_workflowsIn.mp (List.mem_eraseDups.mp hother)
  rw [below_name, below_name] at h ⊢
  refine .of_ne (fun heq => h.2 ?_) h.1
  rw [heq]

/-- A path may be left out if the place that it leads to has been seen. -/
theorem keepFirst_filter_append (hseen : ∀ place, fs.walk .followed path = .ok place → place ∈ seen)
    (rest back : List Path) :
    fs.keepFirst seen ((rest.filter fun other => !other == path) ++ back) =
      fs.keepFirst seen (rest ++ back) := by
  induction rest generalizing seen with
  | nil => rfl
  | cons first rest ih =>
    by_cases hsame : first = path
    · subst hsame
      rw [List.filter_cons_of_neg (by simp), ih hseen, List.cons_append, keepFirst_cons]
      cases hwalk : fs.walk .followed first with
      | error fault => rfl
      | ok place => exact (if_pos (hseen place hwalk)).symm
    · rw [List.filter_cons_of_pos (by simpa using hsame), List.cons_append, List.cons_append,
        keepFirst_cons, keepFirst_cons, ih hseen]
      cases hwalk : fs.walk .followed first with
      | error fault => rfl
      | ok place =>
        simp only
        rw [ih fun goal hgoal => List.mem_cons_of_mem _ (hseen goal hgoal)]

theorem keepFirst_eraseDups_append (seen : List Place) (paths back : List Path) :
    fs.keepFirst seen (paths.eraseDups ++ back) = fs.keepFirst seen (paths ++ back) := by
  induction paths using eraseDups_induction generalizing seen with
  | nil => rfl
  | cons path rest ih =>
    have hrest {seen : List Place}
        (hseen : ∀ place, fs.walk .followed path = .ok place → place ∈ seen) :
        fs.keepFirst seen ((rest.filter fun other => !other == path).eraseDups ++ back) =
          fs.keepFirst seen (rest ++ back) :=
      (ih seen).trans (keepFirst_filter_append hseen rest back)
    rw [List.eraseDups_cons, List.cons_append, List.cons_append, keepFirst_cons, keepFirst_cons]
    cases hwalk : fs.walk .followed path with
    | error fault => exact hrest fun place hplace => by simp [hwalk] at hplace
    | ok place =>
      have hmem {seen : List Place} (hseen : place ∈ seen) :
          ∀ goal, fs.walk .followed path = .ok goal → goal ∈ seen := by
        intro goal hgoal
        rw [hwalk] at hgoal
        cases hgoal
        exact hseen
      simp only
      split
      · rename_i hseen
        exact hrest (hmem hseen)
      · rw [hrest (hmem (List.mem_cons_self ..))]

theorem keepFirst_append_congr {back back' : List Path}
    (h : ∀ seen, fs.keepFirst seen back = fs.keepFirst seen back') (seen : List Place)
    (front : List Path) :
    fs.keepFirst seen (front ++ back) = fs.keepFirst seen (front ++ back') := by
  induction front generalizing seen with
  | nil => exact h seen
  | cons path rest ih =>
    rw [List.cons_append, List.cons_append, keepFirst_cons, keepFirst_cons, ih]
    cases fs.walk .followed path with
    | error fault => rfl
    | ok place =>
      simp only
      rw [ih]

/-! ### The first path to each file -/

/-- Whether a path is resolved to another place than all paths before its position. -/
def isFirst (fs : FileSystem) (paths : List Path) (entry : Path × Nat) : Bool :=
  (paths.take entry.2).all fun other => fs.resolve other ≠ fs.resolve entry.1

/-- The paths that are resolved to another place than all paths before them. -/
def firsts (fs : FileSystem) (paths : List Path) : List Path :=
  (paths.zipIdx.filter (fs.isFirst paths)).map Prod.fst

/-- A path leads to the place that it is resolved to. -/
def IsResolved (fs : FileSystem) (path : Path) : Prop :=
  ∃ place, fs.walk .followed path = .ok place ∧ fs.resolve path = .ok place

/-- Behind a front part whose places have been seen, the paths are kept that are the first to
    their place in the whole. -/
theorem keepFirst_eq_filter (front : List Path) (hresolved : ∀ path ∈ paths, fs.IsResolved path)
    (hseen : ∀ place, place ∈ seen ↔ ∃ path ∈ front, fs.resolve path = .ok place) :
    fs.keepFirst seen paths =
      ((paths.zipIdx front.length).filter (fs.isFirst (front ++ paths))).map Prod.fst := by
  induction paths generalizing front seen with
  | nil => rfl
  | cons path rest ih =>
    obtain ⟨place, hwalk, hresolve⟩ := hresolved path (List.mem_cons_self ..)
    have hrest : ∀ other ∈ rest, fs.IsResolved other :=
      fun other hother => hresolved other (List.mem_cons_of_mem _ hother)
    -- at the position of the path, the paths before it are those in front
    have hfirst : fs.isFirst (front ++ path :: rest) (path, front.length) = true ↔
        place ∉ seen := by
      rw [isFirst, List.take_left, List.all_eq_true, hseen, hresolve]
      simp
    have hfront (goal : Place) : (∃ other ∈ front ++ [path], fs.resolve other = .ok goal) ↔
        goal ∈ seen ∨ goal = place := by
      rw [hseen]
      simp [or_and_right, exists_or, hresolve, eq_comm]
    have hsplit : front ++ path :: rest = (front ++ [path]) ++ rest := by simp
    have hlength : front.length + 1 = (front ++ [path]).length := by simp
    rw [keepFirst_cons, hwalk, List.zipIdx_cons]
    simp only
    by_cases hmem : place ∈ seen
    · rw [if_pos hmem, List.filter_cons_of_neg (fun h => hfirst.mp h hmem), hsplit, hlength]
      refine ih _ hrest fun goal => ?_
      rw [hfront]
      exact ⟨Or.inl, fun h => h.elim id fun heq => heq ▸ hmem⟩
    · rw [if_neg hmem, List.filter_cons_of_pos (hfirst.mpr hmem), List.map_cons, hsplit, hlength]
      refine congrArg (path :: ·) (ih _ hrest fun goal => ?_)
      rw [hfront, List.mem_cons, or_comm]

theorem keepFirst_eq_firsts (hresolved : ∀ path ∈ paths, fs.IsResolved path) :
    fs.keepFirst [] paths = fs.firsts paths :=
  keepFirst_eq_filter [] hresolved (by simp)

/-- Where a path leads that has not been seen, a path that is kept leads. -/
theorem exists_mem_keepFirst (hmem : path ∈ paths) (hwalk : fs.walk .followed path = .ok place)
    (hnew : place ∉ seen) :
    ∃ other ∈ fs.keepFirst seen paths, fs.walk .followed other = .ok place := by
  induction paths generalizing seen with
  | nil => exact absurd hmem List.not_mem_nil
  | cons first rest ih =>
    -- unless the first path leads there itself, the place is still new behind it
    by_cases hfirst : fs.walk .followed first = .ok place
    · rw [keepFirst_cons, hfirst]
      simp only [if_neg hnew]
      exact ⟨first, List.mem_cons_self .., hfirst⟩
    · have hrest : path ∈ rest := by
        rcases List.mem_cons.mp hmem with rfl | hrest
        · exact absurd hwalk hfirst
        · exact hrest
      rcases keepFirst_cases seen first rest with heq | ⟨goal, hgoal, -, heq⟩
      · rw [heq]
        exact ih hrest hnew
      · have hne : place ≠ goal := by
          rintro rfl
          exact hfirst hgoal
        have hnew' : place ∉ goal :: seen := List.not_mem_cons_of_ne_of_not_mem hne hnew
        obtain ⟨other, hother, hleads⟩ := ih hrest hnew'
        rw [heq]
        exact ⟨other, List.mem_cons_of_mem _ hother, hleads⟩

/-! ### Directories -/

theorem discover_directory_eq (hdirectory : fs.isDirectory target = true) :
    fs.discover target = fs.keepFirst [] (fs.candidates target) := by
  have hfile : fs.isFile target = false := by
    rw [isDirectory, beq_iff_eq] at hdirectory
    rw [isFile, hdirectory]
  rw [discover, hfile, if_neg Bool.false_ne_true, if_pos hdirectory]

/-- What a directory stands for can be read off the listings of its two folders. -/
theorem exists_isListing (fs : FileSystem) (target : Path) :
    ∃ front back, fs.IsListing (target.below workflowFolder) front ∧ fs.IsListing target back ∧
      fs.keepFirst [] (fs.candidates target) = fs.keepFirst [] (front ++ back) := by
  refine ⟨_, _, isListing_eraseDups _ _, isListing_eraseDups _ _, ?_⟩
  have hback (seen : List Place) :
      fs.keepFirst seen (fs.workflowsIn target).eraseDups =
        fs.keepFirst seen (fs.workflowsIn target) := by
    have h : fs.keepFirst seen ((fs.workflowsIn target).eraseDups ++ []) =
        fs.keepFirst seen (fs.workflowsIn target ++ []) :=
      keepFirst_eraseDups_append seen _ []
    rwa [List.append_nil, List.append_nil] at h
  rw [candidates, keepFirst_eraseDups_append, keepFirst_append_congr hback]

theorem IsListing.isFile (h : fs.IsListing folder paths) (hpath : path ∈ paths) :
    fs.isFile path = true := by
  obtain ⟨_, -, -, hfile⟩ := (h.mem_iff path).mp hpath
  exact hfile

end WorkflowLint.FileSystem
