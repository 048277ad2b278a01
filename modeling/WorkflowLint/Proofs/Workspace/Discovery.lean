/-
  WorkflowLint/Proofs/Workspace/Discovery.lean
  ============================================
  **What is found are different files.**

  Of several paths to one file the first is kept, and ignoring files leaves some of the paths
  out, so the files that a workspace finds are separate (`exists_discover`).  They are found
  whenever the patterns of what is ignored can be written.
-/
import WorkflowLint.Proofs.Workspace.Separate

namespace WorkflowLint

variable {fs : FileSystem} {target : Path}

namespace FileSystem

/-! ### Files in folders -/

theorem exists_walk_of_isFile {path : Path} (h : fs.isFile path = true) :
    ∃ goal, fs.walk .followed path = .ok goal := by
  rw [isFile, target?] at h
  cases hwalk : fs.walk .followed path with
  | ok goal => exact ⟨goal, rfl⟩
  | error fault => simp [hwalk] at h

theorem isFile_of_mem_workflowsIn {folder path : Path} (h : path ∈ fs.workflowsIn folder) :
    fs.isFile path = true := by
  rw [workflowsIn] at h
  split at h
  · exact absurd h List.not_mem_nil
  · split at h
    · have hkept := (List.mem_filter.mp h).2
      rw [Bool.and_eq_true] at hkept
      exact hkept.2
    · exact absurd h List.not_mem_nil

theorem keepFirst_cons (seen : List Place) (path : Path) (rest : List Path) :
    fs.keepFirst seen (path :: rest) =
      match fs.walk .followed path with
      | .error _ => fs.keepFirst seen rest
      | .ok place =>
        if place ∈ seen then fs.keepFirst seen rest
        else path :: fs.keepFirst (place :: seen) rest := rfl

/-- A path is left out, or kept if it leads to a place that has not been seen yet. -/
theorem keepFirst_cases (seen : List Place) (path : Path) (rest : List Path) :
    fs.keepFirst seen (path :: rest) = fs.keepFirst seen rest ∨
      ∃ place, fs.walk .followed path = .ok place ∧ place ∉ seen ∧
        fs.keepFirst seen (path :: rest) = path :: fs.keepFirst (place :: seen) rest := by
  rw [keepFirst_cons]
  cases hwalk : fs.walk .followed path with
  | error fault => exact Or.inl rfl
  | ok place =>
    by_cases hseen : place ∈ seen
    · exact Or.inl (if_pos hseen)
    · exact Or.inr ⟨place, rfl, hseen, if_neg hseen⟩

theorem keepFirst_sublist (seen : List Place) (paths : List Path) :
    (fs.keepFirst seen paths).Sublist paths := by
  induction paths generalizing seen with
  | nil => exact .slnil
  | cons path rest ih =>
    rcases keepFirst_cases seen path rest with heq | ⟨place, -, -, heq⟩
    · rw [heq]
      exact (ih seen).cons path
    · rw [heq]
      exact (ih _).cons_cons path

theorem not_mem_of_mem_keepFirst {seen : List Place} {paths : List Path} {path : Path}
    (h : path ∈ fs.keepFirst seen paths) {goal : Place}
    (hwalk : fs.walk .followed path = .ok goal) : goal ∉ seen := by
  induction paths generalizing seen with
  | nil => exact absurd h List.not_mem_nil
  | cons first rest ih =>
    rcases keepFirst_cases seen first rest with heq | ⟨place, hplace, hnew, heq⟩
    · rw [heq] at h
      exact ih h
    · rw [heq] at h
      rcases List.mem_cons.mp h with rfl | hrest
      · rw [hwalk] at hplace
        cases hplace
        exact hnew
      · exact fun hmem => ih hrest (List.mem_cons_of_mem _ hmem)

/-- The paths that are kept lead to different places. -/
theorem pairwise_keepFirst (seen : List Place) (paths : List Path) :
    (fs.keepFirst seen paths).Pairwise fun path other =>
      fs.walk .followed path ≠ fs.walk .followed other := by
  induction paths generalizing seen with
  | nil => exact .nil
  | cons path rest ih =>
    rcases keepFirst_cases seen path rest with heq | ⟨place, hplace, -, heq⟩
    · rw [heq]
      exact ih seen
    · rw [heq]
      refine .cons (fun other hother hwalk => ?_) (ih _)
      rw [hplace] at hwalk
      exact not_mem_of_mem_keepFirst hother hwalk.symm (List.mem_cons_self ..)

/-- A path stands for different files. -/
theorem separate_discover (hgrounded : fs.Grounded) (target : Path) :
    Workspace.Separate fs (fs.discover target) := by
  have hfound : ∀ path ∈ fs.discover target, fs.isFile path = true := by
    intro path hpath
    rw [discover] at hpath
    split at hpath
    · rename_i hfile
      rw [List.mem_singleton.mp hpath]
      exact hfile
    · split at hpath
      · have hcandidate := (keepFirst_sublist _ _).subset hpath
        rcases List.mem_append.mp hcandidate with hmem | hmem
        · exact isFile_of_mem_workflowsIn hmem
        · exact isFile_of_mem_workflowsIn hmem
      · exact absurd hpath List.not_mem_nil
  refine ⟨fun path hpath => exists_found hgrounded (hfound path hpath), ?_⟩
  rw [discover]
  split
  · exact List.pairwise_singleton _ _
  · split
    · exact pairwise_keepFirst [] _
    · exact .nil

end FileSystem

/-! ### The configuration is found -/

theorem Config.isFile_of_loadFirst {yaml : YamlLibrary} {loader : yaml.Loader}
    {workspace : Path} {candidates : List (List Text)} {config : Config}
    (h : loadFirst yaml fs loader workspace candidates = .ok config) {names : List Text}
    (hsource : config.source = some names) : fs.isFile (workspace.below names) = true := by
  induction candidates generalizing loader config with
  | nil =>
    cases h
    cases hsource
  | cons first rest ih =>
    rw [loadFirst] at h
    split at h
    · rename_i hfile
      split at h
      · cases h
      · cases h
        cases hsource
        exact hfile
      · rename_i next _
        cases hrest : loadFirst yaml fs next workspace rest with
        | error error =>
          rw [hrest] at h
          cases h
        | ok later =>
          rw [hrest] at h
          cases h
          exact ih hrest hsource
    · exact ih h hsource

/-! ### What is found -/

namespace Workspace

theorem exists_anyAccepts_globs (patterns : List CodePoints) (texts : List Text) :
    ∃ ignored, Ignored.anyAccepts texts (patterns.map .glob) = .ok ignored := by
  induction patterns with
  | nil => exact ⟨false, rfl⟩
  | cons pattern rest ih =>
    rw [List.map_cons, Ignored.anyAccepts]
    split
    · exact ⟨true, rfl⟩
    · exact ih

variable {workspace : Workspace} {patterns : List CodePoints}
  (hpatterns : workspace.config.ignored = .patterns (patterns.map .glob))

include hpatterns

theorem exists_admits {path : Path} {directory goal : Place} {content : Octets}
    (hgrounded : fs.Grounded) (h : fs.Found path directory goal content)
    (configuration : Option Place) :
    ∃ keep, workspace.admits fs configuration path = .ok keep := by
  obtain ⟨display, hdisplay⟩ := exists_displayPath workspace hgrounded h.readOctets_eq
  have hname : ∃ keep, admits.admitsName workspace fs path = .ok keep := by
    obtain ⟨ignored, hignored⟩ :=
      exists_anyAccepts_globs patterns [display, (Path.ofText display).name]
    refine ⟨!ignored, ?_⟩
    rw [admits.admitsName, hdisplay]
    simp only [Config.ignoresFile, hpatterns, Ignored.accepts, hignored]
  rw [admits, FileSystem.resolve_of_walk hgrounded h.walk]
  simp only
  split
  · exact ⟨false, rfl⟩
  · exact hname

theorem exists_admitted (hgrounded : fs.Grounded) {paths : List Path}
    (hfound : ∀ path ∈ paths, ∃ directory goal content, fs.Found path directory goal content)
    (configuration : Option Place) :
    ∃ kept, workspace.admitted fs configuration paths = .ok kept ∧ kept.Sublist paths := by
  induction paths with
  | nil => exact ⟨[], rfl, .slnil⟩
  | cons path rest ih =>
    obtain ⟨_, _, _, h⟩ := hfound path (List.mem_cons_self ..)
    obtain ⟨keep, hkeep⟩ := exists_admits hpatterns hgrounded h configuration
    obtain ⟨others, hothers, hsublist⟩ :=
      ih fun other hother => hfound other (List.mem_cons_of_mem _ hother)
    rw [admitted, hkeep]
    simp only [hothers]
    cases keep with
    | false => exact ⟨others, rfl, hsublist.cons path⟩
    | true => exact ⟨path :: others, rfl, hsublist.cons_cons path⟩

/-- A workspace finds different files. -/
theorem exists_discover (hgrounded : fs.Grounded)
    (hsource : ∀ names, workspace.config.source = some names →
      fs.isFile (workspace.root.toPath.below names) = true) (target : Path) :
    ∃ paths, workspace.discover fs target = .ok paths ∧ Separate fs paths := by
  have hconfig : ∃ configuration, workspace.configPlace fs = .ok configuration := by
    rw [configPlace]
    cases hnames : workspace.config.source with
    | none => exact ⟨none, rfl⟩
    | some names =>
      obtain ⟨goal, hwalk⟩ := FileSystem.exists_walk_of_isFile (hsource names hnames)
      simp only [FileSystem.resolve_of_walk hgrounded hwalk]
      exact ⟨some goal, rfl⟩
  obtain ⟨configuration, hconfiguration⟩ := hconfig
  have hall := FileSystem.separate_discover hgrounded target
  obtain ⟨kept, hkept, hsublist⟩ :=
    exists_admitted hpatterns hgrounded hall.found configuration
  refine ⟨kept, ?_, fun path hpath => hall.found path (hsublist.subset hpath),
    hall.distinct.sublist hsublist⟩
  rw [discover, hconfiguration]
  exact hkept

end Workspace

end WorkflowLint
