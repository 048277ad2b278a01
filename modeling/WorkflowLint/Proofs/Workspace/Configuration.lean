/-
  WorkflowLint/Proofs/Workspace/Configuration.lean
  ================================================
  **The configuration among the workflows.**

  The files that may hold the configuration have names of workflows, so a directory stands for
  them too.  A workspace leaves out the file that its configuration was read from, and no other
  one for this reason: a file that could not be read, or was not read because an earlier one
  could be, is linted like any workflow (`candidate_discovered_iff`).  Which files can be read
  is up to the library that reads YAML, which may be any.
-/
import WorkflowLint.Proofs.Workspace.Discovery
import WorkflowLint.Yaml.Library

namespace WorkflowLint

variable {yaml : YamlLibrary} {fs : FileSystem}

/-! ### Which file is read -/

/-- A file that may hold the configuration is the one that was read, or could not be read, or
    comes after the one that was read. -/
theorem Config.loadFirst_cases {loader : yaml.Loader} {root : Path}
    {candidates : List (List Text)} {config : Config}
    (h : loadFirst yaml fs loader root candidates = .ok config) {names : List Text}
    (hmem : names ∈ candidates) (hfile : fs.isFile (root.below names) = true) :
    config.source = some names ∨ names ∈ config.unreadable ∨
      ∃ other, config.source = some other ∧ [other, names].Sublist candidates := by
  induction candidates generalizing loader config with
  | nil => exact absurd hmem List.not_mem_nil
  | cons first rest ih =>
    -- whether the first file is missing or unreadable, what is read is found behind it
    have hlater {loader : yaml.Loader} {config : Config}
        (h : loadFirst yaml fs loader root rest = .ok config) (hrest : names ∈ rest) :
        config.source = some names ∨ names ∈ config.unreadable ∨
          ∃ other, config.source = some other ∧ [other, names].Sublist (first :: rest) := by
      rcases ih h hrest with hsource | hunreadable | ⟨other, hsource, hsublist⟩
      · exact Or.inl hsource
      · exact Or.inr (Or.inl hunreadable)
      · exact Or.inr (Or.inr ⟨other, hsource, hsublist.cons first⟩)
    rw [loadFirst] at h
    split at h
    · split at h
      · cases h
      · cases h
        rcases List.mem_cons.mp hmem with rfl | hrest
        · exact Or.inl rfl
        · exact Or.inr (Or.inr ⟨first, rfl, (List.singleton_sublist.mpr hrest).cons_cons first⟩)
      · rename_i next _
        cases hnext : loadFirst yaml fs next root rest with
        | error error =>
          rw [hnext] at h
          cases h
        | ok later =>
          rw [hnext] at h
          cases h
          rcases List.mem_cons.mp hmem with rfl | hrest
          · exact Or.inr (Or.inl (List.mem_cons_self ..))
          · exact (hlater hnext hrest).imp_right (Or.imp_left (List.mem_cons_of_mem _))
    · rename_i hnot
      rcases List.mem_cons.mp hmem with rfl | hrest
      · exact absurd hfile hnot
      · exact hlater h hrest

namespace Workspace

variable {workspace : Workspace} {path target found : Path} {strict : Option Bool}
  {configuration : Option Place} {paths kept : List Path} {names : List Text} {place : Place}

theorem config_of_load (h : load yaml fs path strict = .ok workspace) :
    Config.load yaml fs workspace.root.toPath toolName = .ok workspace.config := by
  rw [load] at h
  split at h
  · cases h
  · split at h
    · cases h
    · rename_i hconfig
      cases h
      exact hconfig

/-! ### Which files are linted -/

/-- A file is not ignored. -/
def Heeds (workspace : Workspace) (fs : FileSystem) (path : Path) : Prop :=
  ∃ display, workspace.displayPath fs path = .ok display ∧
    workspace.config.ignoresFile display = .ok false

theorem admitsName_iff : admits.admitsName workspace fs found = .ok true ↔
    workspace.Heeds fs found := by
  rw [admits.admitsName, Heeds]
  cases workspace.displayPath fs found with
  | error error => simp
  | ok display =>
    cases hignored : workspace.config.ignoresFile display with
    | error fault => simp [hignored]
    | ok ignored => simp [hignored]

theorem admits_iff (hplace : fs.resolve found = .ok place) :
    workspace.admits fs configuration found = .ok true ↔
      configuration ≠ some place ∧ workspace.Heeds fs found := by
  rw [admits, hplace]
  simp only
  split
  · rename_i hsame
    simp [hsame]
  · rename_i hother
    rw [admitsName_iff]
    exact (and_iff_right hother).symm

theorem mem_admitted (h : workspace.admitted fs configuration paths = .ok kept) :
    found ∈ kept ↔ found ∈ paths ∧ workspace.admits fs configuration found = .ok true := by
  induction paths generalizing kept with
  | nil =>
    cases h
    simp
  | cons first rest ih =>
    rw [admitted] at h
    split at h
    · cases h
    · rename_i keep hkeep
      split at h
      · cases h
      · rename_i others hothers
        cases h
        have hfirst : found = first →
            (workspace.admits fs configuration found = .ok true ↔ keep = true) := by
          rintro rfl
          rw [hkeep, Except.ok.injEq]
        rw [List.mem_cons, or_and_right, and_congr_right hfirst, ← ih hothers]
        cases keep with
        | true => simp
        | false => simp

/-- What is linted in a directory is what the directory stands for without the file that the
    configuration was read from and the files that are ignored. -/
theorem mem_discover (h : workspace.discover fs target = .ok paths)
    (hplace : fs.resolve found = .ok place) : found ∈ paths ↔
      found ∈ fs.discover target ∧ workspace.configPlace fs ≠ .ok (some place) ∧
        workspace.Heeds fs found := by
  rw [discover] at h
  split at h
  · cases h
  · rename_i configuration hconfiguration
    rw [mem_admitted h, admits_iff hplace, hconfiguration, ne_eq, ne_eq, Except.ok.injEq]

/-- A file that may hold the configuration is not linted if the configuration was read from it.
    Otherwise it is linted like any other file that a directory stands for, which happens to a
    file that could not be read, and to one after the file that was read. -/
theorem candidate_discovered_iff (hload : load yaml fs path strict = .ok workspace)
    (hdiscover : workspace.discover fs target = .ok paths)
    (hnames : names ∈ Config.candidates toolName)
    (hplace : fs.resolve (workspace.root.toPath.below names) = .ok place) :
    (workspace.config.source = some names → ∀ found ∈ paths, fs.resolve found ≠ .ok place) ∧
    ((∃ found ∈ paths, fs.resolve found = .ok place) ↔
      workspace.configPlace fs ≠ .ok (some place) ∧
        ∃ found ∈ fs.discover target, fs.resolve found = .ok place ∧ workspace.Heeds fs found) ∧
    (fs.isFile (workspace.root.toPath.below names) = true →
      workspace.config.source = some names ∨ names ∈ workspace.config.unreadable ∨
        ∃ other, workspace.config.source = some other ∧
          [other, names].Sublist (Config.candidates toolName)) := by
  refine ⟨fun hsource found hfound hresolve => ?_, ?_,
    Config.loadFirst_cases (config_of_load hload) hnames⟩
  · obtain ⟨-, hother, -⟩ := (mem_discover hdiscover hresolve).mp hfound
    apply hother
    rw [configPlace, hsource]
    simp only [hplace]
  · constructor
    · rintro ⟨found, hfound, hresolve⟩
      obtain ⟨hmem, hother, hheeds⟩ := (mem_discover hdiscover hresolve).mp hfound
      exact ⟨hother, found, hmem, hresolve, hheeds⟩
    · rintro ⟨hother, found, hmem, hresolve, hheeds⟩
      exact ⟨found, (mem_discover hdiscover hresolve).mpr ⟨hmem, hother, hheeds⟩, hresolve⟩

/-- The current directory with a workflow and files that may hold the configuration. -/
def withWorkflow (items : List (Place × Item)) : FileSystem :=
  ⟨(["ci.yml"], .file (Utf8.encode "on: push\n")) :: items, []⟩

/-- The configuration is read, and the workflow is the only file that is linted. -/
theorem candidate_discovered_iff_read :
    let fs := withWorkflow [([".pipelint.yaml"], .file [])]
    ∃ workspace, load Yaml.library fs (Path.ofText ".") none = .ok workspace ∧
      workspace.discover fs (Path.ofText ".") = .ok [Path.ofText "ci.yml"] ∧
      ∀ found ∈ [Path.ofText "ci.yml"], fs.resolve found ≠ .ok [".pipelint.yaml"] := by
  intro fs
  have hload : load Yaml.library fs (Path.ofText ".") none =
      .ok ⟨[], ⟨false, .patterns [], some [".pipelint.yaml"], []⟩, false⟩ := by
    decide +kernel
  have hdiscover : discover ⟨[], ⟨false, .patterns [], some [".pipelint.yaml"], []⟩, false⟩ fs
      (Path.ofText ".") = .ok [Path.ofText "ci.yml"] := by
    decide +kernel
  have hnames : [".pipelint.yaml".toList] ∈ Config.candidates toolName := by decide
  have hplace : fs.resolve (Path.mk .root [".pipelint.yaml"]) = .ok [".pipelint.yaml"] := by
    decide +kernel
  obtain ⟨hnot, -⟩ := candidate_discovered_iff hload hdiscover hnames hplace
  exact ⟨_, hload, hdiscover, hnot rfl⟩

/-- A configuration that cannot be read is linted, and so is a second one. -/
theorem discover_candidate :
    (let fs := withWorkflow [([".pipelint.yaml"], .file (Utf8.encode "rules: ["))]
     ∃ workspace, load Yaml.library fs (Path.ofText ".") none = .ok workspace ∧
      workspace.discover fs (Path.ofText ".") =
        .ok [Path.ofText ".pipelint.yaml", Path.ofText "ci.yml"] ∧
      fs.resolve (Path.ofText ".pipelint.yaml") =
        fs.resolve (workspace.root.toPath.below [".pipelint.yaml"])) ∧
    (let fs := withWorkflow [([".pipelint"], .directory),
      ([".pipelint", "config.yaml"], .file []), ([".pipelint.yaml"], .file [])]
     ∃ workspace, load Yaml.library fs (Path.ofText ".") none = .ok workspace ∧
      workspace.discover fs (Path.ofText ".") =
        .ok [Path.ofText ".pipelint.yaml", Path.ofText "ci.yml"] ∧
      fs.resolve (Path.ofText ".pipelint.yaml") =
        fs.resolve (workspace.root.toPath.below [".pipelint.yaml"])) := by
  constructor
  · exact ⟨⟨[], ⟨false, .patterns [], none, [[".pipelint.yaml"]]⟩, false⟩,
      by decide +kernel, by decide +kernel, by decide +kernel⟩
  · exact ⟨⟨[], ⟨false, .patterns [], some [".pipelint", "config.yaml"], []⟩, false⟩,
      by decide +kernel, by decide +kernel, by decide +kernel⟩

end Workspace

end WorkflowLint
