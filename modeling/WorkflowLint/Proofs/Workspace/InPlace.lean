/-
  WorkflowLint/Proofs/Workspace/InPlace.lean
  ==========================================
  **Where a fix is stored.**

  A report names the file that its path leads to, links being followed, but the fixed text
  takes the place of the last name of the path.  These are one file exactly if the last name
  is no link (`lintFile_inPlace`); a link is lost, and the file that it led to stays as it is
  (`lintFile_link`).
-/
import WorkflowLint.Proofs.FileSystem.Naming
import WorkflowLint.Proofs.Workspace.Rerun

namespace WorkflowLint

variable {fs fs' : FileSystem} {path : Path} {text : Text}

namespace FileSystem

/-- A path whose last name stands for a link. -/
def IsLink (fs : FileSystem) (path : Path) : Prop :=
  ∃ place target, fs.walk .kept path = .ok place ∧ fs.item? place = some (.link target)

theorem exists_of_readOctets {octets : Octets} (h : fs.readOctets path = .ok octets) :
    ∃ goal, fs.walk .followed path = .ok goal ∧ fs.item? goal = some (.file octets) := by
  rw [readOctets] at h
  split at h
  · cases h
  · rename_i goal hwalk
    split at h
    · rename_i content hitem
      cases h
      exact ⟨goal, hwalk, hitem⟩
    · cases h
    · cases h

/-- A path that is no link leads to the item under its last name. -/
theorem Holds.isLink_iff {directory goal : Place} (h : Holds fs directory path)
    (hnull : path.hasNull = false) (hname : IsName path.name) {octets : Octets}
    (hwalk : fs.walk .followed path = .ok goal) (hfile : fs.item? goal = some (.file octets)) :
    fs.IsLink path ↔ directory ++ [path.name] ≠ goal := by
  cases hitem : fs.item? (directory ++ [path.name]) with
  | none =>
    rw [h.walk_absent hnull rfl hname hitem] at hwalk
    cases hwalk
  | some item =>
    have hkept := h.walk_item hnull rfl hname hitem (Or.inl rfl)
    constructor
    · rintro ⟨place, target, hplace, hlink⟩ rfl
      rw [hkept] at hplace
      cases hplace
      rw [hfile] at hlink
      cases hlink
    · intro hne
      cases item with
      | link target => exact ⟨_, target, hkept, hitem⟩
      | file | directory =>
        rw [h.walk_item hnull rfl hname hitem (Or.inr (by simp))] at hwalk
        cases hwalk
        exact absurd rfl hne

/-- After a replacement the path leads to its last name, wherever it led before. -/
theorem exists_walk_of_replaceText (hgrounded : fs.Grounded) (hlink : fs.DraftIsNoLink path)
    {octets : Octets} {goal : Place} (hwalk : fs.walk .followed path = .ok goal)
    (hfile : fs.item? goal = some (.file octets))
    (h : fs.replaceText path text = (.ok (), fs')) :
    ∃ seat, fs'.walk .followed path = .ok seat ∧
      fs'.item? seat = some (.file (Utf8.encode text)) ∧ (fs.IsLink path ↔ seat ≠ goal) ∧
      fs'.current = fs.current ∧ fs'.Grounded := by
  have hread : fs.readOctets path = .ok octets := by
    rw [readOctets, hwalk]
    simp only [hfile]
  have hreplacement := replacement_replaceText hlink text
  rw [h] at hreplacement
  cases hreplacement with
  | @done directory hholds hnull hname hdraft htarget =>
    have hblocks := hholds.blocks_of_readOctets hname hread
    have hagree := replaced_agrees hdraft.blocks hblocks (Utf8.encode text)
    have hitem : (fs.replaced (directory ++ [draftName path]) (directory ++ [path.name])
        (Utf8.encode text)).item? (directory ++ [path.name]) =
          some (.file (Utf8.encode text)) := by
      rw [item?_replaced, if_pos rfl]
    refine ⟨directory ++ [path.name], ?_, hitem, hholds.isLink_iff hnull hname hwalk hfile, rfl,
      hgrounded.of_blocks hagree rfl⟩
    exact (hholds.of_blocks hagree rfl).walk_item hnull rfl hname hitem (Or.inr (by simp))

end FileSystem

namespace Workspace

variable {workspace : Workspace} {report : Report} {goal : Place}

/-- Where the path in a report leads from the workspace. -/
def denoted (workspace : Workspace) (fs : FileSystem) (report : Report) :
    Except WalkFault Place :=
  (fs.seenFrom workspace.root).walk .followed (Path.ofText report.file)

/-- A fixed text is in its place: the path leads to the same file as before, the file holds
    the text, and the report names it. -/
structure InPlace (workspace : Workspace) (fs : FileSystem) (path : Path) (goal : Place)
    (report : Report) (text : Text) : Prop where
  leads : fs.walk .followed path = .ok goal
  holds : fs.item? goal = some (.file (Utf8.encode text))
  denotes : workspace.denoted fs report = .ok goal

theorem displayPath_of_lintStored (h : workspace.lintStored fs path = .ok (text, report)) :
    workspace.displayPath fs path = .ok report.file := by
  rw [lintStored] at h
  split at h
  · cases h
  · rename_i display hdisplay
    split at h
    · cases h
    · split at h
      · cases h
      · rename_i found hfound
        cases h
        rw [(file_and_fixed_of_lintText hfound).1]
        exact hdisplay

section

variable {given : Text} (hgrounded : fs.Grounded) (hnamed : fs.Named)

include hgrounded hnamed

/-- A report names a file below the workspace, and elsewhere what its path leads to from the
    workspace. -/
theorem denoted_iff (hwalk : fs.walk .followed (Path.ofText given) = .ok goal)
    (hdisplay : workspace.displayPath fs (Path.ofText given) = .ok report.file)
    (hgrounded' : fs'.Grounded) (hwalk' : fs'.walk .followed (Path.ofText given) = .ok goal) :
    workspace.denoted fs' report = .ok goal ↔
      workspace.root <+: goal ∨
        (fs'.seenFrom workspace.root).walk .followed (Path.ofText given) = .ok goal := by
  obtain ⟨-, _, -, hleads⟩ := FileSystem.walk_followed_iff.mp hwalk
  obtain ⟨-, _, -, hleads'⟩ := FileSystem.walk_followed_iff.mp hwalk'
  have hstands := hleads.stands (hgrounded.stands_start _)
  have hstands' := hleads'.stands (hgrounded'.stands_start _)
  rw [displayPath, FileSystem.resolve_of_walk hgrounded hwalk] at hdisplay
  simp only [FileSystem.relative?] at hdisplay
  rw [denoted]
  by_cases hbelow : workspace.root <+: goal
  · rw [if_pos (List.isPrefixOf_iff_prefix.mpr hbelow)] at hdisplay
    obtain ⟨names, rfl⟩ := hbelow
    refine iff_of_true ?_ (Or.inl (List.prefix_append _ _))
    rw [← Except.ok.inj hdisplay, List.drop_left]
    exact hstands'.walk_toText fun part hpart =>
      hstands.isPart hnamed part (List.mem_append_right _ hpart)
  · rw [if_neg (mt List.isPrefixOf_iff_prefix.mp hbelow)] at hdisplay
    rw [← Except.ok.inj hdisplay,
      Path.ofText_toText fun part hpart => Path.isPart_of_mem_ofText hpart, or_iff_right hbelow]

/-- A file that is fixed is replaced where its path leads, and named by the report, exactly if
    the last name of the path is no link.  What is not below the workspace has to be where the
    path leads from there. -/
theorem lintFile_inPlace (hdraft : fs.DraftIsNoLink (Path.ofText given))
    (h : workspace.lintFile fs (Path.ofText given) true = (.ok report, fs'))
    (hfixed : report.fixed = true) :
    ∃ text found goal, fs.readText (Path.ofText given) = .ok text ∧
      workspace.lintText text report.file false = .ok found ∧
      fs.walk .followed (Path.ofText given) = .ok goal ∧
      (workspace.InPlace fs' (Path.ofText given) goal report (Fix.apply text found.diagnostics) ↔
        ¬fs.IsLink (Path.ofText given) ∧ (workspace.root <+: goal ∨
          (fs'.seenFrom workspace.root).walk .followed (Path.ofText given) = .ok goal)) ∧
      (workspace.root = fs.current →
        (workspace.InPlace fs' (Path.ofText given) goal report
            (Fix.apply text found.diagnostics) ↔
          ¬fs.IsLink (Path.ofText given))) := by
  have hrun := fileRun_lintFile workspace fs (Path.ofText given) true
  rw [h] at hrun
  cases hrun with
  | kept hstored hfixable =>
    obtain ⟨_, -, hlint⟩ := exists_of_lintStored hstored
    rw [(file_and_fixed_of_lintText hlint).2] at hfixed
    cases hfixed
  | @replaced text found _ _ hstored _ _ hreplaced hlint =>
    obtain ⟨display, hread, hfound⟩ := exists_of_lintStored hstored
    obtain ⟨octets, hoctets, -⟩ := FileSystem.exists_of_readText hread
    obtain ⟨goal, hwalk, hfile⟩ := FileSystem.exists_of_readOctets hoctets
    obtain ⟨seat, hseat, hitem, hisLink, hcurrent, hgrounded'⟩ :=
      FileSystem.exists_walk_of_replaceText hgrounded hdraft hwalk hfile hreplaced
    have hdisplay := displayPath_of_lintStored hstored
    have hsame : report.file = found.file := (file_and_fixed_of_lintText hlint).1
    rw [← hsame] at hdisplay
    rw [← (file_and_fixed_of_lintText hfound).1, ← hsame] at hfound
    have hiff : workspace.InPlace fs' (Path.ofText given) goal report
        (Fix.apply text found.diagnostics) ↔
          ¬fs.IsLink (Path.ofText given) ∧ (workspace.root <+: goal ∨
            (fs'.seenFrom workspace.root).walk .followed (Path.ofText given) = .ok goal) := by
      rw [hisLink, ne_eq, Decidable.not_not]
      constructor
      · rintro ⟨hleads, -, hdenotes⟩
        rw [hseat] at hleads
        cases hleads
        exact ⟨rfl, (denoted_iff hgrounded hnamed hwalk hdisplay hgrounded' hseat).mp hdenotes⟩
      · rintro ⟨rfl, hnear⟩
        exact ⟨hseat, hitem,
          (denoted_iff hgrounded hnamed hwalk hdisplay hgrounded' hseat).mpr hnear⟩
    refine ⟨text, found, goal, hread, hfound, hwalk, hiff, fun hroot => ?_⟩
    rw [hiff, and_iff_left_of_imp]
    intro hnot
    have hgoal : seat = goal := Decidable.not_not.mp (mt hisLink.mpr hnot)
    have hview : fs'.seenFrom workspace.root = fs' := by
      rw [hroot, ← hcurrent]
      rfl
    rw [hview, hseat, hgoal]
    exact Or.inr rfl

end

/-- The report about a text that has a name and nothing else, after its end was fixed. -/
def nameOnly (file : Text) : Report :=
  .ofDiagnostics file
    [StructureRule.missingTrigger.finding .error "Missing required 'on' trigger" none,
    StructureRule.missingJobs.finding .error "Missing required 'jobs' section" none] true

/-- A file that is reached through a link to its directory is fixed in its place. -/
theorem lintFile_inPlace_directoryLink :
    let workspace : Workspace := ⟨["w"], Config.default, true⟩
    let fs : FileSystem :=
      ⟨[(["w"], .directory), (["w", "sub"], .directory),
        (["w", "sub", "ci.yml"], .file (Utf8.encode "name: x \n")),
        (["w", "link"], .link "sub")], ["w"]⟩
    ∃ report fs', workspace.lintFile fs (Path.ofText "link/ci.yml") true = (.ok report, fs') ∧
      report.fixed = true ∧ report.file = "sub/ci.yml" ∧ ∃ text found goal,
        fs.readText (Path.ofText "link/ci.yml") = .ok text ∧
        workspace.lintText text report.file false = .ok found ∧
        fs.walk .followed (Path.ofText "link/ci.yml") = .ok goal ∧
        workspace.InPlace fs' (Path.ofText "link/ci.yml") goal report
          (Fix.apply text found.diagnostics) := by
  intro workspace fs
  have hgrounded : fs.Grounded := by
    constructor
    · decide
    · intro place hplace
      simp only [fs, List.prefix_cons_iff, List.prefix_nil] at hplace
      rcases hplace with rfl | ⟨_, rfl, rfl⟩ <;> rfl
  have hnamed : fs.Named := by
    rw [FileSystem.Named]
    decide
  have hdraft : fs.DraftIsNoLink (Path.ofText "link/ci.yml") := by
    intro place hwalk
    have habsent : fs.walk .kept (FileSystem.draftOf (Path.ofText "link/ci.yml")) =
        .error (.absent ["w", "sub", "ci.yml.pipelint.tmp"]) := by decide +kernel
    rw [habsent] at hwalk
    cases hwalk
  have hfile : workspace.lintFile fs (Path.ofText "link/ci.yml") true =
      (.ok (nameOnly "sub/ci.yml"),
        ⟨[(["w", "sub", "ci.yml"], .file (Utf8.encode "name: x\n")), (["w"], .directory),
          (["w", "sub"], .directory), (["w", "link"], .link "sub")], ["w"]⟩) := by
    decide +kernel
  have hnot : ¬fs.IsLink (Path.ofText "link/ci.yml") := by
    rintro ⟨place, target, hwalk, hitem⟩
    have hkept : fs.walk .kept (Path.ofText "link/ci.yml") = .ok ["w", "sub", "ci.yml"] := by
      decide +kernel
    rw [hkept] at hwalk
    cases hwalk
    cases hitem
  obtain ⟨text, found, goal, hread, hlint, hwalk, -, hinPlace⟩ :=
    lintFile_inPlace hgrounded hnamed hdraft hfile rfl
  exact ⟨_, _, hfile, rfl, rfl, text, found, goal, hread, hlint, hwalk, (hinPlace rfl).mpr hnot⟩

/-- A link to a file is replaced by the fixed text, while the report names the file that it led
    to, which stays as it is. -/
theorem lintFile_link :
    let workspace : Workspace := ⟨["w"], Config.default, true⟩
    let fs : FileSystem :=
      ⟨[(["w"], .directory), (["w", "real.yml"], .file (Utf8.encode "name: x \n")),
        (["w", "ci.yml"], .link "real.yml")], ["w"]⟩
    ∃ report fs', workspace.lintFile fs (Path.ofText "ci.yml") true = (.ok report, fs') ∧
      report.fixed = true ∧ workspace.denoted fs' report = .ok ["w", "real.yml"] ∧
      fs'.item? ["w", "real.yml"] = some (.file (Utf8.encode "name: x \n")) ∧
      fs'.walk .followed (Path.ofText "ci.yml") = .ok ["w", "ci.yml"] ∧
      fs'.item? ["w", "ci.yml"] = some (.file (Utf8.encode "name: x\n")) := by
  intro workspace fs
  have hfile : workspace.lintFile fs (Path.ofText "ci.yml") true =
      (.ok (nameOnly "real.yml"),
        ⟨[(["w", "ci.yml"], .file (Utf8.encode "name: x\n")), (["w"], .directory),
          (["w", "real.yml"], .file (Utf8.encode "name: x \n"))], ["w"]⟩) := by
    decide +kernel
  exact ⟨_, _, hfile, rfl, rfl, rfl, rfl, rfl⟩

end Workspace

end WorkflowLint
