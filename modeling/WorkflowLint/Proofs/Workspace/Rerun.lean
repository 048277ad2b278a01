/-
  WorkflowLint/Proofs/Workspace/Rerun.lean
  ========================================
  **Fixing a file twice.**

  Once a file has been linted and fixed, doing so again changes nothing and gives the same
  findings, none of which can be fixed (`lintFile_again`).  Three things come together here:
  the text that was stored is the text that is read, the path still leads to it, and one pass
  leaves nothing to fix, whichever rules are ignored.
-/
import WorkflowLint.Proofs.FileSystem.Replace
import WorkflowLint.Proofs.Workspace.LintFile

namespace WorkflowLint

variable {fs fs' : FileSystem} {path : Path} {text : Text} {octets : Octets}

namespace FileSystem

/-- Where a file could be read, its new text can be read after it was replaced. -/
theorem readOctets_of_replaceText (hlink : fs.DraftIsNoLink path)
    (hread : fs.readOctets path = .ok octets) {text : Text}
    (h : fs.replaceText path text = (.ok (), fs')) :
    fs'.readOctets path = .ok (Utf8.encode text) ∧ (fs.Grounded → fs'.Grounded) := by
  have hreplacement := replacement_replaceText hlink text
  rw [h] at hreplacement
  cases hreplacement with
  | done hholds hnull hname hdraft htarget =>
    have hblocks := hholds.blocks_of_readOctets hname hread
    refine ⟨hholds.readOctets_replaced hnull hname hdraft.blocks hblocks _, fun hgrounded => ?_⟩
    exact hgrounded.of_blocks (replaced_agrees hdraft.blocks hblocks _) rfl

end FileSystem

namespace Workspace

variable {workspace : Workspace} {report first : Report}

/-- What was stored after a fix is read and linted as it was linted then. -/
theorem lintStored_of_replaceText (hgrounded : fs.Grounded) (hlink : fs.DraftIsNoLink path)
    (hmark : text.head? ≠ some '\uFEFF') {display : Text} {fixed : Bool} {found : Report}
    (hread : fs.readText path = .ok text)
    (hfound : workspace.lintText text display fixed = .ok found)
    (hreplaced : fs.replaceText path (Fix.apply text found.diagnostics) = (.ok (), fs'))
    {display' : Text} {fixed' : Bool}
    (hlint : workspace.lintText (Fix.apply text found.diagnostics) display' fixed' = .ok first) :
    ∃ second, workspace.lintStored fs' path =
        .ok (Fix.apply text found.diagnostics, second) ∧
      second.fixed = false ∧ second.diagnostics = first.diagnostics := by
  obtain ⟨octets, hoctets, hreturn⟩ := FileSystem.exists_of_readText hread
  obtain ⟨hstored, hgrounded'⟩ := FileSystem.readOctets_of_replaceText hlink hoctets hreplaced
  have hread' : fs'.readText path = .ok (Fix.apply text found.diagnostics) := by
    apply FileSystem.readText_of_readOctets hstored
    · intro hhead
      exact hmark (head?_apply hfound (by decide) ⟨rfl, by decide⟩ hhead)
    · exact not_mem_apply hfound (by decide) ⟨by decide, by decide⟩ hreturn
  obtain ⟨again, hagain⟩ := exists_displayPath workspace (hgrounded' hgrounded) hstored
  refine ⟨.ofDiagnostics again first.diagnostics false, ?_, rfl, rfl⟩
  rw [lintStored, hagain]
  simp only [hread']
  rw [lintText_congr hlint]

/-- Linting and fixing a file that has just been linted and fixed changes no file and reports
    the same findings, none of which can be fixed. -/
theorem lintFile_again (hgrounded : fs.Grounded) (hlink : fs.DraftIsNoLink path)
    (hmark : ∀ text, fs.readText path = .ok text → text.head? ≠ some '\uFEFF')
    (h : workspace.lintFile fs path true = (.ok first, fs')) :
    ∃ second, workspace.lintFile fs' path true = (.ok second, fs') ∧ second.fixed = false ∧
      second.diagnostics = first.diagnostics ∧
      ∀ diagnostic ∈ second.diagnostics, diagnostic.isFixable = false := by
  have hrun := fileRun_lintFile workspace fs path true
  rw [h] at hrun
  cases hrun with
  | kept hstored hfixable =>
    obtain ⟨display, -, hlint⟩ := exists_of_lintStored hstored
    obtain ⟨document, reported, -, -, rfl⟩ := exists_of_lintText hlint
    exact ⟨_, h, rfl, rfl, hfixable rfl⟩
  | replaced hstored hfix hne hreplaced hlint =>
    obtain ⟨display, hread, hfound⟩ := exists_of_lintStored hstored
    obtain ⟨second, hstored', hfixed, hsame⟩ := lintStored_of_replaceText hgrounded hlink
      (hmark _ hread) hread hfound hreplaced hlint
    have hfixable : ∀ diagnostic ∈ second.diagnostics, diagnostic.isFixable = false := by
      rw [hsame]
      exact not_isFixable_of_lintText_apply hfound hlint
    exact ⟨second, lintFile_of_not_isFixable hstored' hfixable true, hfixed, hsame, hfixable⟩

/-- A link to a file is replaced by a fixed file, which is then left alone. -/
theorem lintFile_again_link :
    let workspace : Workspace := ⟨["w"], Config.default, true⟩
    let fs : FileSystem :=
      ⟨[(["w"], .directory), (["w", "real.yml"], .file (Utf8.encode "name: x \r\n")),
        (["w", "ci.yml"], .link "real.yml")], ["w"]⟩
    let path := Path.ofText "ci.yml"
    ∃ first fs', workspace.lintFile fs path true = (.ok first, fs') ∧ first.fixed = true ∧
      ∃ second, workspace.lintFile fs' path true = (.ok second, fs') ∧ second.fixed = false ∧
        second.diagnostics = first.diagnostics ∧
        ∀ diagnostic ∈ second.diagnostics, diagnostic.isFixable = false := by
  intro workspace fs path
  have hfixed : (workspace.lintFile fs path true).1.toOption.any Report.fixed = true := by
    decide +kernel
  have hgrounded : fs.Grounded := by
    constructor
    · decide
    · intro place hplace
      simp only [fs, List.prefix_cons_iff, List.prefix_nil] at hplace
      rcases hplace with rfl | ⟨_, rfl, rfl⟩ <;> rfl
  have hlink : fs.DraftIsNoLink path := by
    intro place hwalk
    have habsent : fs.walk .kept (FileSystem.draftOf path) =
        .error (.absent ["w", "ci.yml.pipelint.tmp"]) := rfl
    rw [habsent] at hwalk
    cases hwalk
  have hmark : ∀ text, fs.readText path = .ok text → text.head? ≠ some '\uFEFF' := by
    intro text hread
    have hstored : fs.readText path = .ok "name: x \n" := rfl
    rw [hstored] at hread
    cases hread
    decide
  cases hresult : workspace.lintFile fs path true with
  | mk result fs' =>
    rw [hresult] at hfixed
    cases result with
    | error error => cases hfixed
    | ok first =>
      exact ⟨first, fs', rfl, hfixed, lintFile_again hgrounded hlink hmark hresult⟩

end Workspace

end WorkflowLint
