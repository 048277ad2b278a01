/-
  WorkflowLint/Proofs/Workspace/Failure.lean
  ==========================================
  **What a failure leaves behind.**

  If linting a file fails, nothing has changed, with one exception (`lintFile_error`): the file
  has been replaced, and the text that was stored cannot be read any more.  This happens only
  to texts with a tab at the start of a line, because expanding it may turn lines of a block
  scalar into pairs, whose values are then read.
-/
import WorkflowLint.Proofs.FileSystem.Replace
import WorkflowLint.Proofs.Fix.Residue
import WorkflowLint.Proofs.Outline.Place
import WorkflowLint.Proofs.Workspace.LintFile

namespace WorkflowLint

variable {fs fs' : FileSystem} {path : Path} {text : Text}

namespace FileSystem

/-- No item has the name of a draft. -/
def NoDrafts (fs : FileSystem) : Prop :=
  ∀ (directory : Place) (name : Text), fs.item? (directory ++ [name ++ ".pipelint.tmp"]) = none

/-- It is enough to look at the items that there are. -/
theorem noDrafts_of_all (h : ∀ entry ∈ fs.items, ∀ name, entry.1.getLast? = some name →
    List.isSuffixOf ".pipelint.tmp".toList name = false) : fs.NoDrafts := by
  intro directory name
  cases hitem : fs.item? (directory ++ [name ++ ".pipelint.tmp"]) with
  | none => rfl
  | some item =>
    rw [item?, if_neg (List.append_ne_nil_of_right_ne_nil _ (List.cons_ne_nil _ _))] at hitem
    obtain ⟨entry, hentry, hplace⟩ := List.mem_map.mp (mem_of_find? hitem)
    have hname := h entry hentry (name ++ ".pipelint.tmp")
      (by rw [hplace, List.getLast?_append, List.getLast?_singleton, Option.some_or])
    rw [Bool.eq_false_iff, ne_eq, List.isSuffixOf_iff_suffix] at hname
    exact absurd (List.suffix_append _ _) hname

theorem NoDrafts.draftIsNoLink (h : fs.NoDrafts) (path : Path) : fs.DraftIsNoLink path := by
  intro place hwalk
  have hname := isName_draftName path
  have hnull : (draftOf path).hasNull = false := by
    rw [← Bool.not_eq_true]
    intro hnull
    rw [walk, if_pos hnull] at hwalk
    cases hwalk
  obtain ⟨directory, hholds⟩ :=
    exists_holds_of_walk (name_draftOf path) hname.ne_nil (Or.inl ⟨place, hwalk⟩)
  rw [hholds.walk_absent hnull (name_draftOf path) hname (h directory path.name)] at hwalk
  cases hwalk

/-- A replacement that fails leaves every item as it was. -/
theorem NoDrafts.item?_of_replaceText (h : fs.NoDrafts) {error : FileError}
    (hreplaced : fs.replaceText path text = (.error error, fs')) (place : Place) :
    fs'.item? place = fs.item? place := by
  have hreplacement := replacement_replaceText (h.draftIsNoLink path) text
  rw [hreplaced] at hreplacement
  cases hreplacement with
  | refused => rfl
  | @withdrawn directory _ hholds hdraft =>
    rw [item?_remove, item?_put]
    by_cases hroot : place = []
    · simp [hroot, item?]
    · by_cases hplace : place = directory ++ [draftName path]
      · rw [if_neg hroot, if_pos hplace, hplace]
        exact (h directory path.name).symm
      · simp [hroot, hplace]

end FileSystem

namespace Workspace

variable {workspace : Workspace} {report : Report}

/-- A text that is not indented by tabs can be read after it was fixed. -/
theorem exists_load_apply {path : Text} {fixed : Bool}
    (h : workspace.lintText text path fixed = .ok report) (hlines : Fix.Tabless (Text.lines text)) :
    ∃ document, Document.load (Fix.apply text report.diagnostics) = .ok document := by
  by_cases hne : Fix.apply text report.diagnostics = text
  · obtain ⟨document, reported, hload, -, -⟩ := exists_of_lintText h
    rw [hne]
    exact ⟨document, hload⟩
  · obtain ⟨document, patterns, hload, -, happly⟩ := exists_of_apply_ne h hne
    have hhidden : ∀ diagnostic ∈ StructureRule.deprecationsFrom 1 (Text.lines text),
        ∀ line, diagnostic.line = some line → Function.const Int true line = true :=
      fun _ _ _ _ => rfl
    obtain ⟨passed, hpassed, -⟩ :=
      Fix.exists_load_changeLines (Fix.passed_keptPassLine _ _) hload hlines hhidden
    rw [happly]
    exact ⟨passed, hpassed⟩

/-- A text that can be read after it was fixed can be linted. -/
theorem exists_lintText_apply {path path' : Text} {fixed fixed' : Bool} {document : Document}
    (h : workspace.lintText text path fixed = .ok report)
    (hne : Fix.apply text report.diagnostics ≠ text)
    (hload : Document.load (Fix.apply text report.diagnostics) = .ok document) :
    ∃ second, workspace.lintText (Fix.apply text report.diagnostics) path' fixed' = .ok second := by
  obtain ⟨_, patterns, -, hpatterns, -⟩ := exists_of_apply_ne h hne
  rw [lintText_eq hpatterns hload]
  exact ⟨_, rfl⟩

/-- If linting a file fails, either every item is as it was, or the fixed text has been stored
    and cannot be read, and a tab has been expanded. -/
theorem lintFile_error (hdrafts : fs.NoDrafts) {fix : Bool} {error : LintError}
    (h : workspace.lintFile fs path fix = (.error error, fs')) :
    (∀ place, fs'.item? place = fs.item? place) ∨
      ∃ text report fault, workspace.lintStored fs path = .ok (text, report) ∧
        fs.replaceText path (Fix.apply text report.diagnostics) = (.ok (), fs') ∧
        Document.load (Fix.apply text report.diagnostics) = .error fault ∧ error = .parse fault ∧
        ∃ line ∈ Text.lines text, Line.isIgnorable line = false ∧ Line.startsWithTab line = true := by
  have hrun := fileRun_lintFile workspace fs path fix
  rw [h] at hrun
  cases hrun with
  | unread => exact Or.inl fun _ => rfl
  | unwritten _ hreplaced => exact Or.inl (hdrafts.item?_of_replaceText hreplaced)
  | @replaced text report _ _ hstored _ hne hreplaced hlint =>
    obtain ⟨display, -, hfound⟩ := exists_of_lintStored hstored
    cases hload : Document.load (Fix.apply text report.diagnostics) with
    | ok document =>
      obtain ⟨second, hsecond⟩ := exists_lintText_apply hfound hne hload
      rw [hsecond] at hlint
      cases hlint
    | error fault =>
      refine Or.inr ⟨text, report, fault, hstored, hreplaced, hload, ?_, ?_⟩
      · rw [lintText, lint, hload] at hlint
        cases hlint
        rfl
      -- Without such a line the outline is the same after the fixes, up to outdated references.
      · refine Decidable.byContradiction fun hnot => ?_
        have hlines : Fix.Tabless (Text.lines text) := by
          refine ⟨fun line hline => Text.not_mem_of_mem_lines hline, ?_⟩
          intro line hline hcontent
          exact Bool.eq_false_iff.mpr fun htab => hnot ⟨line, hline, hcontent, htab⟩
        obtain ⟨document, hdocument⟩ := exists_load_apply hfound hlines
        rw [hload] at hdocument
        cases hdocument

/-- A file that is no UTF-8 cannot be linted, and stays as it is. -/
theorem lintFile_error_notUtf8 :
    let fs : FileSystem := ⟨[(["ci.yml"], .file [0x6E, 0xFF])], []⟩
    ∃ error fs', (Workspace.mk [] Config.default true).lintFile fs (Path.ofText "ci.yml") true =
      (.error (.file error), fs') ∧ ∀ place, fs'.item? place = fs.item? place := by
  intro fs
  have hdrafts : fs.NoDrafts := by
    apply FileSystem.noDrafts_of_all
    intro entry hentry name hname
    rw [List.mem_singleton.mp hentry] at hname
    cases hname
    decide
  have hstored : (Workspace.mk [] Config.default true).lintStored fs (Path.ofText "ci.yml") =
      .error (.file (.notUtf8 (Path.ofText "ci.yml") ⟨.invalidStart, 1⟩)) := rfl
  have hfile : (Workspace.mk [] Config.default true).lintFile fs (Path.ofText "ci.yml") true =
      (.error (.file (.notUtf8 (Path.ofText "ci.yml") ⟨.invalidStart, 1⟩)), fs) := by
    rw [lintFile, hstored]
  refine ⟨_, fs, hfile, ?_⟩
  rcases lintFile_error hdrafts hfile with hsame | ⟨text, report, fault, hlinted, -⟩
  · exact hsame
  · rw [hstored] at hlinted
    cases hlinted

/-! ### A number in a block scalar -/

/-- The current directory with one file. -/
def oneFile (text : Text) : FileSystem := ⟨[(["w.yml"], .file (Utf8.encode text))], []⟩

theorem noDrafts_oneFile (text : Text) : (oneFile text).NoDrafts := by
  apply FileSystem.noDrafts_of_all
  intro entry hentry name hname
  rw [oneFile, List.mem_singleton] at hentry
  rw [hentry] at hname
  cases hname
  decide

theorem readText_oneFile (hmark : text.head? ≠ some '\uFEFF') (hreturn : '\r' ∉ text) :
    (oneFile text).readText (Path.ofText "w.yml") = .ok text :=
  FileSystem.readText_of_readOctets rfl hmark hreturn

theorem replaceText_oneFile (text other : Text) :
    (oneFile text).replaceText (Path.ofText "w.yml") other = (.ok (), oneFile other) := by
  rw [FileSystem.replaceText, oneFile, oneFile]
  generalize Utf8.encode other = octets
  rfl

theorem item?_oneFile (text : Text) :
    (oneFile text).item? ["w.yml"] = some (.file (Utf8.encode text)) := rfl

theorem displayPath_oneFile (text : Text) : (Workspace.mk [] Config.default false).displayPath
    (oneFile text) (Path.ofText "w.yml") = .ok "w.yml" := rfl

theorem joinLines_ne (number : Text) :
    Text.joinLines ["  a: |", number] ≠ Text.joinLines ["\ta: |", number] := by
  intro heq
  have hhead := congrArg List.head? heq
  cases hhead

section Number

open Line (IsDigits IsKey pairText)
open Outline (State)

variable {digits : Text} (h : IsDigits digits)

theorem isKey_b : IsKey "b" := by decide

include h

theorem content?_numberLine :
    Outline.content? ("  b: " ++ digits) = some ⟨2, pairText "b" digits⟩ := by
  have hline : ("  b: " ++ digits : Text) = Outline.indent 2 (pairText "b" digits) := by
    simp [Outline.indent, pairText, h.1]
  rw [hline]
  exact Outline.content?_indent (Line.isContent_pairText isKey_b (Or.inr h.isContent)) 2

theorem not_mem_numberLine : '\n' ∉ ("  b: " ++ digits : Text) := by
  rw [List.mem_append, not_or]
  exact ⟨by decide, h.isContent.feed⟩

theorem lines_numberLine {header : Text} (hheader : '\n' ∉ header) :
    Text.lines (Text.joinLines [header, "  b: " ++ digits]) = [header, "  b: " ++ digits] := by
  apply Text.lines_joinLines (List.cons_ne_nil _ _)
  intro line hline
  rcases List.mem_pair.mp hline with rfl | rfl
  · exact hheader
  · exact not_mem_numberLine h

theorem exists_load_hidden :
    ∃ document, Document.load (Text.joinLines ["\ta: |", "  b: " ++ digits]) = .ok document := by
  have hfirst : State.initial.step "\ta: |" 1 =
      .ok ⟨.mapping [⟨"a", some 1, .scalar (.str []) (some 1)⟩] none,
        [⟨1, ⟨[], some "a", true⟩⟩], []⟩ := rfl
  rw [Document.load, Outline.parse, lines_numberLine h (by decide), State.run, hfirst]
  simp only [Except.bind]
  rw [State.run, State.step, content?_numberLine h]
  simp only [State.place, Outline.isItem_pairText isKey_b]
  exact ⟨_, rfl⟩

theorem load_shown (hlong : digitLimit < digits.length) :
    Document.load (Text.joinLines ["  a: |", "  b: " ++ digits]) =
      .error (.tooManyDigits digits.length) := by
  have hfirst : State.initial.step "  a: |" 1 =
      .ok ⟨.mapping [⟨"a", some 1, .scalar (.str []) (some 1)⟩] none,
        [⟨2, ⟨[], some "a", true⟩⟩], []⟩ := rfl
  rw [Document.load, Outline.parse, lines_numberLine h (by decide), State.run, hfirst]
  simp only [Except.bind]
  rw [State.run, State.step, content?_numberLine h]
  simp only [State.place, Outline.isItem_pairText isKey_b]
  have hunwind (tree : Node) : Outline.unwind tree 2 false [⟨2, ⟨[], some "a", true⟩⟩] = [] := rfl
  have hroot (tree : Node) : tree.at? [] = some tree := rfl
  rw [hunwind]
  simp only [Outline.currentScope, Outline.Scope.root, Bool.false_eq_true, if_false, State.addPair,
    Line.splitPair_pairText isKey_b (Or.inr h.isContent), Outline.Scope.target, hroot,
    h.readValue_long hlong]
  rfl

theorem changeLines_hidden :
    Fix.changeLines (Fix.keptPassLine (keeps []) false) false ["\ta: |", "  b: " ++ digits] =
      ([("  a: |" : Text), "  b: " ++ digits] : List Text) := by
  have hignorable : Line.isIgnorable ("  b: " ++ digits) = false :=
    (Outline.content?_eq_some_iff.mp (content?_numberLine h)).1
  have hfirst : Line.isIgnorable "\ta: |" = false := by decide
  rw [Fix.changeLines, hfirst, if_neg Bool.false_ne_true, Fix.changeLines, hignorable,
    if_neg Bool.false_ne_true]
  rfl

/-- The fixed text is stored before it turns out that it cannot be read. -/
theorem lintFile_oneFile (hlong : digitLimit < digits.length) :
    (Workspace.mk [] Config.default false).lintFile
        (oneFile (Text.joinLines ["\ta: |", "  b: " ++ digits])) (Path.ofText "w.yml") true =
      (.error (.parse (.tooManyDigits digits.length)),
        oneFile (Text.joinLines ["  a: |", "  b: " ++ digits])) := by
  have hreturn : '\r' ∉ Text.joinLines ["\ta: |", "  b: " ++ digits] := by
    rw [Text.mem_joinLines (by decide)]
    rintro ⟨line, hline, hmem⟩
    rcases List.mem_pair.mp hline with rfl | rfl
    · exact absurd hmem (by decide)
    · rcases List.mem_append.mp hmem with hmem | hmem
      · exact absurd hmem (by decide)
      · exact h.ne_of_mem hmem (by decide) rfl
  obtain ⟨document, hload⟩ := exists_load_hidden h
  have hblank : Text.allBlank (Text.joinLines ["\ta: |", "  b: " ++ digits]) = false := by
    rw [Text.allBlank_joinLines]
    rfl
  have happly := Fix.apply_filter_evaluate (keeps []) hload hblank false
  rw [lines_numberLine h (by decide), changeLines_hidden h] at happly
  have hstored : (Workspace.mk [] Config.default false).lintStored
      (oneFile (Text.joinLines ["\ta: |", "  b: " ++ digits])) (Path.ofText "w.yml") =
        .ok (Text.joinLines ["\ta: |", "  b: " ++ digits],
          .ofDiagnostics "w.yml" ((document.evaluate false Rule.all).diagnostics.filter
            (Diagnostic.comesFrom (keeps []))) false) := by
    have hpatterns : Config.default.ignored = .patterns (([] : List CodePoints).map .glob) := rfl
    have hmark : (Text.joinLines ["\ta: |", "  b: " ++ digits]).head? ≠ some '\uFEFF' := by
      intro hhead
      cases hhead
    rw [lintStored, displayPath_oneFile, readText_oneFile hmark hreturn]
    simp only
    rw [lintText_eq hpatterns hload]
  have hne := joinLines_ne ("  b: " ++ digits)
  rw [← happly] at hne
  have hfile := lintFile_of_replaceText hstored hne (replaceText_oneFile _ _)
  rw [Report.diagnostics_ofDiagnostics, happly] at hfile
  rw [hfile, lintText, lint, load_shown h hlong]
  rfl

end Number

/-- A number of too many digits is no failure while a tab hides it in a block scalar.  When the
    tab is expanded, the file has been replaced by the time that the number is read. -/
theorem lintFile_error_stored :
    let stored := Text.joinLines ["\ta: |", "  b: " ++ List.replicate 4301 '1']
    ∃ fs', (oneFile stored).NoDrafts ∧
      (Workspace.mk [] Config.default false).lintFile (oneFile stored) (Path.ofText "w.yml") true =
        (.error (.parse (.tooManyDigits 4301)), fs') ∧
      fs'.item? ["w.yml"] ≠ (oneFile stored).item? ["w.yml"] := by
  intro stored
  have hdigits (n : Nat) (hn : n ≠ 0) : Line.IsDigits (List.replicate n '1') := by
    refine ⟨by simpa using hn, fun c hc => ?_⟩
    rw [List.eq_of_mem_replicate hc]
    rfl
  have hlong : digitLimit < (List.replicate 4301 '1').length := by
    rw [List.length_replicate]
    decide
  have hfile := lintFile_oneFile (hdigits 4301 (by decide)) hlong
  rw [List.length_replicate] at hfile
  refine ⟨_, noDrafts_oneFile _, hfile, ?_⟩
  rw [item?_oneFile, item?_oneFile]
  intro heq
  exact joinLines_ne _ (Utf8.encode_inj (Item.file.inj (Option.some.inj heq)))

end Workspace

end WorkflowLint
