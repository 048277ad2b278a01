/-
  WorkflowLint/Proofs/Rule/Draft.lean
  ===================================
  **What the structure rules find in a draft.**

  A draft says by itself which keys its jobs and steps have and where they are
  written, so the findings of the structure rules can be read off it without reading
  its text (`draftFindings`).  Linting the text finds the same
  (`structureFindings_entriesLines`): the tree of the text has the entries of the
  draft with the lines of their keys, and the rules look at nothing else.
-/
import WorkflowLint.Proofs.Outline.RoundTrip
import WorkflowLint.Proofs.Rule.Selection

namespace WorkflowLint

open Outline (Draft DraftItem draftKeys entriesLines itemsLines entryNodes itemNodes EntriesFit
  indent)
open Line (pairText)

/-! ### Keys and the lines where they are written -/

/-- An entry of a draft with the line of its key. -/
structure Written where
  key : Text
  line : Int
  value : Draft

/-- The entries that are written from a line on. -/
def writtenFrom (line : Int) : List (Text × Draft) → List Written
  | [] => []
  | (key, value) :: others =>
    ⟨key, line, value⟩ :: writtenFrom (line + 1 + value.body.length) others

/-- The mappings among items that are written from a line on: the number of the item among
    all items, and its entries. -/
def writtenItems (column number : Nat) (line : Int) : List DraftItem → List (Nat × List Written)
  | [] => []
  | .text value :: others =>
    writtenItems column (number + 1) (line + ((DraftItem.text value).lines column).length) others
  | .mapping key value entries :: others =>
    (number, writtenFrom line ((key, value) :: entries)) ::
      writtenItems column (number + 1)
        (line + ((DraftItem.mapping key value entries).lines column).length) others

namespace Written

/-- The entries below the key, if its value is a mapping. -/
def entries? (written : Written) : Option (List Written) :=
  match written.value with
  | .mapping _ entries => some (writtenFrom (written.line + 1) entries)
  | _ => none

/-- The items below the key that are mappings, if its value is a sequence. -/
def items (written : Written) : List (Nat × List Written) :=
  match written.value with
  | .sequence column first others => writtenItems column 1 (written.line + 1) (first :: others)
  | _ => []

/-- Whether an entry is written on its line of a text: behind its indentation, or behind the
    dash of an item, and with its value below. -/
def StandsIn (lines : List Text) (written : Written) : Prop :=
  ∃ (index column : Nat) (lead : Text) (rest : List Text), written.line = index + 1 ∧
    (lead = [] ∨ lead = "- ") ∧
    lines.drop index =
      indent column (lead ++ pairText written.key written.value.head) ::
        (written.value.body ++ rest)

end Written

/-! ### Findings that are read off a draft -/

/-- The jobs among the entries of a document: the entries of `jobs` that are mappings, each
    with its entries. -/
def writtenJobs (document : List Written) : List (Written × List Written) :=
  match (document.find? fun entry => entry.key = Catalog.jobsKey).bind Written.entries? with
  | some jobs => jobs.filterMap fun job => job.entries?.map fun entries => (job, entries)
  | none => []

/-- The steps among the entries of a job. -/
def writtenSteps (entries : List Written) : List (Nat × List Written) :=
  match entries.find? fun entry => entry.key = Catalog.stepsKey with
  | some steps => steps.items
  | none => []

/-- The warnings about the keys of entries that are not among `known`. -/
def unknownKeys (rule : StructureRule) (known : List Text) (message : Text → Text)
    (line : Written → Option Int) (entries : List Written) : List Diagnostic :=
  (entries.filter fun entry => !known.contains entry.key).map fun entry =>
    rule.finding .warning (message entry.key) (line entry)

/-- The error about a key that is missing among entries. -/
def missingKey (rule : StructureRule) (key message : Text) (entries : List Written) :
    List Diagnostic :=
  if ∃ entry ∈ entries, entry.key = key then [] else [rule.finding .error message none]

/-- The findings of the structure rules on a document.  Outdated actions are left out, and so
    is the line of an unknown key at the top, which is looked up in the text. -/
def draftFindings (document : List Written) : List Diagnostic :=
  missingKey .missingTrigger Catalog.triggerKey "Missing required 'on' trigger" document
  ++ missingKey .missingJobs Catalog.jobsKey "Missing required 'jobs' section" document
  ++ unknownKeys .unknownTopLevelKey Catalog.workflowKeys
      (fun key => "Unknown top-level key: \"" ++ key ++ "\"") (fun _ => none) document
  ++ (writtenJobs document).flatMap (fun (job, entries) =>
      unknownKeys .unknownJobKey Catalog.jobKeys
        (fun key => "Unknown key \"" ++ key ++ "\" in job \"" ++ job.key ++ "\"")
        (fun entry => some entry.line) entries)
  ++ ((writtenJobs document).filter fun (_, entries) =>
        ¬∃ entry ∈ entries, entry.key = Catalog.runnerKey ∨ entry.key = Catalog.usesKey).map
      (fun (job, _) => StructureRule.missingRunsOn.finding .error
        ("Job \"" ++ job.key ++ "\" is missing required 'runs-on'") (some job.line))
  ++ (writtenJobs document).flatMap (fun (job, entries) =>
      (writtenSteps entries).flatMap fun (number, step) =>
        unknownKeys .unknownStepKey Catalog.stepKeys
          (fun key => "Unknown key \"" ++ key ++ "\" in step " ++ Text.ofNat number
            ++ " of job \"" ++ job.key ++ "\"")
          (fun entry => some entry.line) step)

/-- A finding without its line if it is about an unknown key at the top. -/
def Diagnostic.withoutTopLine (diagnostic : Diagnostic) : Diagnostic :=
  if diagnostic.ruleId = some StructureRule.unknownTopLevelKey.id then
    { diagnostic with line := none }
  else diagnostic

/-! ### The tree of a draft -/

/-- The entry of the tree that a written entry is read as. -/
def Written.toEntry (written : Written) : Entry Node :=
  ⟨written.key, some written.line, written.value.node written.line⟩

theorem entryNodes_eq (line : Int) (entries : List (Text × Draft)) :
    entryNodes line entries = (writtenFrom line entries).map Written.toEntry := by
  induction entries generalizing line with
  | nil => rfl
  | cons entry others ih =>
    simp [entryNodes, writtenFrom, Written.toEntry, ih]

theorem get?_toEntry (key : Text) (entries : List Written) :
    Entries.get? key (entries.map Written.toEntry) =
      (entries.find? fun entry => entry.key = key).map
        fun entry => entry.value.node entry.line := by
  rw [Entries.get?, Entries.find?, List.find?_map, Option.map_map]
  rfl

theorem has_toEntry (key : Text) (entries : List Written) :
    Entries.has key (entries.map Written.toEntry) = true ↔ ∃ entry ∈ entries, entry.key = key := by
  simp only [Entries.has, Entries.find?, List.find?_isSome, List.mem_map,
    decide_eq_true_eq]
  constructor
  · rintro ⟨-, ⟨entry, hmem, rfl⟩, hkey⟩
    exact ⟨entry, hmem, hkey⟩
  · rintro ⟨entry, hmem, hkey⟩
    exact ⟨entry.toEntry, ⟨entry, hmem, rfl⟩, hkey⟩

/-- The job that a written entry and its entries are read as. -/
def toJob (job : Written × List Written) : Job :=
  ⟨job.1.key, some job.1.line, job.2.map Written.toEntry⟩

theorem ofEntry?_toEntry (written : Written) :
    Job.ofEntry? written.toEntry =
      written.entries?.map fun entries => toJob (written, entries) := by
  obtain ⟨key, line, value⟩ := written
  cases value with
  | mapping column entries =>
    simp [Job.ofEntry?, Written.toEntry, Draft.node, Written.entries?, toJob, entryNodes_eq]
  | text | flag | number | script | sequence =>
    simp [Job.ofEntry?, Written.toEntry, Draft.node, Written.entries?]

theorem stepsFrom_itemNodes (column number : Nat) (line : Int) (items : List DraftItem) :
    Job.stepsFrom number (itemNodes column line items) =
      (writtenItems column number line items).map fun step =>
        (step.1, step.2.map Written.toEntry) := by
  induction items generalizing number line with
  | nil => rfl
  | cons item others ih =>
    cases item with
    | text value => simp [itemNodes, DraftItem.node, Job.stepsFrom, writtenItems, ih]
    | mapping key value entries =>
      simp [itemNodes, DraftItem.node, Job.stepsFrom, writtenItems, writtenFrom, entryNodes_eq,
        Written.toEntry, ih]

theorem steps_toJob (job : Written × List Written) :
    (toJob job).steps =
      (writtenSteps job.2).map fun step => (step.1, step.2.map Written.toEntry) := by
  rw [Job.steps, toJob, get?_toEntry, writtenSteps]
  cases job.2.find? fun entry => entry.key = Catalog.stepsKey with
  | none => rfl
  | some steps =>
    obtain ⟨key, line, value⟩ := steps
    cases value with
    | sequence column first others =>
      exact stepsFrom_itemNodes column 1 (line + 1) (first :: others)
    | text | flag | number | script | mapping => rfl

/-! ### The rules on the tree of a draft -/

theorem unknownEntries_toEntry (known : List Text) (entries : List Written) :
    unknownEntries known (entries.map Written.toEntry) =
      (entries.filter fun entry => !known.contains entry.key).map Written.toEntry := by
  unfold unknownEntries
  rw [List.filter_map]
  refine congrArg _ (List.filter_congr fun entry _ => ?_)
  rw [Bool.eq_iff_iff, Bool.not_eq_true', ← Bool.not_eq_true, List.contains_iff_mem]
  exact decide_eq_true_iff

namespace StructureRule

theorem jobKeyFindings_toJob (job : Written × List Written) :
    jobKeyFindings (toJob job) =
      unknownKeys unknownJobKey Catalog.jobKeys
        (fun key => "Unknown key \"" ++ key ++ "\" in job \"" ++ job.1.key ++ "\"")
        (fun entry => some entry.line) job.2 := by
  rw [jobKeyFindings, toJob, unknownEntries_toEntry, List.map_map]
  rfl

theorem runnerFindings_toJob (job : Written × List Written) :
    runnerFindings (toJob job) =
      if ∃ entry ∈ job.2, entry.key = Catalog.runnerKey ∨ entry.key = Catalog.usesKey then []
      else
        [missingRunsOn.finding .error
          ("Job \"" ++ job.1.key ++ "\" is missing required 'runs-on'") (some job.1.line)] := by
  have hhas : (Entries.has Catalog.runnerKey (toJob job).entries ||
      Entries.has Catalog.usesKey (toJob job).entries) = true ↔
      ∃ entry ∈ job.2, entry.key = Catalog.runnerKey ∨ entry.key = Catalog.usesKey := by
    simp only [toJob, Bool.or_eq_true, has_toEntry, and_or_left, exists_or]
  simp only [runnerFindings, hhas]
  rfl

theorem stepKeyFindings_toJob (job : Written × List Written) (number : Nat)
    (step : List Written) :
    stepKeyFindings (toJob job) number (step.map Written.toEntry) =
      unknownKeys unknownStepKey Catalog.stepKeys
        (fun key => "Unknown key \"" ++ key ++ "\" in step " ++ Text.ofNat number
          ++ " of job \"" ++ job.1.key ++ "\"")
        (fun entry => some entry.line) step := by
  rw [stepKeyFindings, unknownEntries_toEntry, List.map_map]
  rfl

section

variable {document : Document} {written : List Written}
  (h : document.entries = written.map Written.toEntry)

include h

theorem missingSection_toEntry (rule : StructureRule) (key message : Text) :
    rule.missingSection key message document = missingKey rule key message written := by
  simp only [missingSection, missingKey, h, has_toEntry]

theorem jobs_toEntry : document.jobs = (writtenJobs written).map toJob := by
  rw [Document.jobs, h, get?_toEntry, writtenJobs]
  cases written.find? fun entry => entry.key = Catalog.jobsKey with
  | none => rfl
  | some jobs =>
    obtain ⟨key, line, value⟩ := jobs
    cases value with
    | mapping column entries =>
      simp only [Option.map_some, Draft.node, Option.bind_some, Written.entries?, entryNodes_eq,
        List.filterMap_map, List.map_filterMap, Option.map_map]
      congr 1
      funext entry
      exact ofEntry?_toEntry entry
    | text | flag | number | script | sequence => rfl

theorem analyze_unknownTopLevelKey :
    (unknownTopLevelKey.analyze document).map Diagnostic.withoutTopLine =
      unknownKeys unknownTopLevelKey Catalog.workflowKeys
        (fun key => "Unknown top-level key: \"" ++ key ++ "\"") (fun _ => none) written := by
  rw [analyze, h, unknownEntries_toEntry, List.map_map, List.map_map]
  rfl

theorem analyze_unknownJobKey :
    unknownJobKey.analyze document = (writtenJobs written).flatMap fun (job, entries) =>
      unknownKeys unknownJobKey Catalog.jobKeys
        (fun key => "Unknown key \"" ++ key ++ "\" in job \"" ++ job.key ++ "\"")
        (fun entry => some entry.line) entries := by
  rw [analyze, jobs_toEntry h, List.flatMap_map]
  congr 1
  funext job
  exact jobKeyFindings_toJob job

theorem analyze_missingRunsOn :
    missingRunsOn.analyze document = ((writtenJobs written).filter fun (_, entries) =>
        ¬∃ entry ∈ entries, entry.key = Catalog.runnerKey ∨ entry.key = Catalog.usesKey).map
      fun (job, _) => missingRunsOn.finding .error
        ("Job \"" ++ job.key ++ "\" is missing required 'runs-on'") (some job.line) := by
  rw [analyze, jobs_toEntry h, List.flatMap_map]
  induction writtenJobs written with
  | nil => rfl
  | cons job others ih =>
    rw [List.flatMap_cons, ih, runnerFindings_toJob, List.filter_cons]
    split <;> simp_all

theorem analyze_unknownStepKey :
    unknownStepKey.analyze document = (writtenJobs written).flatMap fun (job, entries) =>
      (writtenSteps entries).flatMap fun (number, step) =>
        unknownKeys unknownStepKey Catalog.stepKeys
          (fun key => "Unknown key \"" ++ key ++ "\" in step " ++ Text.ofNat number
            ++ " of job \"" ++ job.key ++ "\"")
          (fun entry => some entry.line) step := by
  rw [analyze, jobs_toEntry h, List.flatMap_map]
  congr 1
  funext job
  rw [steps_toJob, List.flatMap_map]
  congr 1
  funext step
  exact stepKeyFindings_toJob job step.1 step.2

/-- The structure rules find in a tree what can be read off the draft. -/
theorem analyze_toEntry :
    ((((Rule.all.filterMap Rule.document?).flatMap fun rule => rule.analyze document).filter
        (Diagnostic.comesFrom fun id => id ≠ deprecatedAction.id)).map
      Diagnostic.withoutTopLine) = draftFindings written := by
  -- away from the rule on keys at the top, no line is left out
  have hplaced (rule : StructureRule) (hne : rule.id ≠ unknownTopLevelKey.id) :
      (rule.analyze document).map Diagnostic.withoutTopLine = rule.analyze document := by
    refine (List.map_congr_left fun diagnostic hd => ?_).trans (List.map_id _)
    rw [Diagnostic.withoutTopLine, ruleId_of_mem_analyze hd, if_neg (mt Option.some_inj.mp hne)]
    rfl
  have hrules : (Rule.all.filterMap Rule.document?).filter
      (fun rule => decide (rule.id ≠ deprecatedAction.id)) =
      [missingTrigger, missingJobs, unknownTopLevelKey, unknownJobKey, missingRunsOn,
        unknownStepKey] := by decide
  rw [filter_flatMap_comesFrom _ fun rule diagnostic hd => ruleId_of_mem_analyze hd, hrules]
  simp only [List.flatMap_cons, List.flatMap_nil, List.map_append, List.append_nil,
    ← List.append_assoc]
  rw [hplaced missingTrigger (by decide), hplaced missingJobs (by decide),
    analyze_unknownTopLevelKey h, hplaced unknownJobKey (by decide),
    hplaced missingRunsOn (by decide), hplaced unknownStepKey (by decide),
    analyze_unknownJobKey h, analyze_missingRunsOn h, analyze_unknownStepKey h, analyze, analyze,
    missingSection_toEntry h, missingSection_toEntry h]
  rfl

end

end StructureRule

/-! ### The lines of a draft -/

section

variable {lines above below : List Text} {index : Nat}

theorem drop_of_append (h : lines.drop index = above ++ below) :
    lines.drop (index + above.length) = below := by
  rw [← List.drop_drop, h, List.drop_left]

theorem drop_of_cons {line : Text} (h : lines.drop index = line :: below) :
    lines.drop (index + 1) = below := by
  rw [← List.drop_drop, h, List.drop_one, List.tail_cons]

/-- If the entries below stand where they are written, so do all entries from the first one
    on, which may stand behind a dash. -/
theorem standsIn_cons {column behind : Nat} {key : Text} {value : Draft}
    {others : List (Text × Draft)} (lead : Text) (hlead : lead = [] ∨ lead = ("- " : Text))
    (h : lines.drop index = indent column (lead ++ pairText key value.head) ::
      (value.body ++ (entriesLines behind others ++ below)))
    (hothers : ∀ index : Nat, lines.drop index = entriesLines behind others ++ below →
      ∀ entry ∈ writtenFrom (index + 1) others, entry.StandsIn lines) :
    ∀ entry ∈ writtenFrom (index + 1) ((key, value) :: others), entry.StandsIn lines := by
  intro entry hentry
  rcases List.mem_cons.mp hentry with rfl | hmem
  · exact ⟨index, column, lead, _, rfl, hlead, h⟩
  · have hrest : lines.drop (index + 1 + value.body.length) = entriesLines behind others ++ below :=
      drop_of_append (drop_of_cons h)
    refine hothers _ hrest entry ?_
    have hline : ((index + 1 + value.body.length : Nat) : Int) + 1 =
        index + 1 + 1 + value.body.length := by omega
    rw [hline]
    exact hmem

theorem standsIn_writtenFrom {column : Nat} {entries : List (Text × Draft)}
    (h : lines.drop index = entriesLines column entries ++ below) :
    ∀ entry ∈ writtenFrom (index + 1) entries, entry.StandsIn lines := by
  induction entries generalizing index with
  | nil => exact fun entry hentry => absurd hentry List.not_mem_nil
  | cons first others ih =>
    rw [entriesLines, List.cons_append, List.append_assoc] at h
    exact standsIn_cons [] (Or.inl rfl) h fun _ hrest => ih hrest

theorem standsIn_writtenItems {column : Nat} {items : List DraftItem} (number : Nat)
    (h : lines.drop index = itemsLines column items ++ below) :
    ∀ step ∈ writtenItems column number (index + 1) items, ∀ entry ∈ step.2,
      entry.StandsIn lines := by
  induction items generalizing index number with
  | nil => exact fun step hstep => absurd hstep List.not_mem_nil
  | cons item others ih =>
    rw [itemsLines, List.append_assoc] at h
    have hrest := ih (number + 1) (drop_of_append h)
    have hline : ((index + (item.lines column).length : Nat) : Int) + 1 =
        index + 1 + (item.lines column).length := by omega
    rw [hline] at hrest
    cases item with
    | text value => exact hrest
    | mapping key value entries =>
      intro step hstep
      rcases List.mem_cons.mp hstep with rfl | hmem
      · rw [DraftItem.lines, List.cons_append, List.append_assoc] at h
        exact standsIn_cons "- " (Or.inr rfl) h fun _ hbelow =>
          standsIn_writtenFrom hbelow
      · exact hrest step hmem

namespace Written

variable {written : Written}

theorem StandsIn.entries? (h : written.StandsIn lines) {entries : List Written}
    (hentries : written.entries? = some entries) : ∀ entry ∈ entries, entry.StandsIn lines := by
  obtain ⟨key, line, value⟩ := written
  obtain ⟨index, column, lead, rest, rfl, hlead, hdrop⟩ := h
  cases value with
  | mapping inner inside =>
    cases hentries
    exact standsIn_writtenFrom (drop_of_cons hdrop)
  | text | flag | number | script | sequence => cases hentries

theorem StandsIn.items (h : written.StandsIn lines) :
    ∀ step ∈ written.items, ∀ entry ∈ step.2, entry.StandsIn lines := by
  obtain ⟨key, line, value⟩ := written
  obtain ⟨index, column, lead, rest, rfl, hlead, hdrop⟩ := h
  cases value with
  | sequence inner first others =>
    have hitems : lines.drop (index + 1) = itemsLines inner (first :: others) ++ rest :=
      drop_of_cons hdrop
    exact standsIn_writtenItems 1 hitems
  | text | flag | number | script | mapping =>
    exact fun step hstep => absurd hstep List.not_mem_nil

end Written

/-- Every job, and every key of a job and of a step, stands where it is written. -/
theorem standsIn_writtenJobs {document : List Written}
    (h : ∀ entry ∈ document, entry.StandsIn lines) :
    ∀ job ∈ writtenJobs document, job.1.StandsIn lines ∧
      (∀ entry ∈ job.2, entry.StandsIn lines) ∧
      ∀ step ∈ writtenSteps job.2, ∀ entry ∈ step.2, entry.StandsIn lines := by
  intro job hjob
  rw [writtenJobs] at hjob
  split at hjob
  · rename_i jobs hjobs
    obtain ⟨top, htop, htopJobs⟩ := Option.bind_eq_some_iff.mp hjobs
    have hinside := (h top (List.mem_of_find?_eq_some htop)).entries? htopJobs
    obtain ⟨name, hname, hmap⟩ := List.mem_filterMap.mp hjob
    obtain ⟨entries, hentries, rfl⟩ := Option.map_eq_some_iff.mp hmap
    have hkeys := (hinside name hname).entries? hentries
    refine ⟨hinside name hname, hkeys, ?_⟩
    intro step hstep
    rw [writtenSteps] at hstep
    split at hstep
    · rename_i steps hsteps
      exact (hkeys steps (List.mem_of_find?_eq_some hsteps)).items step hstep
    · exact absurd hstep List.not_mem_nil
  · exact absurd hjob List.not_mem_nil

end

/-! ### The structure stage on the text of a draft -/

theorem Document.evaluate_of_not_allBlank {document : Document}
    (hblank : Text.allBlank document.text = false) (strict : Bool) (rules : List Rule) :
    document.evaluate strict rules =
      .staged (layoutFindings strict (rules.filterMap Rule.layout?) 1 false document.lines)
        ((rules.filterMap Rule.document?).flatMap fun rule => rule.analyze document)
        (contentFindings strict (rules.filterMap Rule.content?) 1 document.lines) := by
  rw [Document.evaluate, hblank, if_neg Bool.false_ne_true]

section

variable {column : Nat} {document : List (Text × Draft)} {tail : List Text}

theorem allBlank_entriesLines (hne : document ≠ []) :
    Text.allBlank (Text.joinLines (entriesLines column document ++ tail)) = false := by
  obtain ⟨⟨key, value⟩, others, rfl⟩ := List.exists_cons_of_ne_nil hne
  have hcolon : ':' ∈ indent column (pairText key value.head) := by
    simp [indent, pairText]
  have hline : Text.allBlank (indent column (pairText key value.head)) = false := by
    rw [Bool.eq_false_iff]
    intro hblank
    exact absurd (Text.allBlank_iff.mp hblank ':' hcolon) (by decide)
  rw [Text.allBlank_joinLines, entriesLines, List.cons_append, List.all_cons, hline]
  rfl

theorem lines_entriesLines (hne : document ≠ []) (hfit : EntriesFit column document)
    (htail : ∀ line ∈ tail, '\n' ∉ line) :
    Text.lines (Text.joinLines (entriesLines column document ++ tail)) =
      entriesLines column document ++ tail := by
  apply Text.lines_joinLines
  · obtain ⟨⟨key, value⟩, others, rfl⟩ := List.exists_cons_of_ne_nil hne
    exact List.cons_ne_nil _ _
  · intro line hline
    rcases List.mem_append.mp hline with hentries | hmem
    · exact Outline.feed_entriesLines hfit line hentries
    · exact htail line hmem

/-- The text of a document in block style has, apart from outdated actions, just the
    structure findings that can be read off the document, and the keys that they are about
    stand on their lines. -/
theorem structureFindings_entriesLines (hne : document ≠ []) (hkeys : (draftKeys document).Nodup)
    (hfit : EntriesFit column document)
    (htail : ∀ line ∈ tail, '\n' ∉ line ∧ Line.isIgnorable line = true) (strict : Bool) :
    ∃ loaded layout found content,
      Document.load (Text.joinLines (entriesLines column document ++ tail)) = .ok loaded ∧
      loaded.evaluate strict Rule.all = .staged layout found content ∧
      (found.filter (Diagnostic.comesFrom fun id => id ≠ StructureRule.deprecatedAction.id)).map
        Diagnostic.withoutTopLine = draftFindings (writtenFrom 1 document) ∧
      ∀ job ∈ writtenJobs (writtenFrom 1 document), job.1.StandsIn loaded.lines ∧
        (∀ entry ∈ job.2, entry.StandsIn loaded.lines) ∧
        ∀ step ∈ writtenSteps job.2, ∀ entry ∈ step.2, entry.StandsIn loaded.lines := by
  obtain ⟨outline, hparse, htree, -⟩ := Outline.parse_entriesLines hkeys hfit htail
  have hlines := lines_entriesLines hne hfit fun line hline => (htail line hline).1
  have hentries : Document.entries ⟨Text.joinLines (entriesLines column document ++ tail),
      entriesLines column document ++ tail, outline⟩ =
      (writtenFrom 1 document).map Written.toEntry := by
    rw [Document.entries, htree, ← entryNodes_eq]
    rfl
  have hload : Document.load (Text.joinLines (entriesLines column document ++ tail)) =
      .ok ⟨_, entriesLines column document ++ tail, outline⟩ :=
    Document.load_eq_ok_iff.mpr ⟨outline, hparse, by rw [hlines]⟩
  have hdrop : (entriesLines column document ++ tail).drop 0 =
      entriesLines column document ++ tail := rfl
  exact ⟨_, _, _, _, hload,
    Document.evaluate_of_not_allBlank (allBlank_entriesLines hne) strict Rule.all,
    StructureRule.analyze_toEntry hentries,
    standsIn_writtenJobs (standsIn_writtenFrom hdrop)⟩

/-- A workflow with a job that is a text, a job without a runner, a step that is a text, and
    unknown keys at every level. -/
def misspelledDraft : List (Text × Draft) :=
  [("on", .text "push"),
   ("colour", .text "red"),
   ("jobs", .mapping 2
    [("lint", .text "later"),
     ("test", .mapping 4
      [("runner", .text "linux"),
       ("steps", .sequence 4 (.text "build")
        [.mapping "run" (.script "|" ["        shel: bash"]) [("shel", .text "bash")]])])])]

/-- The block body that looks like a key is not reported, and the step is the second item. -/
theorem structureFindings_misspelledDraft :
    misspelledDraft ≠ [] ∧ (draftKeys misspelledDraft).Nodup ∧ EntriesFit 0 misspelledDraft ∧
    ∃ loaded layout found content,
      Document.load ("on: push\ncolour: red\njobs:\n  lint: later\n  test:\n" ++
        "    runner: linux\n    steps:\n    - build\n    - run: |\n        shel: bash\n" ++
        "      shel: bash\n" : String) = .ok loaded ∧
      loaded.evaluate false Rule.all = .staged layout found content ∧
      (found.filter (Diagnostic.comesFrom fun id => id ≠ StructureRule.deprecatedAction.id)).map
        Diagnostic.withoutTopLine =
      [StructureRule.unknownTopLevelKey.finding .warning "Unknown top-level key: \"colour\"" none,
       StructureRule.unknownJobKey.finding .warning "Unknown key \"runner\" in job \"test\""
        (some 6),
       StructureRule.missingRunsOn.finding .error "Job \"test\" is missing required 'runs-on'"
        (some 5),
       StructureRule.unknownStepKey.finding .warning
        "Unknown key \"shel\" in step 2 of job \"test\"" (some 11)] := by
  have hne : misspelledDraft ≠ [] := List.cons_ne_nil _ _
  have hkeys : (draftKeys misspelledDraft).Nodup := by decide
  have hfit : EntriesFit 0 misspelledDraft := by decide +kernel
  have htail : ∀ line ∈ ([[]] : List Text), '\n' ∉ line ∧ Line.isIgnorable line = true := by decide
  obtain ⟨loaded, layout, found, content, hload, hevaluate, hfound, -⟩ :=
    structureFindings_entriesLines hne hkeys hfit htail false
  have htext : Text.joinLines (entriesLines 0 misspelledDraft ++ [[]]) =
      ("on: push\ncolour: red\njobs:\n  lint: later\n  test:\n" ++
        "    runner: linux\n    steps:\n    - build\n    - run: |\n        shel: bash\n" ++
        "      shel: bash\n" : String).toList := by decide +kernel
  rw [htext] at hload
  have hfindings : draftFindings (writtenFrom 1 misspelledDraft) =
      [StructureRule.unknownTopLevelKey.finding .warning "Unknown top-level key: \"colour\"" none,
       StructureRule.unknownJobKey.finding .warning "Unknown key \"runner\" in job \"test\""
        (some 6),
       StructureRule.missingRunsOn.finding .error "Job \"test\" is missing required 'runs-on'"
        (some 5),
       StructureRule.unknownStepKey.finding .warning
        "Unknown key \"shel\" in step 2 of job \"test\"" (some 11)] := by decide +kernel
  exact ⟨hne, hkeys, hfit, loaded, layout, found, content, hload, hevaluate,
    hfound.trans hfindings⟩

end

end WorkflowLint
