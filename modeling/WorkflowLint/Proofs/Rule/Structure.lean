/-
  WorkflowLint/Proofs/Rule/Structure.lean
  =======================================
  **What structure rules see of a document.**

  Structure rules look at the keys of a tree, at the lines of these keys and at
  the shape around them, never at a string.  In a tree with other labels they find
  the same on the lines as they have been moved (`analyze_relabel`), and so the same
  in a document whose tree is redacted (`analyze_redact`) and in any two documents
  whose trees have the same redaction, up to the line of an unknown key at the root,
  which is looked up in the text (`map_analyze_congr`).
-/
import WorkflowLint.Proofs.Tree.Redact
import WorkflowLint.Rule.Structure

namespace WorkflowLint

/-! ### Trees with other labels -/

/-- A finding on another line; a finding without a line stays as it is. -/
def Diagnostic.moveLine (move : Int → Int) (diagnostic : Diagnostic) : Diagnostic :=
  { diagnostic with line := diagnostic.line.map move }

theorem Diagnostic.map_moveLine_id (findings : List Diagnostic) :
    findings.map (Diagnostic.moveLine id) = findings := by
  refine (List.map_congr_left fun finding _ => ?_).trans (List.map_id findings)
  rw [moveLine, Option.map_id_fun, id, id]

/-- A job of a tree with other labels. -/
def Job.relabel (move : Int → Int) (f : Node → Node) (job : Job) : Job :=
  ⟨job.name, job.line.map move, job.entries.map (Entry.relabel move f)⟩

section Relabel

variable {move : Int → Int} {f : Node → Node} (h : Node.IsRelabelling move f)

include h

theorem Job.ofEntry?_relabel (entry : Entry Node) :
    Job.ofEntry? (entry.relabel move f) = (Job.ofEntry? entry).map (Job.relabel move f) := by
  obtain ⟨key, line, value⟩ := entry
  rw [Entry.relabel, ofEntry?]
  cases value with
  | scalar value line =>
    obtain ⟨value', hvalue⟩ := h.scalar_eq value line
    rw [hvalue]
    rfl
  | sequence items line =>
    rw [h.sequence_eq]
    rfl
  | mapping entries line =>
    rw [h.mapping_eq]
    rfl

theorem Document.jobs_relabel {document other : Document}
    (hentries : other.entries = document.entries.map (Entry.relabel move f)) :
    other.jobs = document.jobs.map (Job.relabel move f) := by
  rw [jobs, jobs, hentries, Entries.get?_relabel]
  cases Entries.get? Catalog.jobsKey document.entries with
  | none => rfl
  | some node =>
    cases node with
    | scalar value line =>
      obtain ⟨value', hvalue⟩ := h.scalar_eq value line
      rw [Option.map_some, hvalue]
      rfl
    | sequence items line =>
      rw [Option.map_some, h.sequence_eq]
      rfl
    | mapping entries line =>
      simp only [Option.map_some, h.mapping_eq, List.filterMap_map, List.map_filterMap]
      congr 1
      funext entry
      exact Job.ofEntry?_relabel h entry

theorem Job.stepsFrom_relabel (number : Nat) (items : List Node) :
    Job.stepsFrom number (items.map f) = (Job.stepsFrom number items).map fun step =>
      (step.1, step.2.map (Entry.relabel move f)) := by
  induction items generalizing number with
  | nil => rfl
  | cons item rest ih =>
    cases item with
    | scalar value line =>
      obtain ⟨value', hvalue⟩ := h.scalar_eq value line
      simp only [List.map_cons, hvalue, stepsFrom, ih]
    | sequence items line => simp only [List.map_cons, h.sequence_eq, stepsFrom, ih]
    | mapping entries line => simp only [List.map_cons, h.mapping_eq, stepsFrom, ih]

theorem Job.steps_relabel (job : Job) : (job.relabel move f).steps =
    job.steps.map fun step => (step.1, step.2.map (Entry.relabel move f)) := by
  rw [steps, steps, Job.relabel, Entries.get?_relabel]
  cases Entries.get? Catalog.stepsKey job.entries with
  | none => rfl
  | some node =>
    cases node with
    | scalar value line =>
      obtain ⟨value', hvalue⟩ := h.scalar_eq value line
      rw [Option.map_some, hvalue]
      rfl
    | sequence items line =>
      simp only [Option.map_some, h.sequence_eq]
      exact Job.stepsFrom_relabel h 1 items
    | mapping entries line =>
      rw [Option.map_some, h.mapping_eq]
      rfl

end Relabel

/-! ### Findings -/

namespace StructureRule

variable {move : Int → Int} {f : Node → Node}

/-- Findings about unknown keys that take their lines from the keys. -/
theorem map_unknownEntries_relabel (known : List Text) (entries : List (Entry Node))
    (rule : StructureRule) (severity : Severity) (message : Text → Text) :
    (unknownEntries known (entries.map (Entry.relabel move f))).map
        (fun entry => rule.finding severity (message entry.key) entry.line) =
      ((unknownEntries known entries).map
        fun entry => rule.finding severity (message entry.key) entry.line).map
          (Diagnostic.moveLine move) := by
  rw [unknownEntries, unknownEntries, List.filter_map, List.map_map, List.map_map]
  rfl

theorem jobKeyFindings_relabel (job : Job) :
    jobKeyFindings (job.relabel move f) =
      (jobKeyFindings job).map (Diagnostic.moveLine move) :=
  map_unknownEntries_relabel Catalog.jobKeys job.entries unknownJobKey .warning fun key =>
    "Unknown key \"" ++ key ++ "\" in job \"" ++ job.name ++ "\""

theorem stepKeyFindings_relabel (job : Job) (number : Nat) (entries : List (Entry Node)) :
    stepKeyFindings (job.relabel move f) number (entries.map (Entry.relabel move f)) =
      (stepKeyFindings job number entries).map (Diagnostic.moveLine move) :=
  map_unknownEntries_relabel Catalog.stepKeys entries unknownStepKey .warning fun key =>
    "Unknown key \"" ++ key ++ "\" in step " ++ Text.ofNat number ++ " of job \"" ++ job.name
      ++ "\""

theorem runnerFindings_relabel (job : Job) :
    runnerFindings (job.relabel move f) =
      (runnerFindings job).map (Diagnostic.moveLine move) := by
  rw [runnerFindings, runnerFindings, Job.relabel, Entries.has_relabel, Entries.has_relabel]
  split <;> rfl

theorem missingSection_relabel (rule : StructureRule) (key message : Text)
    {document other : Document}
    (hentries : other.entries = document.entries.map (Entry.relabel move f)) :
    rule.missingSection key message other =
      (rule.missingSection key message document).map (Diagnostic.moveLine move) := by
  rw [missingSection, missingSection, hentries, Entries.has_relabel]
  split <;> rfl

/-- In a document whose tree has other labels, structure rules find the same on the lines as they
    have been moved, if the search for a key and the rule on outdated actions, which go through
    the lines of the text, do so. -/
theorem analyze_relabel (h : Node.IsRelabelling move f) (rule : StructureRule)
    {document other : Document} (htree : other.outline.tree = f document.outline.tree)
    (hkeys : ∀ key, other.findKeyLine? key = (document.findKeyLine? key).map move)
    (hlines : deprecationsFrom 1 other.lines =
      (deprecationsFrom 1 document.lines).map (Diagnostic.moveLine move)) :
    rule.analyze other = (rule.analyze document).map (Diagnostic.moveLine move) := by
  have hentries : other.entries = document.entries.map (Entry.relabel move f) := by
    rw [Document.entries, htree, h.entries_eq]
    rfl
  have hjobs := Document.jobs_relabel h hentries
  cases rule with
  | missingTrigger => exact missingSection_relabel _ _ _ hentries
  | missingJobs => exact missingSection_relabel _ _ _ hentries
  | unknownTopLevelKey =>
    rw [analyze, analyze, hentries, unknownEntries, unknownEntries, List.filter_map, List.map_map,
      List.map_map]
    refine List.map_congr_left fun entry _ => ?_
    show unknownTopLevelKey.finding .warning _ (other.findKeyLine? entry.key) = _
    rw [hkeys]
    rfl
  | deprecatedAction => exact hlines
  | unknownJobKey =>
    rw [analyze, analyze, hjobs, List.flatMap_map, List.map_flatMap]
    simp only [jobKeyFindings_relabel]
  | missingRunsOn =>
    rw [analyze, analyze, hjobs, List.flatMap_map, List.map_flatMap]
    simp only [runnerFindings_relabel]
  | unknownStepKey =>
    rw [analyze, analyze, hjobs, List.flatMap_map, List.map_flatMap]
    simp only [Job.steps_relabel h, List.flatMap_map, List.map_flatMap, stepKeyFindings_relabel]

end StructureRule

/-! ### Redacted documents -/

variable (hidden : Int → Bool)

/-- A document with the strings from hidden lines blanked in its tree. -/
def Document.redact (document : Document) : Document :=
  { document with outline := ⟨document.outline.tree.redact hidden, []⟩ }

namespace StructureRule

/-- No structure rule looks at a string. -/
theorem analyze_redact (rule : StructureRule) (document : Document) :
    rule.analyze (document.redact hidden) = rule.analyze document := by
  have hkeys (key : Text) : (document.redact hidden).findKeyLine? key =
      (document.findKeyLine? key).map fun line => line := Option.map_id'.symm
  have hlines := (Diagnostic.map_moveLine_id (deprecationsFrom 1 document.lines)).symm
  have hanalyze := rule.analyze_relabel (Node.isRelabelling_redact hidden) rfl hkeys hlines
  rwa [Diagnostic.map_moveLine_id] at hanalyze

/-- A finding without its line, if it is about an unknown key at the root. -/
def unplaced (diagnostic : Diagnostic) : Diagnostic :=
  if diagnostic.ruleId = some unknownTopLevelKey.id then { diagnostic with line := none }
  else diagnostic

/-- Structure rules other than the one on outdated actions find the same in documents whose
    trees have the same redaction, up to the line of an unknown key at the root. -/
theorem map_analyze_congr {rule : StructureRule} (hrule : rule ≠ .deprecatedAction)
    {document other : Document}
    (h : document.outline.tree.redact hidden = other.outline.tree.redact hidden) :
    (rule.analyze document).map unplaced = (rule.analyze other).map unplaced := by
  have htree : (document.redact hidden).outline = (other.redact hidden).outline := by
    rw [Document.redact, Document.redact, h]
  have hentries : (document.redact hidden).entries = (other.redact hidden).entries := by
    rw [Document.entries, Document.entries, htree]
  have hjobs : (document.redact hidden).jobs = (other.redact hidden).jobs := by
    rw [Document.jobs, Document.jobs, hentries]
  rw [← analyze_redact hidden rule document, ← analyze_redact hidden rule other]
  cases rule with
  | missingTrigger => rw [analyze, analyze, missingSection, missingSection, hentries]
  | missingJobs => rw [analyze, analyze, missingSection, missingSection, hentries]
  | unknownTopLevelKey =>
    rw [analyze, analyze, List.map_map, List.map_map, hentries]
    rfl
  | deprecatedAction => exact absurd rfl hrule
  | unknownJobKey => rw [analyze, analyze, hjobs]
  | missingRunsOn => rw [analyze, analyze, hjobs]
  | unknownStepKey => rw [analyze, analyze, hjobs]

end StructureRule

end WorkflowLint
