/-
  WorkflowLint/Rule/Structure.lean
  ================================
  **Rules on the structure of a document.**

  Structure rules look at the tree of a document: which sections it has, and
  which keys its jobs and steps have.  Outdated actions are found on the raw
  lines, so that each occurrence is reported where it stands; their fix replaces
  the reference only.
-/
import WorkflowLint.Catalog
import WorkflowLint.Diagnostic
import WorkflowLint.Document
import WorkflowLint.Line.Uses

namespace WorkflowLint

/-- The rules on the structure of a document. -/
inductive StructureRule where
  | missingTrigger
  | missingJobs
  | unknownTopLevelKey
  | deprecatedAction
  | unknownJobKey
  | missingRunsOn
  | unknownStepKey
deriving DecidableEq, Repr

/-- A job: its name, the line of its name, and its entries. -/
structure Job where
  name : Text
  line : Option Int
  entries : List (Entry Node)
deriving Repr

/-- The job of an entry whose value is a mapping. -/
def Job.ofEntry? (entry : Entry Node) : Option Job :=
  match entry.value with
  | .mapping entries _ => some ⟨entry.key, entry.line, entries⟩
  | _ => none

/-- The jobs of a document that are mappings, in order. -/
def Document.jobs (document : Document) : List Job :=
  match Entries.get? Catalog.jobsKey document.entries with
  | some (.mapping entries _) => entries.filterMap Job.ofEntry?
  | _ => []

/-- The items of the `steps` of a job with their numbers from `number` on; only
    items that are mappings are kept. -/
def Job.stepsFrom (number : Nat) : List Node → List (Nat × List (Entry Node))
  | [] => []
  | .mapping entries _ :: rest => (number, entries) :: stepsFrom (number + 1) rest
  | _ :: rest => stepsFrom (number + 1) rest

/-- The steps of a job that are mappings, with their numbers among all items. -/
def Job.steps (job : Job) : List (Nat × List (Entry Node)) :=
  match Entries.get? Catalog.stepsKey job.entries with
  | some (.sequence items _) => stepsFrom 1 items
  | _ => []

/-- The entries whose keys are not among `known`. -/
def unknownEntries (known : List Text) (entries : List (Entry Node)) : List (Entry Node) :=
  entries.filter fun entry => entry.key ∉ known

namespace StructureRule

/-- The identifier of a rule. -/
def id : StructureRule → Text
  | .missingTrigger => "structure/missing-on"
  | .missingJobs => "structure/missing-jobs"
  | .unknownTopLevelKey => "structure/unknown-top-level-key"
  | .deprecatedAction => "actions/deprecated"
  | .unknownJobKey => "structure/unknown-job-key"
  | .missingRunsOn => "structure/missing-runs-on"
  | .unknownStepKey => "structure/unknown-step-key"

/-- What a rule checks. -/
def description : StructureRule → Text
  | .missingTrigger => "Workflows must declare an 'on' trigger"
  | .missingJobs => "Workflows must declare a 'jobs' section"
  | .unknownTopLevelKey => "Top-level keys outside the workflow schema"
  | .deprecatedAction => "Outdated major versions of official actions"
  | .unknownJobKey => "Job keys outside the job schema"
  | .missingRunsOn => "Jobs must declare 'runs-on' (or call a reusable workflow)"
  | .unknownStepKey => "Step keys outside the step schema"

/-- A finding of a rule without a fix. -/
def finding (rule : StructureRule) (severity : Severity) (message : Text) (line : Option Int) :
    Diagnostic :=
  { severity := severity, message := message, line := line, ruleId := some rule.id }

/-- The finding about a section that is missing at the root. -/
def missingSection (rule : StructureRule) (key : Text) (message : Text) (document : Document) :
    List Diagnostic :=
  if Entries.has key document.entries then [] else [rule.finding .error message none]

/-- The deprecation that a line calls for. -/
def deprecationOn? (line : Text) : Option Catalog.Deprecation :=
  (Line.usesReference? line).bind Catalog.deprecation?

/-- The finding about an outdated action on line `number`. -/
def deprecationFinding (number : Int) (entry : Catalog.Deprecation) : Diagnostic :=
  { severity := .warning
    message := "Deprecated action: " ++ entry.outdated ++ ". Use " ++ entry.replacement
      ++ " instead."
    line := some number
    fix := some entry.replacement
    ruleId := some deprecatedAction.id
    target := some entry.outdated }

/-- The findings about outdated actions on the lines from line `number` on. -/
def deprecationsFrom (number : Int) : List Text → List Diagnostic
  | [] => []
  | line :: rest =>
    ((deprecationOn? line).map (deprecationFinding number)).toList
      ++ deprecationsFrom (number + 1) rest

/-- The findings about the keys of a job. -/
def jobKeyFindings (job : Job) : List Diagnostic :=
  (unknownEntries Catalog.jobKeys job.entries).map fun entry =>
    unknownJobKey.finding .warning
      ("Unknown key \"" ++ entry.key ++ "\" in job \"" ++ job.name ++ "\"") entry.line

/-- The finding about a job that names no runner and calls no workflow. -/
def runnerFindings (job : Job) : List Diagnostic :=
  if Entries.has Catalog.runnerKey job.entries || Entries.has Catalog.usesKey job.entries then []
  else
    [missingRunsOn.finding .error
      ("Job \"" ++ job.name ++ "\" is missing required 'runs-on'") job.line]

/-- The findings about the keys of one step of a job. -/
def stepKeyFindings (job : Job) (number : Nat) (entries : List (Entry Node)) : List Diagnostic :=
  (unknownEntries Catalog.stepKeys entries).map fun entry =>
    unknownStepKey.finding .warning
      ("Unknown key \"" ++ entry.key ++ "\" in step " ++ Text.ofNat number ++ " of job \""
        ++ job.name ++ "\"") entry.line

/-- The findings of a rule on a document. -/
def analyze : StructureRule → Document → List Diagnostic
  | .missingTrigger, document =>
    missingTrigger.missingSection Catalog.triggerKey "Missing required 'on' trigger" document
  | .missingJobs, document =>
    missingJobs.missingSection Catalog.jobsKey "Missing required 'jobs' section" document
  | .unknownTopLevelKey, document =>
    (unknownEntries Catalog.workflowKeys document.entries).map fun entry =>
      unknownTopLevelKey.finding .warning ("Unknown top-level key: \"" ++ entry.key ++ "\"")
        (document.findKeyLine? entry.key)
  | .deprecatedAction, document => deprecationsFrom 1 document.lines
  | .unknownJobKey, document => document.jobs.flatMap jobKeyFindings
  | .missingRunsOn, document => document.jobs.flatMap runnerFindings
  | .unknownStepKey, document =>
    document.jobs.flatMap fun job =>
      job.steps.flatMap fun (number, entries) => stepKeyFindings job number entries

end StructureRule

end WorkflowLint
