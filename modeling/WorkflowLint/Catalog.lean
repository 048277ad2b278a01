/-
  WorkflowLint/Catalog.lean
  =========================
  **What is known about workflows.**

  The keys that a workflow, a job and a step may have, and the action references
  that are out of date with what replaces them.
-/
import WorkflowLint.Text.Basic

namespace WorkflowLint.Catalog

/-! ### Keys -/

/-- The key of what starts a workflow. -/
def triggerKey : Text := "on"

/-- The key of the jobs of a workflow. -/
def jobsKey : Text := "jobs"

/-- The key of the steps of a job. -/
def stepsKey : Text := "steps"

/-- The key of the runner of a job. -/
def runnerKey : Text := "runs-on"

/-- The key of a called action or workflow. -/
def usesKey : Text := "uses"

/-- The keys of a workflow. -/
def workflowKeys : List Text :=
  ["name", "on", "env", "defaults", "concurrency", "jobs", "permissions", "run-name"]

/-- The keys of a job. -/
def jobKeys : List Text :=
  ["name", "needs", "runs-on", "permissions", "environment", "concurrency", "outputs", "env",
   "defaults", "if", "steps", "timeout-minutes", "strategy", "continue-on-error", "container",
   "services", "uses", "with", "secrets"]

/-- The keys of a step. -/
def stepKeys : List Text :=
  ["name", "id", "if", "uses", "run", "with", "env", "continue-on-error", "timeout-minutes",
   "shell", "working-directory"]

/-! ### Outdated actions -/

/-- An outdated action reference and the one to use instead. -/
structure Deprecation where
  outdated : Text
  replacement : Text
deriving DecidableEq, Repr

/-- An action with its outdated major versions and its current one. -/
structure Action where
  name : Text
  outdated : List Text
  current : Text
deriving DecidableEq, Repr

/-- The actions whose major versions are known. -/
def actions : List Action :=
  [⟨"actions/checkout", ["v1", "v2", "v3"], "v4"⟩,
   ⟨"actions/setup-node", ["v1", "v2", "v3"], "v4"⟩,
   ⟨"actions/setup-python", ["v1", "v2", "v3", "v4"], "v5"⟩,
   ⟨"actions/setup-java", ["v1", "v2", "v3"], "v4"⟩,
   ⟨"actions/upload-artifact", ["v1", "v2", "v3"], "v4"⟩,
   ⟨"actions/download-artifact", ["v1", "v2", "v3"], "v4"⟩,
   ⟨"actions/cache", ["v1", "v2", "v3"], "v4"⟩]

/-- The reference of a version of an action. -/
def reference (name version : Text) : Text := name ++ "@" ++ version

/-- The outdated references of an action. -/
def Action.deprecations (action : Action) : List Deprecation :=
  action.outdated.map fun version =>
    ⟨reference action.name version, reference action.name action.current⟩

/-- All outdated references. -/
def deprecations : List Deprecation := actions.flatMap Action.deprecations

/-- The deprecation of exactly this reference. -/
def deprecation? (action : Text) : Option Deprecation :=
  deprecations.find? fun entry => entry.outdated = action

end WorkflowLint.Catalog
