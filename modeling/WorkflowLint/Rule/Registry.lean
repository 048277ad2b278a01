/-
  WorkflowLint/Rule/Registry.lean
  ===============================
  **A registry of rules.**

  A registry holds rules in the order in which they were first registered.  A
  registry in which nothing is registered gets all rules as soon as it is asked
  for any.  A rule is made when it is first asked for and kept until the registry is
  cleared.  The rules that were made are no part of the state here: a rule keeps
  nothing from one document to the next, so one that was kept and a new one give the
  same answers, and what a registry hands out are the rules themselves.
-/
import WorkflowLint.Evaluation

namespace WorkflowLint

/-- The registered rules in order. -/
structure Registry where
  rules : List Rule
deriving DecidableEq, Repr

namespace Registry

/-- The registry without rules. -/
def empty : Registry := ⟨[]⟩

/-- Registers a rule; a rule that is registered keeps its place. -/
def register (registry : Registry) (rule : Rule) : Registry :=
  if rule ∈ registry.rules then registry else ⟨registry.rules ++ [rule]⟩

/-- Registers all rules in their usual order. -/
def registerAll (registry : Registry) : Registry := Rule.all.foldl register registry

/-- The registry as it is once it has been asked for rules. -/
def populated (registry : Registry) : Registry :=
  if registry.rules.isEmpty then registry.registerAll else registry

/-- The rules of a stage, or of all stages. -/
def select (registry : Registry) (stage : Option Stage) : List Rule :=
  registry.populated.rules.filter fun rule => stage.all fun stage => rule.stage == stage

/-- Runs the registered rules against a document.  An empty document asks for no
    rules, so the registry is left as it is. -/
def evaluate (registry : Registry) (strict : Bool) (document : Document) :
    Evaluation × Registry :=
  if Text.allBlank document.text then (.empty, registry)
  else (document.evaluate strict registry.populated.rules, registry.populated)

end Registry

end WorkflowLint
