/-
  WorkflowLint/Proofs/Rule/Registry.lean
  ======================================
  **What a registry remembers.**

  A registry is told about rules and asked for rules in any order.  What it answers
  can be read off the requests before: it holds the rules that were registered since
  it was last cleared, each where it was registered first (`rules_after`).  To ask
  changes nothing, except that the first to ask an empty registry has all rules
  registered.
-/
import WorkflowLint.Proofs.Repetition
import WorkflowLint.Rule.Registry

namespace WorkflowLint.Registry

/-! ### Requests and replies -/

/-- What can be asked of a registry.  An evaluation may bring its own rules. -/
inductive Request where
  | clear
  | register (rule : Rule)
  | registerAll
  | lookup (stage : Option Stage)
  | evaluate (rules : Option (List Rule)) (strict : Bool) (document : Document)

/-- What comes back. -/
inductive Reply where
  | done
  | rules (rules : List Rule)
  | evaluated (evaluation : Evaluation)
deriving DecidableEq, Repr

/-- The reply to a request, and the registry after it. -/
def answer (registry : Registry) : Request → Reply × Registry
  | .clear => (.done, empty)
  | .register rule => (.done, registry.register rule)
  | .registerAll => (.done, registry.registerAll)
  | .lookup stage => (.rules (registry.select stage), registry.populated)
  | .evaluate none strict document =>
    let (evaluation, registry) := registry.evaluate strict document
    (.evaluated evaluation, registry)
  | .evaluate (some rules) strict document =>
    (.evaluated (document.evaluate strict rules), registry)

/-- The registry after a history of requests. -/
def after (registry : Registry) (history : List Request) : Registry :=
  history.foldl (fun registry request => (registry.answer request).2) registry

/-- The replies to requests one after the other. -/
def replies (registry : Registry) : List Request → List Reply
  | [] => []
  | request :: rest =>
    (registry.answer request).1 :: replies (registry.answer request).2 rest

/-- Whether a request is a lookup or an evaluation. -/
def Request.isQuery : Request → Bool
  | .lookup _ => true
  | .evaluate _ _ _ => true
  | _ => false

/-- Whether a request asks for the rules that are registered: an evaluation does, unless it has
    its own rules or there is nothing to evaluate. -/
def Request.asks : Request → Bool
  | .lookup _ => true
  | .evaluate rules _ document => rules.isNone && !Text.allBlank document.text
  | _ => false

/-- What has been registered after one more request, in order and with all repetitions.  The
    first to ask for rules has all of them registered. -/
def Request.record (registered : List Rule) (request : Request) : List Rule :=
  match request with
  | .clear => []
  | .register rule => registered ++ [rule]
  | .registerAll => registered ++ Rule.all
  | .lookup _ | .evaluate _ _ _ =>
    if registered.isEmpty && request.asks then Rule.all else registered

/-- What has been registered in a history since the last time that the registry was cleared. -/
def registered (history : List Request) : List Rule := history.foldl Request.record []

/-! ### One request -/

variable {registry : Registry} {listed : List Rule} {request : Request}

/-- A query leaves a registry as it is, or it is the first to ask for rules and has all of them
    registered. -/
theorem answer_of_isQuery (h : request.isQuery = true) :
    (registry.answer request).2 =
      if registry.rules.isEmpty && request.asks then registry.registerAll else registry := by
  cases request with
  | lookup stage =>
    rw [Request.asks, Bool.and_true]
    rfl
  | evaluate rules strict document =>
    rw [Request.asks]
    cases rules with
    | some rules => simp [answer]
    | none =>
      rw [answer, evaluate]
      cases Text.allBlank document.text with
      | true => simp
      | false => simp [populated]
  | clear => cases h
  | register rule => cases h
  | registerAll => cases h

theorem record_of_isQuery (h : request.isQuery = true) :
    request.record listed = if listed.isEmpty && request.asks then Rule.all else listed := by
  cases request with
  | lookup stage => rfl
  | evaluate rules strict document => rfl
  | clear => cases h
  | register rule => cases h
  | registerAll => cases h

theorem rules_register (h : registry.rules = listed.eraseDups) (rule : Rule) :
    (registry.register rule).rules = (listed ++ [rule]).eraseDups := by
  rw [register, h, eraseDups_concat]
  simp only [List.mem_eraseDups]
  split
  · exact h
  · rfl

theorem rules_foldl_register (h : registry.rules = listed.eraseDups) (rules : List Rule) :
    (rules.foldl register registry).rules = (listed ++ rules).eraseDups := by
  induction rules generalizing registry listed with
  | nil =>
    rw [List.append_nil]
    exact h
  | cons rule rules ih =>
    rw [List.foldl_cons, List.append_cons]
    exact ih (rules_register h rule)

/-- A registry that holds what has been registered, without its repetitions, does so after one
    more request. -/
theorem rules_answer (h : registry.rules = listed.eraseDups) (request : Request) :
    (registry.answer request).2.rules = (request.record listed).eraseDups := by
  by_cases hquery : request.isQuery = true
  · rw [answer_of_isQuery hquery, record_of_isQuery hquery, h, isEmpty_eraseDups]
    split
    · rename_i hfirst
      rw [Bool.and_eq_true, List.isEmpty_iff] at hfirst
      rw [hfirst.1] at h
      exact rules_foldl_register h Rule.all
    · exact h
  · cases request with
    | clear => rfl
    | register rule =>
      rw [Request.record]
      exact rules_register h rule
    | registerAll =>
      rw [Request.record]
      exact rules_foldl_register h Rule.all
    | lookup stage => exact absurd rfl hquery
    | evaluate rules strict document => exact absurd rfl hquery

/-! ### A history of requests -/

/-- What a registry holds is what has been registered since it was last cleared, each rule where
    it was registered first. -/
theorem rules_after (history : List Request) :
    (empty.after history).rules = (registered history).eraseDups := by
  have hrun (registry : Registry) (listed : List Rule) (h : registry.rules = listed.eraseDups) :
      (registry.after history).rules = (history.foldl Request.record listed).eraseDups := by
    induction history generalizing registry listed with
    | nil => exact h
    | cons request rest ih => exact ih _ _ (rules_answer h request)
  exact hrun empty [] rfl

/-- The rules of the three stages are all rules. -/
theorem perm_stages (rules : List Rule) :
    ((rules.filter fun rule => rule.stage == .layout) ++
      (rules.filter fun rule => rule.stage == .document) ++
      (rules.filter fun rule => rule.stage == .content)).Perm rules := by
  induction rules with
  | nil => exact .nil
  | cons rule rules ih =>
    cases hstage : rule.stage with
    | layout => simpa [List.filter_cons, hstage] using ih
    | document =>
      rw [List.append_assoc] at ih
      simpa [List.filter_cons, hstage] using List.perm_middle.trans (ih.cons rule)
    | content =>
      simpa [List.filter_cons, hstage] using List.perm_middle.trans (ih.cons rule)

/-- A registry answers by the rules that have been registered since it was last cleared, a lookup
    counting as the registration of all rules where nothing is registered.  Each of these rules is
    there once, at the place of its first registration, and belongs to one of the stages.  Queries
    have no effect on later replies otherwise. -/
theorem answer_after (history : List Request) :
    let registry := empty.after history
    let rules := (registered (history ++ [.lookup none])).eraseDups
    (registry.answer (.lookup none)).1 = .rules rules ∧
      (∀ stage, (registry.answer (.lookup (some stage))).1 =
        .rules (rules.filter fun rule => rule.stage == stage)) ∧
      rules.Nodup ∧
      ((rules.filter fun rule => rule.stage == .layout) ++
        (rules.filter fun rule => rule.stage == .document) ++
        (rules.filter fun rule => rule.stage == .content)).Perm rules ∧
      (∀ strict document, (registry.answer (.evaluate none strict document)).1 =
        .evaluated (document.evaluate strict rules)) ∧
      ∀ request later, request.isQuery = true →
        (registry.answer request).2.replies later =
          (if (registered history).isEmpty && request.asks then registry.registerAll
            else registry).replies later := by
  intro registry rules
  have hrules : registry.populated.rules = rules := by
    have hafter := rules_after (history ++ [.lookup none])
    rwa [after, List.foldl_append] at hafter
  refine ⟨?_, fun stage => ?_, nodup_eraseDups _, perm_stages rules, fun strict document => ?_,
    fun request later hquery => ?_⟩
  · rw [answer, select, hrules]
    simp
  · rw [answer, select, hrules]
    rfl
  · have hevaluate : (registry.evaluate strict document).1 = document.evaluate strict rules := by
      rw [evaluate, hrules, Document.evaluate]
      split
      · rfl
      · rfl
    exact congrArg Reply.evaluated hevaluate
  · rw [answer_of_isQuery hquery, rules_after, isEmpty_eraseDups]

/-- A rule that was registered first stays in front of those of its stage, and nothing is left of
    the rules from before the registry was cleared. -/
theorem answer_after_cleared :
    let history : List Request := [.lookup none, .clear, .register (.layout .doubleColon)]
    let request : Request := .lookup (some .content)
    let later : List Request := [.lookup none, .registerAll, .lookup (some .layout)]
    request.isQuery = true ∧
      ((empty.after history).answer request).2.replies later =
        [.rules [.layout .doubleColon], .done,
          .rules [.layout .doubleColon, .layout .tabIndentation, .layout .trailingWhitespace]] := by
  intro history request later
  obtain ⟨-, -, -, -, -, hlater⟩ := answer_after history
  exact ⟨rfl, (hlater request later rfl).trans (by decide +kernel)⟩

end WorkflowLint.Registry
