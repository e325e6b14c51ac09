import Kurobara.Kernel.Run.Lifecycle

/-! # Creating a Run from its plan

`createRunFromPlan`: the checks that a plan and its authority must pass before a Run
is queued, and the Run with its first event.
-/

namespace Kurobara.Kernel

/-- The event of a Run's creation. -/
structure RunQueued where
  eventId : EventId
  runId : RunId
  runPlanId : RunPlanId
  workspaceId : WorkspaceId
  occurredAt : Instant
  actorId : ActorId
  correlationId : CorrelationId
  deriving DecidableEq, Repr

inductive CreateRunFailureCode where
  | workspaceMismatch
  | authoritySubjectMismatch
  | authorityVersionUnsupported
  | quoteExpired
  | deadlineElapsed
  | invalidBudget
  | quoteUnitMismatch
  | authorityCapabilityMissing
  | authorityPermissionMissing
  deriving DecidableEq, Repr

def CreateRunFailureCode.text : CreateRunFailureCode → String
  | .workspaceMismatch => "workspace-mismatch"
  | .authoritySubjectMismatch => "authority-subject-mismatch"
  | .authorityVersionUnsupported => "authority-version-unsupported"
  | .quoteExpired => "quote-expired"
  | .deadlineElapsed => "deadline-elapsed"
  | .invalidBudget => "invalid-budget"
  | .quoteUnitMismatch => "quote-unit-mismatch"
  | .authorityCapabilityMissing => "authority-capability-missing"
  | .authorityPermissionMissing => "authority-permission-missing"

structure CreateRunFailure where
  code : CreateRunFailureCode
  message : String
  deriving DecidableEq, Repr

/-- The input of `createRunFromPlan`. -/
structure CreateRunInput where
  plan : RunPlan
  runId : RunId
  eventId : EventId
  now : Instant
  actorId : ActorId
  correlationId : CorrelationId
  idempotencyKey : IdempotencyKey
  intentionHash : ContentHash
  requiredPermission : String

/-- The created Run with its event. -/
structure CreateRunDecision where
  run : Run
  event : RunQueued
  deriving DecidableEq, Repr

/-- The Run's budget is well formed and within the authority's. -/
def runBudgetIsValid (budget authorityBudget : BudgetLimit) : Bool :=
  isAmount budget.limit && isAmount budget.spent && isAmount budget.reserved &&
    decide (budget.spent + budget.reserved ≤ budget.limit) &&
    budget.unit == authorityBudget.unit && decide (budget.limit ≤ authorityBudget.limit)

private def authorityCoversWorkflow (authority : AuthorityEnvelope) (workflow : CompiledWorkflow) :
    Bool :=
  workflow.nodes.all fun node => authority.capabilities.any fun authorizedCapability =>
    capabilityMatches node.capability authorizedCapability

/-- The Run a plan starts. -/
def queuedRun (input : CreateRunInput) : Run where
  runId := input.runId
  runPlanId := input.plan.runPlanId
  workspaceId := input.plan.workspaceId
  state := .queued
  aggregateVersion := 1
  eventSequence := 1
  resultCompleteness := .none
  createdAt := input.now
  idempotencyKey := input.idempotencyKey
  intentionHash := input.intentionHash
  pendingStopReason := none
  resultManifest := none

def runQueuedEvent (input : CreateRunInput) : RunQueued where
  eventId := input.eventId
  runId := input.runId
  runPlanId := input.plan.runPlanId
  workspaceId := input.plan.workspaceId
  occurredAt := input.now
  actorId := input.actorId
  correlationId := input.correlationId

/-- `createRunFromPlan`: the queued Run, or the failure of the first check. -/
def createRunFromPlan (input : CreateRunInput) : Except CreateRunFailure CreateRunDecision :=
  let plan := input.plan
  if plan.workspaceId != plan.authority.workspaceId then
    .error ⟨.workspaceMismatch,
      "The plan and authority envelope belong to different workspaces."⟩
  else if input.actorId != plan.authority.subjectActorId then
    .error ⟨.authoritySubjectMismatch,
      "The authenticated actor is not the authority envelope subject."⟩
  else if !isSupportedAuthorityEnvelopeVersion plan.authority.version then
    .error ⟨.authorityVersionUnsupported, "The authority envelope version is not supported."⟩
  else if plan.quote.expiresAt ≤ input.now then
    .error ⟨.quoteExpired, "The plan quote has expired."⟩
  else if plan.deadline ≤ input.now || plan.authority.deadline ≤ input.now then
    .error ⟨.deadlineElapsed, "The plan deadline has elapsed."⟩
  else if !runBudgetIsValid plan.budget plan.authority.budgetLimit then
    .error ⟨.invalidBudget, "The plan budget is invalid or exceeds the authority budget."⟩
  else if plan.quote.unit != plan.budget.unit then
    .error ⟨.quoteUnitMismatch, "The quote and budget must use the same unit."⟩
  else if !authorityCoversWorkflow plan.authority plan.compiledWorkflow then
    .error ⟨.authorityCapabilityMissing,
      "The authority envelope does not cover every workflow capability."⟩
  else if !plan.authority.permissions.contains input.requiredPermission then
    .error ⟨.authorityPermissionMissing,
      s!"The authority envelope is missing permission {input.requiredPermission}."⟩
  else .ok ⟨queuedRun input, runQueuedEvent input⟩

/-- What a plan must satisfy to create a Run at an instant for an actor. -/
structure RunIsAdmitted (input : CreateRunInput) : Prop where
  workspace : input.plan.workspaceId = input.plan.authority.workspaceId
  subject : input.actorId = input.plan.authority.subjectActorId
  version : isSupportedAuthorityEnvelopeVersion input.plan.authority.version = true
  quote : input.now < input.plan.quote.expiresAt
  deadline : input.now < input.plan.deadline
  authorityDeadline : input.now < input.plan.authority.deadline
  budget : runBudgetIsValid input.plan.budget input.plan.authority.budgetLimit = true
  unit : input.plan.quote.unit = input.plan.budget.unit
  capabilities : authorityCoversWorkflow input.plan.authority input.plan.compiledWorkflow = true
  permission : input.plan.authority.permissions.contains input.requiredPermission = true

theorem createRunFromPlan_of_admitted {input : CreateRunInput} (admitted : RunIsAdmitted input) :
    createRunFromPlan input = .ok ⟨queuedRun input, runQueuedEvent input⟩ := by
  have quote := not_le.mpr admitted.quote
  have deadline := not_le.mpr admitted.deadline
  have authorityDeadline := not_le.mpr admitted.authorityDeadline
  unfold createRunFromPlan
  simp only [admitted.workspace, admitted.subject, admitted.version, admitted.budget,
    admitted.unit, admitted.capabilities, admitted.permission, quote, deadline,
    authorityDeadline, bne_self_eq_false, Bool.not_true, Bool.false_eq_true, decide_false,
    Bool.or_false, if_false]

/-- An accepted creation is the queued Run with its event. -/
theorem createRunFromPlan_ok {input : CreateRunInput} {decision : CreateRunDecision}
    (accepted : createRunFromPlan input = .ok decision) :
    decision = ⟨queuedRun input, runQueuedEvent input⟩ := by
  unfold createRunFromPlan at accepted
  dsimp only at accepted
  repeat (split at accepted; · cases accepted)
  cases accepted
  rfl

/-- A Run is created within a valid budget only. -/
theorem createRunFromPlan_budget {input : CreateRunInput} {decision : CreateRunDecision}
    (accepted : createRunFromPlan input = .ok decision) :
    runBudgetIsValid input.plan.budget input.plan.authority.budgetLimit = true := by
  unfold createRunFromPlan at accepted
  dsimp only at accepted
  by_contra invalid
  rw [Bool.not_eq_true] at invalid
  simp only [invalid, Bool.not_false, if_true] at accepted
  repeat (split at accepted; · cases accepted)
  cases accepted

end Kurobara.Kernel
