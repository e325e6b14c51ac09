import Kurobara.Engine.CompileWorkflow
import Kurobara.Engine.EvaluatePolicy
import Kurobara.Kernel.Run.Routing

/-! # Preparing a Run plan

`prepareRunPlanDraft`: the workflow is compiled, every node of it is admitted by the
policy, and the routes are validated. The draft of a plan is the plan without its hash.
-/

namespace Kurobara.Application

open Engine Kernel

/-- A Run plan before its hash. -/
structure RunPlanDraft where
  runPlanId : RunPlanId
  workspaceId : WorkspaceId
  normalizedInputHash : ContentHash
  catalogVersion : String
  catalogFingerprint : ContentHash
  compiledWorkflow : CompiledWorkflow
  inputContract : ContractRef
  outputContract : ContractRef
  policyVersion : String
  policyFactsHash : ContentHash
  retryPolicy : RetryPolicy
  routeSnapshots : List RunPlanRouteSnapshot
  quote : CostQuote
  budget : BudgetLimit
  deadline : Instant
  authority : AuthorityEnvelope
  deriving DecidableEq, Repr

/-- The plan of a draft under the hash of its canonical form. -/
def RunPlanDraft.withHash (draft : RunPlanDraft) (planHash : ContentHash) : RunPlan where
  runPlanId := draft.runPlanId
  workspaceId := draft.workspaceId
  planHash := planHash
  normalizedInputHash := draft.normalizedInputHash
  catalogVersion := draft.catalogVersion
  catalogFingerprint := draft.catalogFingerprint
  compiledWorkflow := draft.compiledWorkflow
  inputContract := draft.inputContract
  outputContract := draft.outputContract
  policyVersion := draft.policyVersion
  policyFactsHash := draft.policyFactsHash
  retryPolicy := draft.retryPolicy
  routeSnapshots := some draft.routeSnapshots
  quote := draft.quote
  budget := draft.budget
  deadline := draft.deadline
  authority := draft.authority

/-- The input of `prepareRunPlanDraft`. -/
structure PrepareRunPlanDraftInput where
  runPlanId : RunPlanId
  workspaceId : WorkspaceId
  normalizedInputHash : ContentHash
  catalogVersion : String
  catalogFingerprint : ContentHash
  inputContract : ContractRef
  outputContract : ContractRef
  workflow : WorkflowSpec
  allowedCapabilities : List String
  compilationLimits : WorkflowCompilationLimits
  compilerVersion : String
  policy : PolicySnapshot
  retryPolicy : RetryPolicy
  actorPermissions : List String
  authority : AuthorityEnvelope
  quote : CostQuote
  routeSnapshots : List RunPlanRouteSnapshot
  budget : BudgetLimit
  deadline : Instant
  now : Instant

inductive PrepareRunPlanFailure where
  | workflowRejected (compilation : WorkflowCompilationFailure)
  | routingRejected (reason : String)
  | policyDenied (reasonCodes : List PolicyReasonCode)
  deriving DecidableEq, Repr

private def evaluateNode (input : PrepareRunPlanDraftInput) (node : CompiledWorkflowNode) :
    Except PrepareRunPlanFailure Unit :=
  let decision := evaluatePolicy input.policy {
    workspaceId := input.workspaceId
    capability := node.capability
    actorPermissions := input.actorPermissions
    authority := input.authority
    now := input.now }
  if !decision.allowed then .error (.policyDenied decision.reasonCodes) else .ok ()

/-- The draft that the compiled workflow and the routes give. -/
def draftOf (input : PrepareRunPlanDraftInput) (compiled : CompiledWorkflow)
    (routes : List RunPlanRouteSnapshot) : RunPlanDraft where
  runPlanId := input.runPlanId
  workspaceId := input.workspaceId
  normalizedInputHash := input.normalizedInputHash
  catalogVersion := input.catalogVersion
  catalogFingerprint := input.catalogFingerprint
  compiledWorkflow := compiled
  inputContract := input.inputContract
  outputContract := input.outputContract
  policyVersion := input.policy.version
  policyFactsHash := input.policy.factsHash
  retryPolicy := input.retryPolicy
  routeSnapshots := routes
  quote := input.quote
  budget := input.budget
  deadline := input.deadline
  authority := input.authority

/-- `prepareRunPlanDraft`: the compiled workflow, its policy and its routes, or the first refusal.
-/
def prepareRunPlanDraft (input : PrepareRunPlanDraftInput) :
    Except PrepareRunPlanFailure RunPlanDraft :=
  match compileWorkflow input.workflow input.allowedCapabilities input.compilationLimits
    input.compilerVersion with
  | .error failure => .error (.workflowRejected failure)
  | .ok compiled =>
  match compiled.nodes.forM (evaluateNode input) with
  | .error failure => .error failure
  | .ok _ =>
  match validateRunPlanRouteSnapshots compiled input.budget input.quote input.policy.factsHash
    input.routeSnapshots input.retryPolicy with
  | .error failure => .error (.routingRejected failure.message)
  | .ok routes => .ok (draftOf input compiled routes)

/-- A draft carries the routes it was given and compiles the given workflow. -/
theorem prepareRunPlanDraft_ok {input : PrepareRunPlanDraftInput} {draft : RunPlanDraft}
    (prepared : prepareRunPlanDraft input = .ok draft) :
    ∃ compiled, compileWorkflow input.workflow input.allowedCapabilities input.compilationLimits
      input.compilerVersion = .ok compiled ∧
        draft = draftOf input compiled input.routeSnapshots := by
  unfold prepareRunPlanDraft at prepared
  split at prepared
  · cases prepared
  rename_i compiled compiledEq
  split at prepared
  · cases prepared
  split at prepared
  · cases prepared
  rename_i routes routesEq
  cases prepared
  exact ⟨compiled, compiledEq, by rw [validateRunPlanRouteSnapshots_ok routesEq]⟩

end Kurobara.Application
