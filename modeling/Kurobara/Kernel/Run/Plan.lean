import Kurobara.Kernel.Step.StepRun

/-! # Run plans, routing and cost records

The immutable plan of a Run with its compiled workflow and admitted routes, the
routing decision that selects a route for a step, and the reservation and usage
records that its attempts leave in the cost ledger.
-/

namespace Kurobara.Kernel

/-! ## Workflows -/

/-- A node of a compiled workflow. -/
structure CompiledWorkflowNode where
  key : String
  capability : CapabilityRef
  dependsOn : List String
  depth : ℕ
  humanGate : Option String
  deriving DecidableEq, Repr

/-- A compiled workflow: nodes in execution order under a fingerprint. -/
structure CompiledWorkflow where
  workflowSpecId : String
  workflowRevision : String
  workflowContentHash : ContentHash
  compilerVersion : String
  fingerprint : String
  nodes : List CompiledWorkflowNode
  deriving DecidableEq, Repr

/-! ## Plans -/

/-- How often a step may be attempted. -/
structure RetryPolicy where
  maxAttemptsPerStep : ℤ
  deriving DecidableEq, Repr

/-- A route as the plan fixed it for a node. -/
structure RunPlanRouteSnapshot where
  capability : CapabilityRef
  effectAdapterKey : String
  factsHash : ContentHash
  nodeKey : String
  pricingVersion : String
  reservableUpperBound : Amount
  reservationUnit : String
  routeKey : String
  deriving DecidableEq, Repr

/-- The plan of a Run, fixed for its whole life. -/
structure RunPlan where
  runPlanId : RunPlanId
  workspaceId : WorkspaceId
  planHash : ContentHash
  normalizedInputHash : ContentHash
  catalogVersion : String
  catalogFingerprint : ContentHash
  compiledWorkflow : CompiledWorkflow
  inputContract : ContractRef
  outputContract : ContractRef
  policyVersion : String
  policyFactsHash : ContentHash
  retryPolicy : RetryPolicy
  routeSnapshots : Option (List RunPlanRouteSnapshot)
  quote : CostQuote
  budget : BudgetLimit
  deadline : Instant
  authority : AuthorityEnvelope

/-! ## Routing and cost records -/

/-- The route that was chosen for an attempt. -/
structure RoutingDecision where
  capability : CapabilityRef
  decidedAt : Instant
  effectAdapterKey : String
  policyFactsHash : ContentHash
  policyVersion : String
  pricingVersion : String
  reservedAmount : Amount
  reservationUnit : String
  routeKey : String
  routeSnapshotHash : ContentHash
  routingDecisionId : RoutingDecisionId
  runId : RunId
  stepRunId : StepRunId
  workspaceId : WorkspaceId
  deriving DecidableEq, Repr

/-- What the ledger recorded about a reservation. -/
inductive CostReservationState where
  | reserved
  | settled (settledAmount releasedAmount : Amount) (settledAt : Instant)
      (usageEntryId : UsageEntryId)
  | released (releasedAt : Instant)
  deriving DecidableEq, Repr

/-- A reservation for one attempt. -/
structure CostReservation where
  amount : Amount
  attemptId : AttemptId
  createdAt : Instant
  operationKey : OperationKey
  reservationId : CostReservationId
  runId : RunId
  stepRunId : StepRunId
  unit : String
  workspaceId : WorkspaceId
  state : CostReservationState
  deriving DecidableEq, Repr

/-- What an attempt used. -/
structure UsageEntry where
  amount : Amount
  attemptId : AttemptId
  operationKey : OperationKey
  recordedAt : Instant
  reservationId : CostReservationId
  runId : RunId
  unit : String
  usageEntryId : UsageEntryId
  workspaceId : WorkspaceId
  reconciliationProofId : Option String
  deriving DecidableEq, Repr

/-! ## A sample plan -/

def sampleContract : ContractRef :=
  ⟨"1.0.0", sampleHash, "organizations", "1.0.0", sampleHash⟩

/-- The plan of a Run with one step, under the authority of the sample generation. -/
def sampleRunPlan : RunPlan where
  runPlanId := "run-plan-1"
  workspaceId := "workspace-1"
  planHash := sampleHash
  normalizedInputHash := sampleHash
  catalogVersion := "1.0.0"
  catalogFingerprint := sampleHash
  compiledWorkflow := {
    workflowSpecId := "workflow-1"
    workflowRevision := "1"
    workflowContentHash := sampleHash
    compilerVersion := "1.0.0"
    fingerprint := sampleHash
    nodes := [⟨"page", ⟨"organizations.discover", "1.0.0"⟩, [], 0, none⟩] }
  inputContract := sampleContract
  outputContract := sampleContract
  policyVersion := "1.0.0"
  policyFactsHash := sampleHash
  retryPolicy := ⟨2⟩
  routeSnapshots := none
  quote := ⟨"quote-1", .hard, "credit", some 2, "1.0.0", 1000⟩
  budget := ⟨"credit", 2, 0, 0⟩
  deadline := 1000
  authority := samplePlan.authority

end Kurobara.Kernel
