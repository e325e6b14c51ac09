import Kurobara.Kernel.Run.Plan

/-! # Routing a Run plan

`validateRunPlanRouteSnapshots`: the routes that a Run plan may carry, which fit its
workflow, budget and quote; and `createRoutingDecision`, which reserves for a step the
bound of the route that it selects.
-/

namespace Kurobara.Kernel

inductive RoutingFailureCode where
  | capabilityMismatch
  | invalidRouteSnapshot
  | nodeMismatch
  deriving DecidableEq, Repr

structure RoutingFailure where
  code : RoutingFailureCode
  message : String
  deriving DecidableEq, Repr

/-- The texts and the amount of a route are well formed. -/
def snapshotIsStructurallyValid (snapshot : RunPlanRouteSnapshot) : Bool :=
  nonBlank snapshot.routeKey && nonBlank snapshot.effectAdapterKey && nonBlank snapshot.nodeKey &&
    nonBlank snapshot.pricingVersion && nonBlank snapshot.reservationUnit &&
    isAmount snapshot.reservableUpperBound

/-- From one to a hundred attempts. -/
def retryPolicyIsValid (policy : RetryPolicy) : Bool :=
  decide (1 ≤ policy.maxAttemptsPerStep) && decide (policy.maxAttemptsPerStep ≤ 100)

/-! ## The worst case of a plan -/

/-- The largest bound of each node, in the order in which the routes name the nodes. -/
def maximumBoundByNode : List RunPlanRouteSnapshot → List (String × Amount) → List (String × Amount)
  | [], bounds => bounds
  | snapshot :: rest, bounds =>
      maximumBoundByNode rest <|
        if bounds.any (·.1 == snapshot.nodeKey) then
          bounds.map fun bound => if bound.1 == snapshot.nodeKey then
            (bound.1, max bound.2 snapshot.reservableUpperBound) else bound
        else bounds ++ [(snapshot.nodeKey, max 0 snapshot.reservableUpperBound)]

/-- Over exact amounts the compensation of a sum is zero. -/
def compensatedAmountSum (amounts : List Amount) : Option Amount :=
  if amounts.all isAmount then some amounts.sum else none

/-- A hard quote is within the budget and covers every route on every attempt. -/
def hardQuoteFitsPlan (snapshots : List RunPlanRouteSnapshot) (budget : BudgetLimit)
    (quote : CostQuote) (retryPolicy : RetryPolicy) : Bool :=
  if quote.guarantee != .hard then true
  else
    match quote.upperBound with
    | none => false
    | some quoteUpperBound =>
        if !isAmount quoteUpperBound || amountExceeds quoteUpperBound budget.limit then false
        else
          match compensatedAmountSum ((maximumBoundByNode snapshots []).map fun bound =>
            bound.2 * retryPolicy.maxAttemptsPerStep) with
          | none => false
          | some worstCasePlanCost => !(amountExceeds worstCasePlanCost quoteUpperBound ||
              amountExceeds worstCasePlanCost budget.limit)

/-! ## The routes of a plan -/

section Validation

variable (workflow : CompiledWorkflow) (budget : BudgetLimit) (quote : CostQuote)
  (policyFactsHash : ContentHash)

private def validateRunPlanRouteSnapshot (snapshot : RunPlanRouteSnapshot) :
    Except RoutingFailure Unit :=
  if !snapshotIsStructurallyValid snapshot then
    .error ⟨.invalidRouteSnapshot, "Every run-plan route must be complete and reservable."⟩
  else
    match workflow.nodes.find? fun node => node.key == snapshot.nodeKey with
    | none => .error ⟨.nodeMismatch,
        "A run-plan route targets a node outside the compiled workflow."⟩
    | some node =>
        if !capabilityMatches node.capability snapshot.capability then
          .error ⟨.capabilityMismatch, "A run-plan route does not match its node capability."⟩
        else if snapshot.reservationUnit != budget.unit || snapshot.reservationUnit != quote.unit ||
            snapshot.pricingVersion != quote.pricingVersion ||
            snapshot.factsHash != policyFactsHash ||
            amountExceeds snapshot.reservableUpperBound budget.limit then
          .error ⟨.invalidRouteSnapshot,
            "A run-plan route must fit the immutable budget and quote."⟩
        else .ok ()

/-- The loop over the routes, with the identities already seen. -/
def validateRouteSnapshotsFrom (identities : List (String × String)) :
    List RunPlanRouteSnapshot → Except RoutingFailure Unit
  | [] => .ok ()
  | snapshot :: rest =>
      match validateRunPlanRouteSnapshot workflow budget quote policyFactsHash snapshot with
      | .error failure => .error failure
      | .ok _ =>
          if identities.contains (snapshot.nodeKey, snapshot.routeKey) then
            .error ⟨.invalidRouteSnapshot,
              "A run-plan node cannot contain the same route key twice."⟩
          else validateRouteSnapshotsFrom ((snapshot.nodeKey, snapshot.routeKey) :: identities) rest

def validateRunPlanRouteSnapshots (snapshots : List RunPlanRouteSnapshot)
    (retryPolicy : RetryPolicy) : Except RoutingFailure (List RunPlanRouteSnapshot) :=
  if !(isAmount budget.limit && retryPolicyIsValid retryPolicy) then
    .error ⟨.invalidRouteSnapshot,
      "Run-plan routes require a valid budget and retry policy."⟩
  else
    match validateRouteSnapshotsFrom workflow budget quote policyFactsHash [] snapshots with
    | .error failure => .error failure
    | .ok _ =>
        if !hardQuoteFitsPlan snapshots budget quote retryPolicy then
          .error ⟨.invalidRouteSnapshot,
            "The worst-case routed plan must fit its immutable hard quote and budget."⟩
        else .ok snapshots

variable {workflow budget quote policyFactsHash}

/-- Accepted routes are the given ones. -/
theorem validateRunPlanRouteSnapshots_ok {snapshots accepted : List RunPlanRouteSnapshot}
    {retryPolicy : RetryPolicy}
    (validated : validateRunPlanRouteSnapshots workflow budget quote policyFactsHash snapshots
      retryPolicy = .ok accepted) : accepted = snapshots := by
  unfold validateRunPlanRouteSnapshots at validated
  split at validated
  · cases validated
  split at validated
  · cases validated
  split at validated
  · cases validated
  cases validated
  rfl

end Validation

/-! ## The decision of a step -/

/-- The input of `createRoutingDecision`. -/
structure RoutingDecisionInput where
  candidate : RunPlanRouteSnapshot
  decidedAt : Instant
  expectedCapability : CapabilityRef
  expectedNodeKey : String
  expectedPricingVersion : String
  policyFactsHash : ContentHash
  policyVersion : String
  routeSnapshotHash : ContentHash
  routingDecisionId : RoutingDecisionId
  runId : RunId
  stepRunId : StepRunId
  workspaceId : WorkspaceId
  deriving DecidableEq, Repr

/-- The decision reserves the bound of the candidate. -/
def routingDecisionOf (input : RoutingDecisionInput) : RoutingDecision where
  capability := input.candidate.capability
  decidedAt := input.decidedAt
  effectAdapterKey := input.candidate.effectAdapterKey
  policyFactsHash := input.policyFactsHash
  policyVersion := input.policyVersion
  pricingVersion := input.candidate.pricingVersion
  reservedAmount := input.candidate.reservableUpperBound
  reservationUnit := input.candidate.reservationUnit
  routeKey := input.candidate.routeKey
  routeSnapshotHash := input.routeSnapshotHash
  routingDecisionId := input.routingDecisionId
  runId := input.runId
  stepRunId := input.stepRunId
  workspaceId := input.workspaceId

def createRoutingDecision (input : RoutingDecisionInput) : Except RoutingFailure RoutingDecision :=
  if !snapshotIsStructurallyValid input.candidate then
    .error ⟨.invalidRouteSnapshot,
      "A routing decision requires a complete reservable route snapshot."⟩
  else if input.candidate.nodeKey != input.expectedNodeKey then
    .error ⟨.nodeMismatch, "The selected route does not belong to the requested workflow node."⟩
  else if !capabilityMatches input.candidate.capability input.expectedCapability then
    .error ⟨.capabilityMismatch,
      "The selected route does not implement the exact node capability."⟩
  else if input.candidate.factsHash != input.policyFactsHash ||
      input.candidate.pricingVersion != input.expectedPricingVersion then
    .error ⟨.invalidRouteSnapshot,
      "The selected route does not match the immutable policy and pricing provenance."⟩
  else .ok (routingDecisionOf input)

/-- An accepted decision is the one of its input. -/
theorem createRoutingDecision_ok {input : RoutingDecisionInput} {decision : RoutingDecision}
    (accepted : createRoutingDecision input = .ok decision) :
    decision = routingDecisionOf input := by
  unfold createRoutingDecision at accepted
  split at accepted
  · cases accepted
  split at accepted
  · cases accepted
  split at accepted
  · cases accepted
  split at accepted
  · cases accepted
  cases accepted
  rfl

end Kurobara.Kernel
