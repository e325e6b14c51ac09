import Kurobara.Application.DagRun
import Kurobara.Kernel.Run.QuoteBound

/-! # Routing and claiming a step

The router picks an available route of a ready step, one that was not attempted before when
there is one, and the claim reserves the bound that the plan admitted for the route. Under a
hard quote no execution reserves more than the quote, whatever the order of the steps, of
their retries and of their fallbacks.
-/

namespace Kurobara.Application

open Foundation Kernel Persistence

/-! ## The routes of a step -/

/-- The plan's routes for the node of a step Run. -/
def plannedRoutes (plan : RunPlan) (stepRun : StepRun) : List RunPlanRouteSnapshot :=
  (plan.routeSnapshots.getD []).filter fun candidate => candidate.nodeKey == stepRun.nodeKey

/-- The first available route that was not attempted, and else the first available one. -/
def nextAvailableRoute (stepRun : StepRun) (routes : List RunPlanRouteSnapshot)
    (available : List String) : Option RunPlanRouteSnapshot :=
  let availableRoutes := routes.filter fun entry => available.contains entry.effectAdapterKey
  let attemptedRouteKeys := stepRun.attempts.map Attempt.routeKey
  (availableRoutes.find? fun entry => !attemptedRouteKeys.contains entry.routeKey).or
    availableRoutes.head?

/-! ## The claim -/

/-- The input of `claimStepAttempt`. -/
structure ClaimStepAttemptInput where
  attemptId : AttemptId
  costReservationId : CostReservationId
  operationKey : OperationKey
  reason : AttemptReason
  routeKey : String
  runId : RunId
  stepRunId : StepRunId
  workspaceId : WorkspaceId
  deriving DecidableEq, Repr

/-- How `decideRoute` refuses. -/
inductive RouteRefusalCode where
  | invalidReservation
  | routeNotFound
  deriving DecidableEq, Repr

/-- Why no route was chosen. -/
structure RouteRefusal where
  code : RouteRefusalCode
  message : String
  deriving DecidableEq, Repr

section Claim

/-! The content hash of a route snapshot, over the canonical JSON of the candidate, the plan
hash, the Run and the step, and the identity that is derived from it. -/

variable (routeSnapshotHash : RunPlanRouteSnapshot → ContentHash → RunId → StepRunId → ContentHash)
  (derivedRoutingDecisionId : AttemptId → ContentHash → RunId → StepRunId → RoutingDecisionId)

/-- `decideRoute`: the decision for the requested route of the node, or why it is refused. -/
def decideRoute (plan : RunPlan) (node : CompiledWorkflowNode) (input : ClaimStepAttemptInput)
    (now : Instant) : Except RouteRefusal RoutingDecision :=
  match (plan.routeSnapshots.getD []).find? fun entry =>
      entry.nodeKey == node.key && entry.routeKey == input.routeKey with
  | none => .error ⟨.routeNotFound,
      "The requested route is not admitted by the immutable run plan."⟩
  | some candidate =>
      if candidate.reservationUnit != plan.budget.unit ||
          candidate.reservationUnit != plan.quote.unit ||
          !isAmount candidate.reservableUpperBound then
        .error ⟨.invalidReservation, "The selected route has an invalid immutable reservation."⟩
      else
        let snapshotHash := routeSnapshotHash candidate plan.planHash input.runId input.stepRunId
        match createRoutingDecision {
            candidate
            decidedAt := now
            expectedCapability := node.capability
            expectedNodeKey := node.key
            expectedPricingVersion := plan.quote.pricingVersion
            policyFactsHash := plan.policyFactsHash
            policyVersion := plan.policyVersion
            routeSnapshotHash := snapshotHash
            routingDecisionId :=
              derivedRoutingDecisionId input.attemptId snapshotHash input.runId input.stepRunId
            runId := input.runId
            stepRunId := input.stepRunId
            workspaceId := input.workspaceId } with
        | .error failure => .error ⟨.invalidReservation, failure.message⟩
        | .ok decision => .ok decision

/-- The preparation of the command of a claim. -/
def claimPreparation (input : ClaimStepAttemptInput) (authorityEnvelopeId : String)
    (decision : RoutingDecision) : AttemptPreparation where
  attemptId := input.attemptId
  authorityEnvelopeId := authorityEnvelopeId
  costReservationId := input.costReservationId
  effectAdapterKey := decision.effectAdapterKey
  operationKey := input.operationKey
  reason := input.reason
  reservationUnit := decision.reservationUnit
  reservedAmount := decision.reservedAmount
  routeKey := decision.routeKey
  routeSnapshotHash := decision.routeSnapshotHash
  routingDecisionId := decision.routingDecisionId

/-- The router picks one of the routes that it is given. -/
theorem nextAvailableRoute_mem {stepRun : StepRun} {routes : List RunPlanRouteSnapshot}
    {available : List String} {route : RunPlanRouteSnapshot}
    (picked : nextAvailableRoute stepRun routes available = some route) : route ∈ routes := by
  rcases Option.or_eq_some_iff.mp picked with found | ⟨_, first⟩
  · exact List.mem_of_mem_filter (List.mem_of_find?_eq_some found)
  · exact List.mem_of_mem_filter (List.mem_of_head? first)

/-- A claim reserves the bound of an admitted route of its node. -/
theorem decideRoute_reserves {plan : RunPlan} {node : CompiledWorkflowNode}
    {input : ClaimStepAttemptInput} {now : Instant} {decision : RoutingDecision}
    (decided : decideRoute routeSnapshotHash derivedRoutingDecisionId plan node input now =
      .ok decision) :
    ∃ route ∈ plan.routeSnapshots.getD [], route.nodeKey = node.key ∧
      route.routeKey = input.routeKey ∧ decision.reservedAmount = route.reservableUpperBound := by
  unfold decideRoute at decided
  split at decided
  · cases decided
  rename_i candidate found
  split at decided
  · cases decided
  dsimp only at decided
  split at decided
  · cases decided
  rename_i created accepted
  cases decided
  have matched := List.find?_some found
  rw [Bool.and_eq_true, beq_iff_eq, beq_iff_eq] at matched
  refine ⟨candidate, List.mem_of_find?_eq_some found, matched.1, matched.2, ?_⟩
  rw [createRoutingDecision_ok accepted]
  rfl

end Claim

/-! ## Routed executions -/

/-- One attempt of an execution: the node of its step, and the route that it reserves. -/
structure RouteClaim where
  nodeKey : String
  route : RunPlanRouteSnapshot
  deriving DecidableEq, Repr

/-- Attempts in any order, each under an admitted route of its step, and no more for a step
than the retry policy allows. -/
structure IsRoutedExecution (plan : RunPlan) (claims : List RouteClaim) : Prop where
  admitted : ∀ claim ∈ claims, claim.route ∈ plan.routeSnapshots.getD [] ∧
    claim.route.nodeKey = claim.nodeKey
  counted : ∀ nodeKey, (claims.countP fun claim => claim.nodeKey == nodeKey : ℤ) ≤
    plan.retryPolicy.maxAttemptsPerStep

/-- What a list of claims reserves together. -/
def reservedTotal (claims : List RouteClaim) : Amount :=
  (claims.map fun claim => claim.route.reservableUpperBound).sum

/-- The claim of a step that has an attempt left, under a route of the step. -/
structure ClaimIsRouted (plan : RunPlan) (stepRun : StepRun) (preparation : AttemptPreparation) :
    Prop where
  capacity : (stepRun.attempts.length : ℤ) < plan.retryPolicy.maxAttemptsPerStep
  route : ∃ route ∈ plannedRoutes plan stepRun,
    route.reservableUpperBound = preparation.reservedAmount

private def ClaimsAreRouted (dagRun : DagRun) (move : DagRunMove) : Prop :=
  ∀ stepRunId preparation context,
    move = .commanded stepRunId (.claimStepAttempt preparation) context →
      ∀ stepRun ∈ dagRun.stepRuns, stepRun.stepRunId = stepRunId →
        ClaimIsRouted dagRun.plan stepRun preparation

/-- The Runs whose claims are routed. -/
def routedRuns : TransitionSystem DagRun DagRunMove := dagRuns.restrict ClaimsAreRouted

/-- The attempts of a step, each under a route of the step. -/
structure StepIsRouted (plan : RunPlan) (stepRun : StepRun) : Prop where
  counted : stepRun.attempts.length ≤ plan.retryPolicy.maxAttemptsPerStep.toNat
  routed : ∀ attempt ∈ stepRun.attempts, ∃ route ∈ plannedRoutes plan stepRun,
    route.reservableUpperBound = attempt.reservedAmount

private theorem StepIsRouted.of_noAttempts {plan : RunPlan} {stepRun : StepRun}
    (noAttempts : stepRun.attempts = []) : StepIsRouted plan stepRun := by
  refine ⟨?_, ?_⟩ <;> rw [noAttempts]
  · exact Nat.zero_le _
  · exact fun _ member => absurd member List.not_mem_nil

/-- A command keeps the attempts of a step routed, when a claim is routed. -/
theorem StepIsRouted.apply {plan : RunPlan} {stepRun : StepRun} (routed : StepIsRouted plan stepRun)
    {command : StepCommand} {planned : StepTransitionPlan} {occurredAt : Instant}
    (delta : StepDelta stepRun occurredAt command planned)
    (claims : ∀ preparation, command = .claimStepAttempt preparation →
      ClaimIsRouted plan stepRun preparation) (context : StepCommandContext) :
    StepIsRouted plan (freshTransition stepRun planned context).stepRun := by
  -- A replacement keeps the terms of the attempt that it replaces.
  have replaced : ∀ attempt ∈ stepRun.attempts, ∀ replacement, SameTerms attempt replacement →
      (replaceAttempt stepRun replacement).length ≤ plan.retryPolicy.maxAttemptsPerStep.toNat ∧
        ∀ known ∈ replaceAttempt stepRun replacement, ∃ route ∈ plannedRoutes plan stepRun,
          route.reservableUpperBound = known.reservedAmount := by
    intro attempt member replacement terms
    refine ⟨?_, ?_⟩
    · rw [replaceAttempt, List.length_map]
      exact routed.counted
    · intro known inside
      rcases replaceAttempt_cases inside with rfl | old
      · rw [terms.amount]
        exact routed.routed attempt member
      · exact routed.routed known old
  cases delta with
  | claimed preparation details valid fresh =>
      obtain ⟨capacity, route⟩ := claims preparation rfl
      refine ⟨?_, ?_⟩
      · change (stepRun.attempts ++ [_]).length ≤ _
        rw [List.length_append, List.length_singleton]
        omega
      · intro attempt member
        rcases List.mem_append.mp member with earlier | last
        · exact routed.routed attempt earlier
        · rw [List.mem_singleton.mp last]
          exact route
  | continued attempt replacement details command state member active terms =>
      obtain ⟨counted, kept⟩ := replaced attempt member replacement terms
      exact ⟨counted, kept⟩
  | concluded attempt replacement details command proof state member active target terms =>
      obtain ⟨counted, kept⟩ := replaced attempt member replacement terms
      exact ⟨counted, kept⟩
  | parked details command state inactive => exact ⟨routed.counted, routed.routed⟩

/-- Every step of a routed Run has routed attempts. -/
theorem routedRuns_routed : routedRuns.Invariant fun dagRun =>
    ∀ stepRun ∈ dagRun.stepRuns, StepIsRouted dagRun.plan stepRun where
  initially dagRun created := by
    rw [created.noSteps]
    exact fun _ member => absurd member List.not_mem_nil
  preserved dagRun move next routed moved := by
    obtain ⟨claims, moved⟩ := moved
    cases moved with
    | scheduled input decision current accepted materializes =>
        obtain rfl := scheduleStep_ok accepted
        intro stepRun member
        rcases List.mem_append.mp member with earlier | last
        · exact routed stepRun earlier
        · rw [List.mem_singleton.mp last]
          exact .of_noAttempts rfl
    | skipped input decision current accepted materializes blocking =>
        obtain rfl := skipStep_ok accepted
        intro stepRun member
        rcases List.mem_append.mp member with earlier | last
        · exact routed stepRun earlier
        · rw [List.mem_singleton.mp last]
          exact .of_noAttempts rfl
    | commanded before after stepRun command context transition ledger artifacts located accepted
        fresh moved recorded =>
        rcases applyStepCommand_ok accepted with ⟨rfl, _⟩ | ⟨_, _, planned, plannedEq, _, rfl⟩
        · cases fresh
        have here : stepRun ∈ dagRun.stepRuns :=
          located ▸ List.mem_append_right _ List.mem_cons_self
        intro known member
        rcases List.mem_append.mp member with left | rest
        · exact routed known (located ▸ List.mem_append_left _ left)
        rcases List.mem_cons.mp rest with rfl | right
        · refine (routed stepRun here).apply (planTransition_delta plannedEq) ?_ context
          rintro preparation rfl
          exact claims _ preparation context rfl stepRun here rfl
        · exact routed known
            (located ▸ List.mem_append_right _ (List.mem_cons_of_mem _ right))
    | ran command context transition accepted => exact routed

/-! ## What is reserved -/

/-- Everything that was ever reserved for the Run. -/
def DagRun.reservedTotal (dagRun : DagRun) : Amount :=
  (dagRun.ledger.reservations.map CostReservation.amount).sum

/-- The attempts of the steps, each with the node of its step. -/
def chargesOf (stepRuns : List StepRun) : List (String × Attempt) :=
  stepRuns.flatMap fun stepRun => stepRun.attempts.map fun attempt => (stepRun.nodeKey, attempt)

private theorem mem_chargesOf {stepRuns : List StepRun} {charge : String × Attempt} :
    charge ∈ chargesOf stepRuns ↔
      ∃ stepRun ∈ stepRuns, charge.2 ∈ stepRun.attempts ∧ stepRun.nodeKey = charge.1 := by
  obtain ⟨nodeKey, attempt⟩ := charge
  simp only [chargesOf, List.mem_flatMap, List.mem_map, Prod.mk.injEq]
  constructor
  · rintro ⟨stepRun, member, known, owned, rfl, rfl⟩
    exact ⟨stepRun, member, owned, rfl⟩
  · rintro ⟨stepRun, member, owned, rfl⟩
    exact ⟨stepRun, member, attempt, owned, rfl, rfl⟩

/-- A node has the attempts of its one step. -/
theorem chargesOf_count {stepRuns : List StepRun} {most : ℕ}
    (distinct : (stepRuns.map StepRun.nodeKey).Nodup)
    (counted : ∀ stepRun ∈ stepRuns, stepRun.attempts.length ≤ most) (nodeKey : String) :
    (chargesOf stepRuns).countP (fun charge => charge.1 == nodeKey) ≤ most := by
  induction stepRuns with
  | nil => exact Nat.zero_le _
  | cons stepRun stepRuns ih =>
      rw [List.map_cons, List.nodup_cons] at distinct
      have later := ih distinct.2 fun known member => counted known (List.mem_cons_of_mem _ member)
      rw [chargesOf, List.flatMap_cons, List.countP_append]
      change _ + (chargesOf stepRuns).countP _ ≤ most
      by_cases same : stepRun.nodeKey = nodeKey
      · have others : (chargesOf stepRuns).countP (fun charge => charge.1 == nodeKey) = 0 := by
          refine List.countP_eq_zero.mpr ?_
          intro charge member matched
          obtain ⟨other, inside, _, named⟩ := mem_chargesOf.mp member
          refine distinct.1 ?_
          rw [same, ← beq_iff_eq.mp matched, ← named]
          exact List.mem_map_of_mem inside
        rw [others, Nat.add_zero]
        refine List.countP_le_length.trans ?_
        rw [List.length_map]
        exact counted stepRun List.mem_cons_self
      · have none : (stepRun.attempts.map fun attempt => (stepRun.nodeKey, attempt)).countP
            (fun charge => charge.1 == nodeKey) = 0 := by
          refine List.countP_eq_zero.mpr ?_
          intro charge member matched
          obtain ⟨attempt, _, rfl⟩ := List.mem_map.mp member
          exact same (beq_iff_eq.mp matched)
        rw [none, Nat.zero_add]
        exact later

/-- What is reserved for the Run is what its attempts were claimed for. -/
theorem reservations_sum {stepRuns : List StepRun} {reservations : List CostReservation}
    (exact : ReservationsAreExact stepRuns reservations) :
    (reservations.map CostReservation.amount).sum =
      ((chargesOf stepRuns).map fun charge => charge.2.reservedAmount).sum := by
  have attempts : ((chargesOf stepRuns).map fun charge => charge.2.reservedAmount) =
      (stepRuns.flatMap StepRun.attempts).map Attempt.reservedAmount := by
    simp [chargesOf, List.map_flatMap, Function.comp_def]
  rw [attempts]
  let found (attemptId : AttemptId) : Option Attempt :=
    (stepRuns.flatMap StepRun.attempts).find? fun attempt => attempt.attemptId == attemptId
  let amountOf (attemptId : AttemptId) : Amount :=
    ((found attemptId).map Attempt.reservedAmount).getD 0
  have known : ∀ attempt ∈ stepRuns.flatMap StepRun.attempts,
      amountOf attempt.attemptId = attempt.reservedAmount := by
    intro attempt member
    have named : found attempt.attemptId = some attempt :=
      (find?_key_eq_some_iff exact.attemptIds).mpr ⟨member, rfl⟩
    simp only [amountOf, named, Option.map_some, Option.getD_some]
  have ofReservations : reservations.map CostReservation.amount =
      (reservations.map CostReservation.attemptId).map amountOf := by
    rw [List.map_map]
    refine List.map_congr_left fun reservation member => ?_
    obtain ⟨stepRun, inside, attempt, owned, binds⟩ := exact.bound reservation member
    have amount := known attempt (List.mem_flatMap.mpr ⟨stepRun, inside, owned⟩)
    rw [Function.comp_apply, binds.attemptId, amount, binds.amount]
  have ofAttempts : (stepRuns.flatMap StepRun.attempts).map Attempt.reservedAmount =
      ((stepRuns.flatMap StepRun.attempts).map Attempt.attemptId).map amountOf := by
    rw [List.map_map]
    exact List.map_congr_left fun attempt member => (known attempt member).symm
  rw [ofReservations, ofAttempts]
  exact (exact.attempts.symm.map amountOf).sum_eq

/-- The router and the claim keep a Run routed. -/
theorem routerClaim_isRouted {plan : RunPlan} {stepRun : StepRun} {node : CompiledWorkflowNode}
    {input : ClaimStepAttemptInput} {now : Instant} {decision : RoutingDecision}
    {routeSnapshotHash : RunPlanRouteSnapshot → ContentHash → RunId → StepRunId → ContentHash}
    {derivedRoutingDecisionId : AttemptId → ContentHash → RunId → StepRunId → RoutingDecisionId}
    (named : node.key = stepRun.nodeKey)
    (capacity : (stepRun.attempts.length : ℤ) < plan.retryPolicy.maxAttemptsPerStep)
    (decided : decideRoute routeSnapshotHash derivedRoutingDecisionId plan node input now =
      .ok decision) (authorityEnvelopeId : String) :
    ClaimIsRouted plan stepRun (claimPreparation input authorityEnvelopeId decision) := by
  obtain ⟨route, member, sameNode, _, reserved⟩ := decideRoute_reserves _ _ decided
  refine ⟨capacity, route, List.mem_filter.mpr ⟨member, ?_⟩, reserved.symm⟩
  exact beq_iff_eq.mpr (sameNode.trans named)

/-- **Hard quotes bound execution.** Under a plan whose routes are accepted with a hard quote,
any attempts under admitted routes, in any order and no more for a step than the retry policy
allows, reserve at most the bound of the quote and the limit of the budget; so does every
Run whose claims are routed, and whatever the router picks and the claim decides is a
routed claim. -/
theorem hardQuote_bounds_execution {plan : RunPlan} {accepted : List RunPlanRouteSnapshot}
    (validated : validateRunPlanRouteSnapshots plan.compiledWorkflow plan.budget plan.quote
      plan.policyFactsHash (plan.routeSnapshots.getD []) plan.retryPolicy = .ok accepted)
    (hard : plan.quote.guarantee = .hard) :
    ∃ upperBound, plan.quote.upperBound = some upperBound ∧
      (∀ claims, IsRoutedExecution plan claims →
        reservedTotal claims ≤ upperBound ∧ reservedTotal claims ≤ plan.budget.limit) ∧
      (∀ dagRun, routedRuns.Reachable dagRun → dagRun.plan = plan →
        dagRun.reservedTotal ≤ upperBound ∧ dagRun.reservedTotal ≤ plan.budget.limit) ∧
      ∀ stepRun available route,
        nextAvailableRoute stepRun (plannedRoutes plan stepRun) available = some route →
          route ∈ plannedRoutes plan stepRun ∧
          ∀ routeSnapshotHash derivedRoutingDecisionId node input now decision envelopeId,
            decideRoute routeSnapshotHash derivedRoutingDecisionId plan node input now =
                .ok decision →
              node.key = stepRun.nodeKey →
                (stepRun.attempts.length : ℤ) < plan.retryPolicy.maxAttemptsPerStep →
                  ClaimIsRouted plan stepRun (claimPreparation input envelopeId decision) := by
  obtain ⟨fits, positive⟩ := validateRunPlanRouteSnapshots_fits validated
  obtain ⟨upperBound, given, _⟩ := hardQuoteFitsPlan_bounds fits hard
  refine ⟨upperBound, given, ?_, ?_, ?_⟩
  · intro claims execution
    refine hardQuote_bounds validated hard given ?_ execution.counted
    intro claim member
    obtain ⟨admitted, named⟩ := execution.admitted claim member
    exact ⟨claim.route, admitted, named, rfl⟩
  · rintro dagRun reachable rfl
    have invariant := dagRunInvariant.reachable reachable.of_restrict
    have routed := routedRuns_routed.reachable reachable
    rw [DagRun.reservedTotal, reservations_sum invariant.ledger.receipts]
    refine @hardQuote_bounds _ _ Prod.fst _ _ _ _ _ _ _ _ _ validated hard given ?_ ?_
    · intro charge member
      obtain ⟨stepRun, inside, owned, named⟩ := mem_chargesOf.mp member
      obtain ⟨route, planned, reserved⟩ := (routed stepRun inside).routed charge.2 owned
      obtain ⟨admitted, sameNode⟩ := List.mem_filter.mp planned
      exact ⟨route, admitted, (beq_iff_eq.mp sameNode).trans named, reserved⟩
    · intro nodeKey
      have counted := chargesOf_count invariant.steps.nodeKeys
        (fun stepRun inside => (routed stepRun inside).counted) nodeKey
      omega
  · intro stepRun available route picked
    refine ⟨nextAvailableRoute_mem picked, ?_⟩
    intro routeSnapshotHash derivedRoutingDecisionId node input now decision envelopeId decided
      named capacity
    exact routerClaim_isRouted named capacity decided envelopeId

/-! ## A sample quote -/

def sampleRouteSnapshot : RunPlanRouteSnapshot where
  capability := ⟨"organizations.discover", "1.0.0"⟩
  effectAdapterKey := "plugin"
  factsHash := sampleHash
  nodeKey := "page"
  pricingVersion := "1.0.0"
  reservableUpperBound := 1
  reservationUnit := "credit"
  routeKey := "route-1"

/-- The sample plan with one route, whose two attempts use up the hard quote. -/
def sampleRoutedPlan : RunPlan :=
  { sampleRunPlan with routeSnapshots := some [sampleRouteSnapshot] }

theorem hardQuote_bounds_execution_retried :
    reservedTotal [⟨"page", sampleRouteSnapshot⟩, ⟨"page", sampleRouteSnapshot⟩] ≤ 2 := by
  have validated : (validateRunPlanRouteSnapshots sampleRoutedPlan.compiledWorkflow
      sampleRoutedPlan.budget sampleRoutedPlan.quote sampleRoutedPlan.policyFactsHash
      (sampleRoutedPlan.routeSnapshots.getD []) sampleRoutedPlan.retryPolicy) =
        .ok [sampleRouteSnapshot] := by
    with_unfolding_all decide
  obtain ⟨upperBound, given, bounded, _⟩ := hardQuote_bounds_execution validated rfl
  cases given
  refine (bounded _ ⟨?_, ?_⟩).1
  · decide
  · intro nodeKey
    by_cases same : "page" = nodeKey
    · simp [same, sampleRoutedPlan, sampleRunPlan]
    · simp [same, sampleRoutedPlan, sampleRunPlan]

end Kurobara.Application
