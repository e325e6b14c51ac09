import Kurobara.Application.ProjectCellResult
import Kurobara.Kernel.Run.Convergence
import Kurobara.Kernel.Step.StepRun

/-! # Scheduling the steps of a Run

`makeMaterializeNextDagRun`: a claimed scheduling job creates the steps whose
dependencies succeeded, skips those that a failed or skipped one blocks, and finalizes
the Run once its steps converge. The answer is what the use case returns with the writes
it issues, in their order; a failed invariant stands for the exception that rolls the
transaction back.
-/

namespace Kurobara.Application

open Foundation Kernel Persistence

/-! ## Context -/

structure DagArtifactPayload where
  artifactId : ArtifactId
  contentHash : ContentHash
  value : NormalizedJsonValue

/-- The pending cell of a Run, with what its value is checked against. -/
structure DagRecipeCell where
  current : CellResult
  dataset : Dataset
  fields : List Field
  recipe : EnrichmentRecipe
  record : DatasetRecord

/-- What a scheduling job claims of its Run. -/
structure DagSchedulingContext where
  artifacts : List Artifact
  artifactPayloads : List DagArtifactPayload
  cost : ResultManifestCost
  plan : RunPlan
  recipeCell : Option DagRecipeCell
  reservations : List CostReservation
  run : Run
  stepRuns : List StepRun

/-- The last write to a cell, with the evidence for it. -/
structure DagCellResultFinalization where
  artifact : Option ArtifactRef
  cellResult : CellResult
  manifest : Option ResultManifestRef
  sourceRunAggregateVersion : ℕ
  deriving DecidableEq, Repr

/-- How a scheduling job ends. -/
inductive DagSchedulingJobOutcome where
  | failureFinalized
  | successFinalized
  | staleTerminal
  | stepsMaterialized
  | waiting
  | blocked (reason : RunConvergenceBlocker)
  deriving DecidableEq, Repr

/-- The writes that a pass issues, in its order. -/
inductive DagSchedulingWrite where
  | insertReady (stepRun : StepRun) (event : StepLifecycleEvent)
  | requestRouting (stepRunId : StepRunId)
  | insertSkipped (stepRun : StepRun) (event : StepLifecycleEvent)
  | insertManifest (manifest : ResultManifest)
  | updateRun (expectedAggregateVersion : ℕ) (run : Run)
  | appendRunEvent (event : RunLifecycleEvent)
  | insertRunCommand (proof : RunCommandReplayProof) (actorId : ActorId)
      (correlationId : CorrelationId)
  | finalizeCellResult (finalization : DagCellResultFinalization)
  | completeJob (runId : RunId) (outcome : DagSchedulingJobOutcome)
  deriving DecidableEq, Repr

/-- What the use case reads besides the claimed context. Event identifiers are drawn in
the order of the numbers. -/
structure DagSchedulingEnvironment where
  now : Instant
  nextEventId : ℕ → EventId
  storedManifest : Option ResultManifest
  hasCellResults : Bool

/-- The canonical content hashes of the scheduler. -/
structure DagCanonicalHashes where
  value : ContentEvidence NormalizedJsonValue
  stepIdentity : String → ContentHash → RunId → WorkspaceId → ContentHash
  manifestBody : ResultManifestBody → ContentHash
  convergenceCommand : ContentHash → RunId → RunCommandType → ContentHash
  cancellationCommand : RunId → RunCommandType → ContentHash

structure DagSchedulingInvariantError where
  message : String
  deriving DecidableEq, Repr

abbrev DagSchedulingResult (Value : Type) := Except DagSchedulingInvariantError Value

private def dagSchedulerActor : ActorId := "system:dag-scheduler"

/-- Everything in a claimed context is of one Run, one plan and one workspace. -/
def contextIdentityIsConsistent (context : DagSchedulingContext) : Bool :=
  context.plan.workspaceId == context.run.workspaceId &&
    context.plan.authority.workspaceId == context.run.workspaceId &&
    context.plan.runPlanId == context.run.runPlanId &&
    context.stepRuns.all fun stepRun =>
      stepRun.workspaceId == context.run.workspaceId && stepRun.runId == context.run.runId

def assertContextIdentity (context : DagSchedulingContext) : DagSchedulingResult Unit :=
  if contextIdentityIsConsistent context then .ok ()
  else .error ⟨"The claimed DAG scheduling context contains inconsistent identities."⟩

/-! ## Materialization -/

/-- New steps may start while the Run runs and neither the plan nor its authority expired. -/
def schedulingWindowIsOpen (context : DagSchedulingContext) (now : Instant) : Bool :=
  context.run.state == .running && decide (now < context.plan.deadline) &&
    decide (now < context.plan.authority.deadline)

def stepSucceeded (stepRuns : List StepRun) (nodeKey : String) : Bool :=
  (stepOfNode stepRuns nodeKey).any (·.state == .succeeded)

/-- A node that was not started, that no person has to approve, and whose dependencies succeeded. -/
def nodeIsReady (node : CompiledWorkflowNode) (stepRuns : List StepRun) : Bool :=
  (stepOfNode stepRuns node.key).isNone && node.humanGate.isNone &&
    node.dependsOn.all (stepSucceeded stepRuns)

/-- The dependencies after whose end a node can never start. -/
def blockedDependencies (node : CompiledWorkflowNode) (stepRuns : List StepRun) : List String :=
  node.dependsOn.filter fun dependency =>
    (stepOfNode stepRuns dependency).any (stateBlocks ·.state)

/-- The steps of the Run with those that the pass creates and skips. -/
structure MaterializedDagNodes where
  created : List StepRun
  skipped : List StepRun
  stepRuns : List StepRun
  writes : List DagSchedulingWrite

def MaterializedDagNodes.drawnEventIds (materialized : MaterializedDagNodes) : ℕ :=
  materialized.created.length + materialized.skipped.length

private def isStepReadyEvent (event : StepLifecycleEvent) : Bool :=
  match event.detail with
  | .stepReady _ => true
  | _ => false

section

variable (hashes : DagCanonicalHashes) (environment : DagSchedulingEnvironment)
  (context : DagSchedulingContext)

/-- The identity of a step is a hash of its node, its plan and its Run. -/
def deterministicStepRunId (nodeKey : String) : StepRunId :=
  "step_" ++ hashDigits (hashes.stepIdentity nodeKey context.plan.planHash context.run.runId
    context.run.workspaceId)

def skipInput (node : CompiledWorkflowNode) (blockedByNodeKeys : List String)
    (eventId : EventId) : SkipStepInput where
  actorId := dagSchedulerActor
  blockedByNodeKeys := blockedByNodeKeys
  correlationId := "dag-schedule:" ++ context.run.runId
  createdAt := environment.now
  dependsOn := node.dependsOn
  eventId := eventId
  nodeKey := node.key
  runId := context.run.runId
  runState := context.run.state
  stepRunId := deterministicStepRunId hashes context node.key
  workspaceId := context.run.workspaceId

def scheduleInput (node : CompiledWorkflowNode) (eventId : EventId) : ScheduleStepInput where
  actorId := dagSchedulerActor
  correlationId := "dag-schedule:" ++ context.run.runId
  createdAt := environment.now
  dependsOn := node.dependsOn
  eventId := eventId
  nodeKey := node.key
  runId := context.run.runId
  runState := context.run.state
  satisfiedDependencies := node.dependsOn
  stepRunId := deterministicStepRunId hashes context node.key
  workspaceId := context.run.workspaceId

/-- One round of the loop over the nodes. -/
def materializeNode (materialized : MaterializedDagNodes) (node : CompiledWorkflowNode) :
    DagSchedulingResult MaterializedDagNodes :=
  let blockedByNodeKeys := blockedDependencies node materialized.stepRuns
  let eventId := environment.nextEventId materialized.drawnEventIds
  if (stepOfNode materialized.stepRuns node.key).isSome then .ok materialized
  else if !blockedByNodeKeys.isEmpty then
    match skipStep (skipInput hashes environment context node blockedByNodeKeys eventId) with
    | .error failure => .error ⟨failure.message⟩
    | .ok decision => .ok { materialized with
        skipped := materialized.skipped ++ [decision.stepRun]
        stepRuns := materialized.stepRuns ++ [decision.stepRun]
        writes := materialized.writes ++ [.insertSkipped decision.stepRun decision.event] }
  else if !schedulingWindowIsOpen context environment.now ||
      !nodeIsReady node materialized.stepRuns then .ok materialized
  else
    match scheduleStep (scheduleInput hashes environment context node eventId) with
    | .error failure => .error ⟨failure.message⟩
    | .ok decision =>
        if !isStepReadyEvent decision.event then
          .error ⟨"ScheduleStep returned an unexpected lifecycle event."⟩
        else .ok { materialized with
          created := materialized.created ++ [decision.stepRun]
          stepRuns := materialized.stepRuns ++ [decision.stepRun]
          writes := materialized.writes ++ [.insertReady decision.stepRun decision.event,
            .requestRouting decision.stepRun.stepRunId] }

/-- One pass over the nodes, in the order of the compiled workflow. -/
def materializeReadyNodes : DagSchedulingResult MaterializedDagNodes :=
  context.plan.compiledWorkflow.nodes.foldlM (materializeNode hashes environment context)
    ⟨[], [], context.stepRuns, []⟩

end

/-! ## Cancellation -/

/-- Every attempt with its step. -/
def attemptProofs (stepRuns : List StepRun) : List (Attempt × StepRun) :=
  stepRuns.flatMap fun stepRun => stepRun.attempts.map fun attempt => (attempt, stepRun)

/-- A reservation is the one of its attempt. -/
def cancellationReservationMatchesAttempt (context : DagSchedulingContext)
    (proof : Attempt × StepRun) (reservation : CostReservation) : Bool :=
  reservation.workspaceId == context.run.workspaceId &&
    reservation.runId == context.run.runId && reservation.stepRunId == proof.2.stepRunId &&
    reservation.attemptId == proof.1.attemptId &&
    reservation.reservationId == proof.1.costReservationId &&
    reservation.operationKey == proof.1.operationKey &&
    reservation.unit == proof.1.reservationUnit &&
    amountsEqual reservation.amount proof.1.reservedAmount

/-- A settled reservation splits its amount into what was used and what was released. -/
def cancellationSettlementReceiptIsValid (reservation : CostReservation) : Bool :=
  isAmount reservation.amount &&
    match reservation.state with
    | .settled settledAmount releasedAmount _ _ => isAmount releasedAmount &&
        isAmount settledAmount && amountsEqual reservation.amount (releasedAmount + settledAmount)
    | .reserved | .released _ => true

/-- Attempts and reservations are in one-to-one correspondence. -/
def cancellationIdentityIsExact (context : DagSchedulingContext) : Bool :=
  let proofs := attemptProofs context.stepRuns
  decide (proofs.map (·.1.attemptId)).Nodup &&
    decide (context.reservations.map CostReservation.reservationId).Nodup &&
    decide (context.reservations.map CostReservation.attemptId).Nodup &&
    context.reservations.length == proofs.length &&
    proofs.all fun proof => proof.1.stepRunId == proof.2.stepRunId &&
      (reservationOfAttempt context.reservations proof.1.attemptId).any fun reservation =>
        cancellationReservationMatchesAttempt context proof reservation &&
          cancellationSettlementReceiptIsValid reservation

/-- The reservations account for the cost of the Run. -/
def cancellationCostIsExact (context : DagSchedulingContext) : Bool :=
  context.cost.unit == context.plan.budget.unit &&
    context.reservations.all (·.unit == context.cost.unit) && isAmount context.cost.reserved &&
    isAmount context.cost.spent &&
    amountsEqual context.cost.reserved (context.reservations.map reservedAmountOf).sum &&
    amountsEqual context.cost.spent
      (context.plan.budget.spent + (context.reservations.map settledAmountOf).sum)

/-- A step in which something may still happen. -/
def stepIsUnresolved (stepRun : StepRun) : Bool :=
  attemptsAreOpen stepRun || stepRun.state == .active || stepRun.state == .ambiguous ||
    stepRun.state == .cancelling

/-- A cancellation settles once no step is unresolved and the costs are exact. -/
def cancellationCanSettle (context : DagSchedulingContext) : DagSchedulingResult Bool :=
  if !(cancellationIdentityIsExact context && cancellationCostIsExact context) then
    .error ⟨"A cancelling run requires an exact durable attempt and cost-settlement proof."⟩
  else .ok (amountsEqual context.cost.reserved 0 &&
    context.reservations.all (·.state != .reserved) &&
    context.stepRuns.all (!stepIsUnresolved ·))

/-! ## Recipe cells -/

private def missingCellPersistence : DagSchedulingInvariantError :=
  ⟨"A recipe-cell run requires atomic CellResult convergence persistence."⟩

def projectionRequest (cell : DagRecipeCell) (run : Run) (manifest : Option ResultManifest)
    (payload : Option NormalizedJsonValue) : ProjectCellResultRequest where
  current := cell.current
  dataset := cell.dataset
  fields := cell.fields
  manifest := manifest
  normalizedSinkPayload := payload
  recipe := cell.recipe
  record := cell.record
  run := run

/-- The payload of an accepted output. -/
def outputPayload (context : DagSchedulingContext) :
    ResultManifestOutput → Option NormalizedJsonValue
  | .missing _ => none
  | .accepted output => (context.artifactPayloads.find? fun candidate =>
      candidate.artifactId == output.artifact.artifactId &&
        candidate.contentHash == output.artifact.contentHash).map DagArtifactPayload.value

private def outputArtifact : ResultManifestOutput → Option ArtifactRef
  | .missing _ => none
  | .accepted output => some output.artifact

section

variable (hashes : DagCanonicalHashes) (environment : DagSchedulingEnvironment)
  (context : DagSchedulingContext)

/-- The cell of a Run that its manifest concludes. -/
def finalizeConcludedCell (manifest : ResultManifest) (run : Run) :
    DagSchedulingResult (List DagSchedulingWrite) :=
  match context.recipeCell with
  | none => .ok []
  | some cell =>
      if !environment.hasCellResults then .error missingCellPersistence
      else
        match projectCellResult hashes.value
          (projectionRequest cell run (some manifest) (outputPayload context manifest.output)) with
        | .error failure => .error ⟨failure.message⟩
        | .ok projection =>
            if !cellStatusIsTerminal projection.cellResult.status then
              .error ⟨"A terminal recipe-cell run projected a non-terminal CellResult."⟩
            else .ok [.finalizeCellResult {
              artifact := outputArtifact manifest.output
              cellResult := projection.cellResult
              manifest := some (resultManifestRef manifest)
              sourceRunAggregateVersion := run.aggregateVersion }]

/-- The cell of a cancelled Run ends with it. -/
def finalizeCancelledRecipeCell (run : Run) : DagSchedulingResult (List DagSchedulingWrite) :=
  match context.recipeCell with
  | none => .ok []
  | some cell =>
      if run.state != .cancelled then .ok []
      else if !environment.hasCellResults then
        .error ⟨"A cancelled recipe-cell run requires atomic CellResult convergence persistence."⟩
      else
        match projectCellResult hashes.value (projectionRequest cell run none none) with
        | .error failure => .error ⟨failure.message⟩
        | .ok projection =>
            if projection.cellResult.status != .skipped then
              .error ⟨"A cancelled recipe-cell run must project a skipped CellResult."⟩
            else .ok [.finalizeCellResult {
              artifact := none
              cellResult := projection.cellResult
              manifest := none
              sourceRunAggregateVersion := run.aggregateVersion }]

/-! ## Finalization -/

/-- A manifest is named after its own hash. -/
def identifiedManifest (body : ResultManifestBody) : ResultManifest :=
  let manifestHash := hashes.manifestBody body
  body.identified manifestHash ("manifest_" ++ hashDigits manifestHash)

def convergenceContext (commandType : RunCommandType) (manifestHash : ContentHash)
    (drawnEventIds : ℕ) : RunCommandContext where
  commandIdentity := {
    idempotencyKey := "converge-run:" ++ context.run.runId ++ ":" ++ context.plan.planHash
    commandHash := hashes.convergenceCommand manifestHash context.run.runId commandType }
  expectedAggregateVersion := context.run.aggregateVersion
  eventIds := [environment.nextEventId drawnEventIds, environment.nextEventId (drawnEventIds + 1)]
  occurredAt := environment.now
  actorId := dagSchedulerActor
  correlationId := "dag-converge:" ++ context.run.runId
  replayProof := none

/-- The writes that every terminal transition of the scheduler issues. -/
def runTransitionWrites (command : RunCommand) (commandContext : RunCommandContext)
    (transition : RunTransition) : List DagSchedulingWrite :=
  .updateRun context.run.aggregateVersion transition.run ::
    transition.events.map DagSchedulingWrite.appendRunEvent ++
    [.insertRunCommand ⟨context.run.runId, context.run.workspaceId,
      commandContext.commandIdentity, command.type⟩ commandContext.actorId
      commandContext.correlationId]

/-- What the convergence of a Run came to. -/
inductive RunFinalization where
  | notReady (reason : RunConvergenceBlocker)
  | completed (manifest : ResultManifest) (run : Run)
  | failed (manifest : ResultManifest) (run : Run)
  deriving DecidableEq, Repr

def RunFinalization.concluded (manifest : ResultManifest) (run : Run) : RunFinalization :=
  match manifest.conclusion with
  | .completed => .completed manifest run
  | .failed => .failed manifest run

/-- The terminal transition of a converged Run with its writes. -/
def concludeRun (command : RunCommand) (manifest : ResultManifest) (drawnEventIds : ℕ) :
    DagSchedulingResult (RunFinalization × List DagSchedulingWrite) :=
  if environment.storedManifest.isSome then
    .error ⟨"A running run already has a durable result manifest."⟩
  else
    let commandContext := convergenceContext hashes environment context command.type
      manifest.manifestHash drawnEventIds
    match applyRunCommand context.run command commandContext with
    | .error failure => .error ⟨failure.message⟩
    | .ok transition =>
        (finalizeConcludedCell hashes environment context manifest transition.run).map
          fun cellWrites => (.concluded manifest transition.run,
            .insertManifest manifest :: runTransitionWrites context command commandContext
              transition ++
              cellWrites)

def convergenceInput (stepRuns : List StepRun) : EvaluateRunConvergenceInput where
  artifacts := context.artifacts
  cost := context.cost
  createdAt := environment.now
  plan := context.plan
  reservations := context.reservations
  run := context.run
  stepRuns := stepRuns

/-- A Run that converged is completed or failed with its manifest and its cell. -/
def finalizeRun (stepRuns : List StepRun) (drawnEventIds : ℕ) :
    DagSchedulingResult (RunFinalization × List DagSchedulingWrite) :=
  match evaluateRunConvergence (convergenceInput environment context stepRuns) with
  | .error failure => .error ⟨failure.message⟩
  | .ok (.notReady reason) => .ok (.notReady reason, [])
  | .ok (.completed body) =>
      let manifest := identifiedManifest hashes body
      concludeRun hashes environment context (.completeRun manifest) manifest drawnEventIds
  | .ok (.failed body) =>
      let manifest := identifiedManifest hashes body
      concludeRun hashes environment context (.failRun manifest) manifest drawnEventIds

/-! ## The scheduling pass -/

private def terminalManifestMatches (run : Run) (manifest : ResultManifest) : Bool :=
  manifest.workspaceId == run.workspaceId && manifest.runId == run.runId &&
    manifest.runPlanId == run.runPlanId &&
    (match manifest.conclusion with
      | .completed => run.state == .completed
      | .failed => run.state == .failed) &&
    manifest.resultCompleteness == run.resultCompleteness &&
    manifest.sourceRunAggregateVersion + 1 == run.aggregateVersion &&
    run.resultManifest == some (resultManifestRef manifest)

/-- A terminal Run has the manifest that its state asks for. -/
def assertTerminalRunManifest : DagSchedulingResult Unit :=
  if (context.run.state != .failed && context.run.state != .completed) ||
      environment.storedManifest.any (terminalManifestMatches context.run) then .ok ()
  else .error ⟨"A stale terminal-run wake-up requires its identity-matching durable result manifest."⟩

def cancellationContext : RunCommandContext where
  commandIdentity := {
    idempotencyKey := "settle-cancellation:" ++ context.run.runId ++ ":" ++ context.plan.planHash
    commandHash := hashes.cancellationCommand context.run.runId .settleCancellation }
  expectedAggregateVersion := context.run.aggregateVersion
  eventIds := [environment.nextEventId 0]
  occurredAt := environment.now
  actorId := dagSchedulerActor
  correlationId := "dag-cancel:" ++ context.run.runId
  replayProof := none

/-- The Run leaves `cancelling` with its events and its journal entry. -/
def settleRunCancellation : DagSchedulingResult (List DagSchedulingWrite) :=
  let commandContext := cancellationContext hashes environment context
  match applyRunCommand context.run .settleCancellation commandContext with
  | .error failure => .error ⟨failure.message⟩
  | .ok transition =>
      (finalizeCancelledRecipeCell hashes environment context transition.run).map fun cellWrites =>
        runTransitionWrites context .settleCancellation commandContext transition ++ cellWrites

/-- The outcome that is reported of a job. -/
def classifyJobOutcome (convergence : RunFinalization) (materialized : MaterializedDagNodes)
    (readyNodeAuthorizationIsOpen : Bool) : DagSchedulingJobOutcome :=
  match convergence with
  | .failed .. => .failureFinalized
  | .completed .. => .successFinalized
  | .notReady reason =>
      if !materialized.created.isEmpty || !materialized.skipped.isEmpty then .stepsMaterialized
      else if !readyNodeAuthorizationIsOpen && reason == .stepCoverageIncomplete then .waiting
      else .blocked reason

/-- What a pass answers, with its writes. -/
structure DagSchedulingPass where
  outcome : DagSchedulingJobOutcome
  created : List StepRun
  skipped : List StepRun
  finalization : Option RunFinalization
  writes : List DagSchedulingWrite

def quietPass (outcome : DagSchedulingJobOutcome) (writes : List DagSchedulingWrite) :
    DagSchedulingPass where
  outcome := outcome
  created := []
  skipped := []
  finalization := none
  writes := writes ++ [.completeJob context.run.runId outcome]

private def schedulingPass : DagSchedulingResult DagSchedulingPass :=
  (materializeReadyNodes hashes environment context).bind fun materialized =>
    (finalizeRun hashes environment context materialized.stepRuns
      materialized.drawnEventIds).map fun finalization =>
        let outcome := classifyJobOutcome finalization.1 materialized
          (schedulingWindowIsOpen context environment.now)
        { outcome := outcome
          created := materialized.created
          skipped := materialized.skipped
          finalization := some finalization.1
          writes := materialized.writes ++ finalization.2 ++
            [.completeJob context.run.runId outcome] }

/-- The pass of a Run that is being cancelled. -/
def cancellingPass : DagSchedulingResult DagSchedulingPass :=
  (cancellationCanSettle context).bind fun settles =>
    if settles then
      (settleRunCancellation hashes environment context).map
        (quietPass context .staleTerminal)
    else .ok (quietPass context .waiting [])

/-- The pass of a Run that ended before. -/
def terminalPass : DagSchedulingResult DagSchedulingPass :=
  (assertTerminalRunManifest environment context).bind fun _ =>
    (finalizeCancelledRecipeCell hashes environment context context.run).map
      (quietPass context .staleTerminal)

/-- The pass over a claimed scheduling job. -/
def materializeNextDagRun : DagSchedulingResult DagSchedulingPass :=
  (assertContextIdentity context).bind fun _ =>
    match context.run.state with
    | .cancelled | .completed | .failed => terminalPass hashes environment context
    | .cancelling => cancellingPass hashes environment context
    | .running => schedulingPass hashes environment context
    | .queued | .waiting | .ambiguous => .ok (quietPass context .waiting [])

end

end Kurobara.Application
