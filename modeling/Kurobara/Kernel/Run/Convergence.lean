import Kurobara.Foundation.DoubleSum
import Kurobara.Kernel.Run.Lifecycle

/-! # Run convergence

`evaluateRunConvergence`: whether the steps of a Run, their attempts, reservations and
artifacts prove that the Run is completed or failed, and the manifest that says so.
The phases are checked in their order; each answers with a proof, with the reason for
which the Run cannot converge yet, or with a failure of the proof.
-/

namespace Kurobara.Kernel

open Foundation

/-! ## Inputs and decisions -/

/-- A result manifest without its identity. -/
structure ResultManifestBody where
  attemptSettlements : List ResultManifestAttemptSettlement
  compiledWorkflowFingerprint : String
  conclusion : RunConclusion
  cost : ResultManifestCost
  createdAt : Instant
  entries : List ResultManifestEntry
  output : ResultManifestOutput
  outputContract : ContractRef
  planHash : ContentHash
  resultCompleteness : ResultCompleteness
  runId : RunId
  runPlanId : RunPlanId
  sourceRunAggregateVersion : ℕ
  workspaceId : WorkspaceId
  deriving DecidableEq, Repr

/-- The manifest of a body under its hash and identifier. -/
def ResultManifestBody.identified (body : ResultManifestBody) (manifestHash : ContentHash)
    (resultManifestId : ResultManifestId) : ResultManifest where
  attemptSettlements := body.attemptSettlements
  compiledWorkflowFingerprint := body.compiledWorkflowFingerprint
  conclusion := body.conclusion
  cost := body.cost
  createdAt := body.createdAt
  entries := body.entries
  output := body.output
  outputContract := body.outputContract
  planHash := body.planHash
  resultCompleteness := body.resultCompleteness
  runId := body.runId
  runPlanId := body.runPlanId
  sourceRunAggregateVersion := body.sourceRunAggregateVersion
  workspaceId := body.workspaceId
  manifestHash := manifestHash
  resultManifestId := resultManifestId

/-- Why a Run cannot be concluded yet. -/
inductive RunConvergenceBlocker where
  | activeAttemptPresent
  | resultProofMissing
  | outputBindingAmbiguous
  | stepCoverageIncomplete
  | stepNotTerminal
  | unsettledCostPresent
  | unsupportedTerminalMix
  deriving DecidableEq, Repr

def RunConvergenceBlocker.text : RunConvergenceBlocker → String
  | .activeAttemptPresent => "active-attempt-present"
  | .resultProofMissing => "result-proof-missing"
  | .outputBindingAmbiguous => "output-binding-ambiguous"
  | .stepCoverageIncomplete => "step-coverage-incomplete"
  | .stepNotTerminal => "step-not-terminal"
  | .unsettledCostPresent => "unsettled-cost-present"
  | .unsupportedTerminalMix => "unsupported-terminal-mix"

inductive RunConvergenceInvariantFailureCode where
  | costProofInvalid
  | identityMismatch
  | reservationProofInvalid
  | stepProofInvalid
  deriving DecidableEq, Repr

structure RunConvergenceInvariantFailure where
  code : RunConvergenceInvariantFailureCode
  message : String
  deriving DecidableEq, Repr

/-- What an evaluation decides: not yet, or a conclusion with its manifest. -/
inductive RunConvergenceDecision where
  | notReady (reason : RunConvergenceBlocker)
  | completed (manifestBody : ResultManifestBody)
  | failed (manifestBody : ResultManifestBody)
  deriving DecidableEq, Repr

/-- What an evaluation reads of a Run. -/
structure EvaluateRunConvergenceInput where
  artifacts : List Artifact
  cost : ResultManifestCost
  createdAt : Instant
  plan : RunPlan
  reservations : List CostReservation
  run : Run
  stepRuns : List StepRun

/-- What a phase answers: its proof, or why the Run cannot converge yet. -/
inductive ConvergencePhase (Proof : Type) where
  | blocked (reason : RunConvergenceBlocker)
  | proved (proof : Proof)

/-- What a phase gives: its proof, a blocker, or an invariant failure. -/
abbrev ConvergencePhaseResult (Proof : Type) :=
  Except RunConvergenceInvariantFailure (ConvergencePhase Proof)

/-! ## Steps -/

/-- An attempt in this state can still move. -/
def nonTerminalAttemptState : AttemptState → Bool
  | .prepared | .claimed | .inFlight | .ambiguous => true
  | _ => false

/-- A step in this state does not move. -/
def terminalStepState : StepRunState → Bool
  | .succeeded | .failed | .skipped => true
  | _ => false

/-- The step of a node: the node keys of a Run's steps are distinct. -/
def stepOfNode (stepRuns : List StepRun) (nodeKey : String) : Option StepRun :=
  stepRuns.find? (·.nodeKey == nodeKey)

/-- The step Run is of this Run and of a node of its workflow, with the node's dependencies. -/
def stepIdentityIsValid (plan : RunPlan) (run : Run) (stepRun : StepRun) : Bool :=
  match plan.compiledWorkflow.nodes.find? (·.key == stepRun.nodeKey) with
  | none => false
  | some node => stepRun.workspaceId == run.workspaceId && stepRun.runId == run.runId &&
      stepRun.dependsOn == node.dependsOn

/-- The step Run has an attempt that can still move. -/
def attemptsAreOpen (stepRun : StepRun) : Bool :=
  stepRun.activeAttemptId.isSome ||
    stepRun.attempts.any (nonTerminalAttemptState ·.state)

/-- No attempt is open, and the last one ended the way the step did. -/
def attemptsAreCoherent (stepRun : StepRun) : Bool :=
  if attemptsAreOpen stepRun then false
  else
    let lastState := stepRun.attempts.getLast?.map Attempt.state
    match stepRun.state with
    | .skipped => stepRun.attempts.length == 0
    | .succeeded => lastState == some .succeeded
    | .failed => stepRun.attempts.length == 0 || lastState == some .failedRetryable ||
        lastState == some .failedTerminal
    | _ => false

def stateBlocks : StepRunState → Bool
  | .failed | .skipped => true
  | _ => false

/-- The dependencies that stop a step. -/
def blockedBy (stepRun : StepRun) (stepRuns : List StepRun) : List String :=
  stepRun.dependsOn.filter fun dependency =>
    (stepOfNode stepRuns dependency).any (stateBlocks ·.state)

private def stepProofFailure (message : String) : RunConvergenceInvariantFailure :=
  ⟨.stepProofInvalid, message⟩

/-- The steps in the order of their nodes. -/
def evaluateStepConvergenceProof (input : EvaluateRunConvergenceInput) :
    ConvergencePhaseResult (List StepRun) :=
  let nodeKeys := input.plan.compiledWorkflow.nodes.map CompiledWorkflowNode.key
  if !decide (input.stepRuns.map StepRun.nodeKey).Nodup ||
      input.stepRuns.any fun stepRun => !(nodeKeys.contains stepRun.nodeKey &&
        stepIdentityIsValid input.plan input.run stepRun) then
    .error (stepProofFailure "The convergence steps do not match the immutable compiled workflow.")
  else if input.stepRuns.length != nodeKeys.dedup.length then
    .ok (.blocked .stepCoverageIncomplete)
  else if input.stepRuns.any fun stepRun => !terminalStepState stepRun.state then
    .ok (.blocked .stepNotTerminal)
  else if input.stepRuns.any attemptsAreOpen then
    .ok (.blocked .activeAttemptPresent)
  else if input.stepRuns.any fun stepRun => !attemptsAreCoherent stepRun then
    .error (stepProofFailure "A terminal step has an incoherent terminal attempt history.")
  else if input.stepRuns.any fun stepRun =>
      stepRun.state == .skipped && (blockedBy stepRun input.stepRuns).length == 0 then
    .error (stepProofFailure "A skipped step has no terminal non-success dependency.")
  else
    match nodeKeys.mapM (stepOfNode input.stepRuns) with
    | none => .ok (.blocked .stepCoverageIncomplete)
    | some orderedSteps => .ok (.proved orderedSteps)

/-! ## Settlements -/

/-- The reservation was taken for an attempt of the step Run. -/
def reservationMatchesAttempt (run : Run) (stepRun : StepRun) (reservation : CostReservation) :
    Bool :=
  match stepRun.attempts.find? (·.attemptId == reservation.attemptId) with
  | none => false
  | some attempt => reservation.workspaceId == run.workspaceId &&
      reservation.runId == run.runId && reservation.stepRunId == stepRun.stepRunId &&
      reservation.reservationId == attempt.costReservationId &&
      reservation.operationKey == attempt.operationKey &&
      reservation.unit == attempt.reservationUnit &&
      amountsEqual reservation.amount attempt.reservedAmount

/-- The settlement that a reservation which left the reserved state records. -/
def toSettlement (reservation : CostReservation) : Option ResultManifestAttemptSettlement :=
  match reservation.state with
  | .reserved => none
  | .released _ => some {
      attemptId := reservation.attemptId
      disposition := .released
      operationKey := reservation.operationKey
      releasedAmount := reservation.amount
      reservationId := reservation.reservationId
      unit := reservation.unit
      settledAmount := none
      usageEntryId := none }
  | .settled settledAmount releasedAmount _ usageEntryId => some {
      attemptId := reservation.attemptId
      disposition := .settled
      operationKey := reservation.operationKey
      releasedAmount := releasedAmount
      reservationId := reservation.reservationId
      unit := reservation.unit
      settledAmount := some settledAmount
      usageEntryId := some usageEntryId }

def reservationOfAttempt (reservations : List CostReservation) (attemptId : AttemptId) :
    Option CostReservation :=
  reservations.find? (·.attemptId == attemptId)

private def reservationFailure (message : String) : RunConvergenceInvariantFailure :=
  ⟨.reservationProofInvalid, message⟩

private def costProofFailure (message : String) : RunConvergenceInvariantFailure :=
  ⟨.costProofInvalid, message⟩

/-- `amountsEqual` on the doubles that amounts are read as, within four units of the last
place. -/
def doubleAmountsEqual (left right : ℚ) : Bool :=
  isAmount left && isAmount right && doublesAreClose 4 left right

/-- The initial spend plus the settled amounts, added as doubles in their order. -/
def expectedSpent (initial : Amount) (settledAmounts : List Amount) : ℚ :=
  nearestDouble (nearestDouble initial + sumDoublesFrom 0 settledAmounts)

/-- The settlements in the order of the steps and their attempts. -/
def evaluateSettlementConvergenceProof (input : EvaluateRunConvergenceInput)
    (orderedSteps : List StepRun) :
    ConvergencePhaseResult (List ResultManifestAttemptSettlement) :=
  let attempts := orderedSteps.flatMap StepRun.attempts
  if !decide (input.reservations.map CostReservation.attemptId).Nodup ||
      input.reservations.length != attempts.length ||
      input.reservations.any fun reservation =>
        !(orderedSteps.find? (·.stepRunId == reservation.stepRunId)).any
          (reservationMatchesAttempt input.run · reservation) then
    .error (reservationFailure ("Every durable attempt must have exactly one identity-matching " ++
      "reservation receipt."))
  else if !amountsEqual input.cost.reserved 0 ||
      input.reservations.any fun reservation => reservation.state == .reserved then
    .ok (.blocked .unsettledCostPresent)
  else
    match attempts.mapM fun attempt =>
      (reservationOfAttempt input.reservations attempt.attemptId).bind toSettlement with
    | none => .error (reservationFailure
        "The ordered convergence settlement proof is incomplete or unsettled.")
    | some orderedSettlements =>
        if !doubleAmountsEqual (nearestDouble input.cost.spent) (expectedSpent
            input.plan.budget.spent (orderedSettlements.map (·.settledAmount.getD 0))) then
          .error (costProofFailure
            "The run cost snapshot does not equal its initial spend plus settled usage receipts.")
        else .ok (.proved orderedSettlements)

/-! ## The manifest -/

/-- The state of an entry, by its step's. -/
def manifestEntryState : StepRunState → ResultManifestEntryState
  | .succeeded => .succeeded
  | .failed => .failed
  -- The steps of a manifest are terminal.
  | _ => .skipped

private def manifestMissingReason : ResultManifestEntryState → ResultManifestMissingReason
  | .failed => .stepFailed
  | .skipped => .blockedByDependency
  | .succeeded => .resultReferenceNotPersisted

/-- The output of an entry, or why there is none. -/
def manifestEntryResult (stepRun : StepRun) : ResultManifestEntryResult :=
  let state := manifestEntryState stepRun.state
  match state, stepRun.attempts.getLast?.bind Attempt.output with
  | .succeeded, some output => .accepted output
  | _, _ => .missing (manifestMissingReason state)

/-- The entry of a step. -/
def toManifestEntry (stepRuns : List StepRun) (stepRun : StepRun) : ResultManifestEntry where
  nodeKey := stepRun.nodeKey
  result := manifestEntryResult stepRun
  state := manifestEntryState stepRun.state
  stepAggregateVersion := stepRun.aggregateVersion
  stepEventSequence := stepRun.eventSequence
  stepRunId := stepRun.stepRunId
  blockedByNodeKeys :=
    let blocking := if manifestEntryState stepRun.state == .skipped then blockedBy stepRun stepRuns
      else []
    if blocking.isEmpty then none else some blocking
  terminalAttemptId := stepRun.attempts.getLast?.map Attempt.attemptId

/-- The manifest before its hash. -/
def manifestBody (input : EvaluateRunConvergenceInput) (orderedSteps : List StepRun)
    (settlements : List ResultManifestAttemptSettlement) (conclusion : RunConclusion)
    (output : ResultManifestOutput) (resultCompleteness : ResultCompleteness) :
    ResultManifestBody where
  attemptSettlements := settlements
  compiledWorkflowFingerprint := input.plan.compiledWorkflow.fingerprint
  conclusion := conclusion
  cost := ⟨0, input.cost.spent, input.cost.unit⟩
  createdAt := input.createdAt
  entries := orderedSteps.map (toManifestEntry input.stepRuns)
  output := output
  outputContract := input.plan.outputContract
  planHash := input.plan.planHash
  resultCompleteness := resultCompleteness
  runId := input.run.runId
  runPlanId := input.run.runPlanId
  sourceRunAggregateVersion := input.run.aggregateVersion
  workspaceId := input.run.workspaceId

/-! ## The output -/

/-- The nodes that no node depends on. -/
def sinkNodes (workflow : CompiledWorkflow) : List CompiledWorkflowNode :=
  let dependedOn := workflow.nodes.flatMap CompiledWorkflowNode.dependsOn
  workflow.nodes.filter fun node => !dependedOn.contains node.key

/-- The artifact was stored for this output of this attempt. -/
def artifactMatchesOutput (artifact : Artifact) (output : ValidatedOutputRef) (stepRun : StepRun)
    (attempt : Attempt) : Bool :=
  artifact.artifactId == output.artifact.artifactId &&
    artifact.contentHash == output.artifact.contentHash &&
    artifact.contract == output.contract && artifact.workspaceId == stepRun.workspaceId &&
    artifact.runId == stepRun.runId && artifact.stepRunId == stepRun.stepRunId &&
    artifact.attemptId == attempt.attemptId && artifact.operationKey == attempt.operationKey &&
    isSafeInteger artifact.sizeBytes && artifact.validatedAt == output.validatedAt &&
    artifact.validatorVersion == output.validatorVersion && nonBlank output.validatorVersion &&
    decide (output.validatedAt ≤ artifact.finalizedAt)

/-- The output that the only sink succeeded with, proved by its artifact. -/
def evaluateOutputProof (input : EvaluateRunConvergenceInput) :
    ConvergencePhaseResult ValidatedOutputRef :=
  match sinkNodes input.plan.compiledWorkflow with
  | [sink] =>
      match (stepOfNode input.stepRuns sink.key).bind fun sinkStep =>
        sinkStep.attempts.getLast?.bind fun attempt =>
          attempt.output.map fun output => (sinkStep, attempt, output) with
      | none => .ok (.blocked .resultProofMissing)
      | some (sinkStep, terminalAttempt, output) =>
          if !decide (input.artifacts.map Artifact.artifactId).Nodup then
            .error (stepProofFailure "The output artifact proof contains duplicate identities.")
          else
            match input.artifacts.find? (·.artifactId == output.artifact.artifactId) with
            | none => .ok (.blocked .resultProofMissing)
            | some artifact =>
                if !(artifactMatchesOutput artifact output sinkStep terminalAttempt &&
                    output.contract == input.plan.outputContract) ||
                    decide (input.createdAt < artifact.finalizedAt) then
                  .error (stepProofFailure
                    ("The unique sink output does not match its finalized " ++
                    "artifact and immutable output contract."))
                else .ok (.proved output)
  | _ => .ok (.blocked .outputBindingAmbiguous)

/-! ## The decision -/

/-- `evaluateRunConvergence`: steps, settlements, outputs and sink, each phase before the next. -/
def evaluateRunConvergence (input : EvaluateRunConvergenceInput) :
    Except RunConvergenceInvariantFailure RunConvergenceDecision :=
  if input.plan.workspaceId != input.run.workspaceId ||
      input.plan.runPlanId != input.run.runPlanId then
    .error ⟨.identityMismatch, "The convergence plan does not belong to the target run."⟩
  else if input.cost.unit != input.plan.budget.unit || !isAmount input.cost.spent ||
      !isAmount input.cost.reserved then
    .error (costProofFailure "The run cost proof is malformed or uses another unit.")
  else
    match evaluateStepConvergenceProof input with
    | .error failure => .error failure
    | .ok (.blocked reason) => .ok (.notReady reason)
    | .ok (.proved orderedSteps) =>
    match evaluateSettlementConvergenceProof input orderedSteps with
    | .error failure => .error failure
    | .ok (.blocked reason) => .ok (.notReady reason)
    | .ok (.proved settlements) =>
        if orderedSteps.any fun stepRun => stepRun.state == .failed then
          .ok (.failed (manifestBody input orderedSteps settlements .failed (.missing .runFailed)
            .none))
        else
          match evaluateOutputProof input with
          | .error failure => .error failure
          | .ok (.blocked reason) => .ok (.notReady reason)
          | .ok (.proved output) =>
              .ok (.completed (manifestBody input orderedSteps settlements .completed
                (.accepted output) .complete))

end Kurobara.Kernel
