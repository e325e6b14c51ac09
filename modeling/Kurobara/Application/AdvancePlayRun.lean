import Kurobara.Persistence.PlayRunRows
import Kurobara.Application.GtmPlay

/-! # Advancing a Play run

A worker claims a Play run, advances its first stage that is not completed, and stores the
progress under its claim. What the stage's effects answer is given to each step; no answer is
an exception.
-/

namespace Kurobara.Application

open Kurobara.Kernel Kurobara.Persistence

inductive GtmPlayGenerationState where
  | ambiguous
  | cancelled
  | completed
  | failed
  | running
deriving DecidableEq, Repr

/-- What the executor reports of the generation behind a stage. -/
structure GtmPlayGenerationSnapshot where
  cost : GtmPlayCost
  datasetId : Option DatasetId
  error : Option GtmPlayError
  generationId : String
  materializationId : Option DatasetMaterializationId
  provenance : List String
  providerCalls : ℚ
  recordCount : Option ℚ
  selectedRecordIds : Option (List String)
  selectionReasons : Option (List GtmWorkbookSelectionReason)
  state : GtmPlayGenerationState
deriving DecidableEq, Repr

structure GtmPlayProjectionResult where
  provenance : List String
  result : GtmPlayRunResult
deriving DecidableEq, Repr

/-- What the effects of one step answer for a run and its current stage. -/
structure PlayStageEffects where
  inspectGeneration : StoredGtmPlayRun → GtmPlayRunStageReceipt → Option GtmPlayGenerationSnapshot
  projectWorkbook : StoredGtmPlayRun → GtmPlayRunStageReceipt → Option GtmPlayProjectionResult
  startStage : StoredGtmPlayRun → GtmPlayRunStageReceipt → Option GtmPlayGenerationSnapshot

/-- What an advance makes of a run. -/
structure PlayProgress where
  execution : GtmPlayRunExecution
  state : GtmPlayRunState
deriving DecidableEq, Repr

/-- The costs, calls and provenance of a run, summed over its stages. -/
def aggregateExecution (execution : GtmPlayRunExecution)
    (stages : List GtmPlayRunStageReceipt) (provenance : List String) : GtmPlayRunExecution :=
  { execution with
    cost :=
      { reserved := (stages.map fun stage => stage.cost.reserved).sum
        spent := (stages.map fun stage => stage.cost.spent).sum
        unit := execution.cost.unit }
    providerCalls := (stages.map fun stage => stage.providerCalls).sum
    provenance := (execution.provenance ++ provenance).eraseDups.take 256
    stages := stages }

def terminalExecution (execution : GtmPlayRunExecution) (error : GtmPlayError) :
    GtmPlayRunExecution :=
  { execution with error := some error }

/-- A stage fails with its generation, however that one ended. -/
def snapshotStageState : GtmPlayGenerationState → GtmPlayRunStageState
  | .completed => .completed
  | .running => .running
  | _ => .failed

def snapshotStage (current : GtmPlayRunStageReceipt) (snapshot : GtmPlayGenerationSnapshot) :
    GtmPlayRunStageReceipt where
  cost := snapshot.cost
  datasetId := snapshot.datasetId
  generationId := some snapshot.generationId
  materializationId := snapshot.materializationId
  operationId := current.operationId
  ordinal := current.ordinal
  providerCalls := snapshot.providerCalls
  recordCount := snapshot.recordCount
  state := snapshotStageState snapshot.state

def replaceStage (stages : List GtmPlayRunStageReceipt) (replacement : GtmPlayRunStageReceipt) :
    List GtmPlayRunStageReceipt :=
  stages.map fun stage => if stage.ordinal = replacement.ordinal then replacement else stage

/-- An ambiguous generation pauses the run; a person has to look at it. -/
def failureState : GtmPlayGenerationState → GtmPlayRunState
  | .cancelled => .cancelled
  | .ambiguous => .paused
  | _ => .failed

def projectionError : GtmPlayError where
  code := "play-workbook-projection-failed"
  message := "The final Workbook could not be projected from the durable dataset."
  retryable := true

/-- The workbook stage once it is projected. -/
def projectedStage (current : GtmPlayRunStageReceipt) (projected : GtmPlayProjectionResult) :
    GtmPlayRunStageReceipt :=
  { current with
    datasetId := some projected.result.datasetId
    materializationId := some projected.result.materializationId
    recordCount := some projected.result.recordCount
    state := .completed }

/-- The last stage: the workbook is projected from the dataset before it. -/
def projectWorkbookStage (effects : PlayStageEffects) (run : StoredGtmPlayRun)
    (current : GtmPlayRunStageReceipt) (execution : GtmPlayRunExecution) : PlayProgress :=
  match effects.projectWorkbook run current with
  | some projected =>
      { execution := aggregateExecution
          { execution with
            currentStageOrdinal := some current.ordinal
            result := some projected.result }
          (replaceStage execution.stages (projectedStage current projected))
          projected.provenance
        state := .completed }
  | none => { execution := terminalExecution execution projectionError, state := .paused }

/-- What stands for a stage that the executor does not answer for. -/
def unavailableSnapshot (current : GtmPlayRunStageReceipt) : GtmPlayGenerationSnapshot where
  cost := current.cost
  datasetId := none
  error := some
    { code := "play-stage-unavailable"
      message := "The durable child generation could not be started or inspected."
      retryable := true }
  generationId := current.generationId.getD ("unavailable-" ++ toString current.ordinal)
  materializationId := none
  provenance := []
  providerCalls := current.providerCalls
  recordCount := none
  selectedRecordIds := none
  selectionReasons := none
  state := .ambiguous

/-- A pending stage is started; a running one is only looked at. -/
def captureStageSnapshot (effects : PlayStageEffects) (run : StoredGtmPlayRun)
    (current : GtmPlayRunStageReceipt) : GtmPlayGenerationSnapshot :=
  let captured :=
    if current.state = .pending then effects.startStage run current
    else effects.inspectGeneration run current
  captured.getD (unavailableSnapshot current)

/-- The calls, the unit or the cost of the stages are not those that were approved. -/
def exceedsAuthorityCaps (execution : GtmPlayRunExecution) (run : StoredGtmPlayRun) : Bool :=
  decide (run.definition.preview.maxProviderCalls < execution.providerCalls) ||
    decide (execution.cost.unit ≠ run.definition.budget.unit) ||
    decide (run.definition.budget.limit < execution.cost.reserved) ||
    decide (run.definition.budget.limit < execution.cost.spent)

private def capError : GtmPlayError where
  code := "play-budget-cap-exceeded"
  message := "A durable stage receipt exceeded the approved Play budget or provider-call cap."
  retryable := false

private def snapshotStateText : GtmPlayGenerationState → String
  | .ambiguous => "ambiguous"
  | .cancelled => "cancelled"
  | .completed => "completed"
  | .failed => "failed"
  | .running => "running"

private def stageError (snapshot : GtmPlayGenerationSnapshot) : GtmPlayError :=
  snapshot.error.getD
    { code := "play-stage-" ++ snapshotStateText snapshot.state
      message := "A durable child generation did not complete successfully."
      retryable := snapshot.state == .ambiguous }

/-- The execution after a snapshot of the current stage. -/
def capturedExecution (execution : GtmPlayRunExecution) (current : GtmPlayRunStageReceipt)
    (snapshot : GtmPlayGenerationSnapshot) : GtmPlayRunExecution :=
  aggregateExecution
    { execution with
      currentStageOrdinal := some current.ordinal
      selectedRecordIds := snapshot.selectedRecordIds.getD execution.selectedRecordIds
      selectionReasons := snapshot.selectionReasons.getD execution.selectionReasons }
    (replaceStage execution.stages (snapshotStage current snapshot)) snapshot.provenance

/-- One generation stage of a run, with what its snapshot makes of the run. -/
def advanceGenerationStage (effects : PlayStageEffects) (run : StoredGtmPlayRun)
    (current : GtmPlayRunStageReceipt) (execution : GtmPlayRunExecution) : PlayProgress :=
  let snapshot := captureStageSnapshot effects run current
  let nextExecution := capturedExecution execution current snapshot
  if exceedsAuthorityCaps nextExecution run then
    { execution := terminalExecution nextExecution capError, state := .failed }
  else
    match snapshot.state with
    | .failed | .cancelled | .ambiguous =>
        { execution := terminalExecution nextExecution (stageError snapshot)
          state := failureState snapshot.state }
    | .completed | .running =>
        { execution := nextExecution
          state := if run.state = .queued then .running else run.state }

def deadlineError : GtmPlayError where
  code := "play-deadline-elapsed"
  message := "The Play deadline elapsed before the next durable checkpoint."
  retryable := false

def checkpointError : GtmPlayError where
  code := "play-checkpoint-invalid"
  message := "The Play has no remaining stage and no terminal result."
  retryable := false

/-- The first stage that is not completed. -/
def currentStage (stages : List GtmPlayRunStageReceipt) : Option GtmPlayRunStageReceipt :=
  stages.find? fun stage => stage.state != .completed

/-- The progress of a claimed run: past its deadline it fails, else its first open stage moves. -/
def advanceClaimedRun (effects : PlayStageEffects) (run : StoredGtmPlayRun) (nowMs : Instant) :
    PlayProgress :=
  if run.definition.deadlineMs ≤ nowMs then
    { execution := terminalExecution run.execution deadlineError, state := .failed }
  else
    match currentStage run.execution.stages with
    | none => { execution := terminalExecution run.execution checkpointError, state := .failed }
    | some current =>
        if current.operationId == "workbooks.project" && current.state == .pending then
          projectWorkbookStage effects run current run.execution
        else advanceGenerationStage effects run current run.execution

/-- The update that a worker stores for its claim. -/
def progressUpdate (effects : PlayStageEffects) (claim : GtmPlayRunClaim) (nowMs : Instant) :
    GtmPlayRunUpdate :=
  let progress := advanceClaimedRun effects claim.run nowMs
  { claimToken := claim.lease.claimToken
    execution := progress.execution
    expectedRevision := claim.run.revision
    runId := claim.run.runId
    state := progress.state
    updatedAtMs := nowMs }

end Kurobara.Application
