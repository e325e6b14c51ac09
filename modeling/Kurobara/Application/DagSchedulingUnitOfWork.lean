import Kurobara.Application.MaterializeNextDagRun

/-! # The unit of work of a scheduling pass

`makeDagScheduling`: the transaction in which a pass runs. It checks each write against the
claimed context and against the writes before it, and commits once the job is completed with
an outcome that its writes bear out. A write that it does not know throws, and the
transaction is rolled back.
-/

namespace Kurobara.Application

open Kernel

inductive DagAdapterErrorCode where
  | databaseIdentityMismatch
  | workspaceScopeMismatch
  deriving DecidableEq, Repr

structure DagAdapterError where
  code : DagAdapterErrorCode
  message : String
  deriving DecidableEq, Repr

/-- What the transaction remembers of its writes. The scope of a pass is the workspace of the
Run that it claimed. -/
structure DagUnitOfWork where
  claimedContext : DagSchedulingContext
  knownSteps : List StepRun
  insertedStepCount : ℕ
  insertedManifest : Option ResultManifest
  updatedRun : Option Run
  appendedRunEvents : List RunLifecycleEvent
  insertedTerminalCommandType : Option RunCommandType
  finalizedRecipeCell : Bool
  completedJob : Option DagSchedulingJobOutcome

/-- Nothing is written yet. -/
def claimedUnitOfWork (context : DagSchedulingContext) : DagUnitOfWork where
  claimedContext := context
  knownSteps := context.stepRuns
  insertedStepCount := 0
  insertedManifest := none
  updatedRun := none
  appendedRunEvents := []
  insertedTerminalCommandType := none
  finalizedRecipeCell := false
  completedJob := none

/-! ## Steps -/

private def isUntouchedStep (stepRun : StepRun) : Bool :=
  stepRun.aggregateVersion == 1 && stepRun.eventSequence == 1 && stepRun.attempts.isEmpty &&
    stepRun.activeAttemptId.isNone

private def dependenciesMatch (context : DagSchedulingContext) (stepRun : StepRun) : Bool :=
  (context.plan.compiledWorkflow.nodes.find? (·.key == stepRun.nodeKey)).any
    (·.dependsOn == stepRun.dependsOn)

private def stepEventMatches (stepRun : StepRun) (event : StepLifecycleEvent) : Bool :=
  event.workspaceId == stepRun.workspaceId && event.runId == stepRun.runId &&
    event.stepRunId == stepRun.stepRunId && event.sequence == 1 &&
    event.occurredAt == stepRun.createdAt

private def stepOfRunningContext (context : DagSchedulingContext) (stepRun : StepRun) : Bool :=
  context.run.state == .running && stepRun.workspaceId == context.run.workspaceId &&
    stepRun.runId == context.run.runId

/-- An inserted step is an untouched step of the claimed Run, with its own event. -/
def dagSchedulingIdentityMatches (context : DagSchedulingContext) (stepRun : StepRun)
    (event : StepLifecycleEvent) : Bool :=
  stepOfRunningContext context stepRun && stepRun.state == .ready && isUntouchedStep stepRun &&
    dependenciesMatch context stepRun && stepEventMatches stepRun event &&
    event.detail == .stepReady stepRun.nodeKey

/-- The last step that was inserted for a node stands for it. -/
def knownStep (knownSteps : List StepRun) (nodeKey : String) : Option StepRun :=
  knownSteps.reverse.find? (·.nodeKey == nodeKey)

private def blockedByAreTerminalDependencies (knownSteps : List StepRun) (stepRun : StepRun)
    (blockedByNodeKeys : List String) : Bool :=
  !blockedByNodeKeys.isEmpty && blockedByNodeKeys.all fun blockedNodeKey =>
    stepRun.dependsOn.contains blockedNodeKey && (knownStep knownSteps blockedNodeKey).any
      fun dependency => dependency.state == .failed || dependency.state == .skipped

/-- A skipped step is blocked by steps that the transaction knows as terminal. -/
def dagSchedulingSkippedIdentityMatches (context : DagSchedulingContext)
    (knownSteps : List StepRun) (stepRun : StepRun) (event : StepLifecycleEvent) : Bool :=
  stepOfRunningContext context stepRun && stepRun.state == .skipped && isUntouchedStep stepRun &&
    dependenciesMatch context stepRun && stepEventMatches stepRun event &&
    match event.detail with
    | .stepSkipped blockedByNodeKeys =>
        blockedByAreTerminalDependencies knownSteps stepRun blockedByNodeKeys
    | _ => false

/-! ## Outcomes -/

/-- The terminal bundle of a conclusion: its manifest, its Run, its two events and its
command. -/
def terminalBundleMatches (work : DagUnitOfWork) (state : RunState) (conclusion : RunConclusion)
    (completeness : ResultCompleteness) (terminalEvent : RunLifecycleEventDetail)
    (commandType : RunCommandType) : Bool :=
  match work.insertedManifest, work.updatedRun, work.appendedRunEvents with
  | some manifest, some run, [manifestEvent, terminal] =>
      run.state == state && manifest.conclusion == conclusion &&
        manifest.resultCompleteness == completeness &&
        run.aggregateVersion == manifest.sourceRunAggregateVersion + 1 &&
        run.resultManifest == some (resultManifestRef manifest) &&
        manifestEvent.detail == .runResultManifestRecorded conclusion manifest.manifestHash
          completeness manifest.resultManifestId &&
        terminal.detail == terminalEvent && terminal.sequence == manifestEvent.sequence + 1 &&
        run.eventSequence == terminal.sequence && manifestEvent.actorId == terminal.actorId &&
        manifestEvent.correlationId == terminal.correlationId &&
        work.insertedTerminalCommandType == some commandType
  | _, _, _ => false

/-- A terminal outcome comes with its manifest, its Run, its events and its command. -/
def terminalBundleMatchesOutcome (work : DagUnitOfWork) : DagSchedulingJobOutcome → Bool
  | .successFinalized => terminalBundleMatches work .completed .completed .complete
      (.runCompleted .complete) .completeRun
  | .failureFinalized => terminalBundleMatches work .failed .failed .none (.runFailed .none)
      .failRun
  | _ => true

/-- Steps are inserted exactly when the outcome says so. -/
def outcomeMatchesTransactionEffects (claimedRunState : RunState) (insertedStepCount : ℕ) :
    DagSchedulingJobOutcome → Bool
  | .stepsMaterialized => decide (0 < insertedStepCount)
  | .failureFinalized | .successFinalized => true
  | .staleTerminal => insertedStepCount == 0 && (claimedRunState == .cancelled ||
      claimedRunState == .completed || claimedRunState == .failed)
  | .waiting | .blocked _ => insertedStepCount == 0

/-- A recipe cell is finalized with its Run, and only then. -/
def recipeCellEffectsMatchOutcome (context : DagSchedulingContext) (finalizedRecipeCell : Bool)
    (outcome : DagSchedulingJobOutcome) : Bool :=
  match context.recipeCell with
  | none => !finalizedRecipeCell
  | some cell =>
      match outcome with
      | .failureFinalized | .successFinalized => finalizedRecipeCell
      | .staleTerminal =>
          if context.run.state == .cancelled then finalizedRecipeCell
          else !finalizedRecipeCell &&
            (cell.current.status == .failed || cell.current.status == .succeeded)
      | .stepsMaterialized | .waiting | .blocked _ => !finalizedRecipeCell

/-! ## Cells -/

/-- The status that the state of a Run gives its cell. -/
def terminalCellStatusForRun : RunState → Option CellResultStatus
  | .completed => some .succeeded
  | .failed => some .failed
  | .cancelled => some .skipped
  | _ => none

/-- `assertClaimedCellFinalization`. -/
def cellFinalizationIsClaimed (work : DagUnitOfWork) (finalization : DagCellResultFinalization) :
    Bool :=
  let terminalRun := work.updatedRun.getD work.claimedContext.run
  !work.finalizedRecipeCell &&
    work.claimedContext.recipeCell.any
      (·.current.cellResultId == finalization.cellResult.cellResultId) &&
    finalization.cellResult.runId == terminalRun.runId &&
    terminalCellStatusForRun terminalRun.state == some finalization.cellResult.status &&
    finalization.sourceRunAggregateVersion == terminalRun.aggregateVersion

/-! ## Writes -/

private def dagIdentityMismatch (message : String) : Except DagAdapterError DagUnitOfWork :=
  .error ⟨.databaseIdentityMismatch, message⟩

private def manifestMatchesClaim (work : DagUnitOfWork) (manifest : ResultManifest) : Bool :=
  let context := work.claimedContext
  manifest.workspaceId == context.run.workspaceId && manifest.runId == context.run.runId &&
    manifest.runPlanId == context.run.runPlanId && manifest.planHash == context.plan.planHash &&
    manifest.sourceRunAggregateVersion == context.run.aggregateVersion &&
    manifest.cost.unit == context.cost.unit &&
    amountsEqual manifest.cost.reserved context.cost.reserved &&
    amountsEqual manifest.cost.spent context.cost.spent && work.insertedManifest.isNone

/-- The events that the transaction knows: the manifest and the end of a Run. -/
def isConvergenceEvent : RunLifecycleEventDetail → Bool
  | .runResultManifestRecorded .. | .runFailed _ | .runCompleted _ => true
  | _ => false

private def eventMatchesClaim (context : DagSchedulingContext) (event : RunLifecycleEvent) : Bool :=
  event.workspaceId == context.run.workspaceId && event.runId == context.run.runId &&
    isConvergenceEvent event.detail

private def commandMatchesClaim (work : DagUnitOfWork) (proof : RunCommandReplayProof) : Bool :=
  proof.workspaceId == work.claimedContext.run.workspaceId &&
    proof.runId == work.claimedContext.run.runId &&
    (proof.commandType == .failRun || proof.commandType == .completeRun) &&
    work.insertedTerminalCommandType.isNone

private def runMatchesClaim (work : DagUnitOfWork) (expectedAggregateVersion : ℕ) (run : Run) :
    Bool :=
  run.workspaceId == work.claimedContext.run.workspaceId &&
    run.runId == work.claimedContext.run.runId &&
    expectedAggregateVersion == work.claimedContext.run.aggregateVersion &&
    work.updatedRun.isNone

/-- One write in the transaction, or the error that rolls it back. -/
def DagUnitOfWork.apply (work : DagUnitOfWork) :
    DagSchedulingWrite → Except DagAdapterError DagUnitOfWork
  | .insertReady stepRun event =>
      if !dagSchedulingIdentityMatches work.claimedContext stepRun event then
        dagIdentityMismatch "The ready step or event does not match the claimed DAG node."
      else .ok { work with
        insertedStepCount := work.insertedStepCount + 1
        knownSteps := work.knownSteps ++ [stepRun] }
  | .requestRouting _ => .ok work
  | .insertSkipped stepRun event =>
      if !dagSchedulingSkippedIdentityMatches work.claimedContext work.knownSteps stepRun event then
        dagIdentityMismatch "The skipped step or event does not match the claimed DAG node."
      else .ok { work with
        insertedStepCount := work.insertedStepCount + 1
        knownSteps := work.knownSteps ++ [stepRun] }
  | .insertManifest manifest =>
      if !manifestMatchesClaim work manifest then
        dagIdentityMismatch "The result manifest does not match the claimed convergence proof."
      else .ok { work with insertedManifest := some manifest }
  | .updateRun expectedAggregateVersion run =>
      if !runMatchesClaim work expectedAggregateVersion run then
        dagIdentityMismatch "The converged run does not match the claimed aggregate."
      else .ok { work with updatedRun := some run }
  | .appendRunEvent event =>
      if !eventMatchesClaim work.claimedContext event then
        dagIdentityMismatch "The convergence lifecycle event does not match the claimed run."
      else .ok { work with appendedRunEvents := work.appendedRunEvents ++ [event] }
  | .insertRunCommand proof _ _ =>
      if !commandMatchesClaim work proof then
        dagIdentityMismatch "The convergence command proof does not match the claimed run."
      else .ok { work with insertedTerminalCommandType := some proof.commandType }
  | .finalizeCellResult finalization =>
      if !cellFinalizationIsClaimed work finalization then
        dagIdentityMismatch "The CellResult finalization does not match the claimed terminal Run."
      else .ok { work with finalizedRecipeCell := true }
  | .completeJob runId outcome =>
      if runId != work.claimedContext.run.runId then
        .error ⟨.workspaceScopeMismatch,
          "The DAG schedule completion does not match the claimed run."⟩
      else if !(terminalBundleMatchesOutcome work outcome &&
          outcomeMatchesTransactionEffects work.claimedContext.run.state work.insertedStepCount
            outcome &&
          recipeCellEffectsMatchOutcome work.claimedContext work.finalizedRecipeCell outcome) then
        dagIdentityMismatch "The DAG schedule outcome does not match its transaction effects."
      else .ok { work with completedJob := some outcome }

/-- The writes of a pass, in the transaction that claimed its context. -/
def commitDagScheduling (context : DagSchedulingContext) (writes : List DagSchedulingWrite) :
    Except DagAdapterError DagUnitOfWork :=
  writes.foldlM DagUnitOfWork.apply (claimedUnitOfWork context)

/-- A write that no transaction takes rolls every transaction with it back. -/
theorem commitDagScheduling_rejects {context : DagSchedulingContext}
    {writes : List DagSchedulingWrite} {write : DagSchedulingWrite} (member : write ∈ writes)
    (rejected : ∀ work : DagUnitOfWork, ∃ failure, work.apply write = .error failure) :
    ∃ failure, commitDagScheduling context writes = .error failure := by
  unfold commitDagScheduling
  generalize claimedUnitOfWork context = work
  induction writes generalizing work with
  | nil => cases member
  | cons head rest ih =>
      rw [List.foldlM_cons]
      cases applied : work.apply head with
      | error failure => exact ⟨failure, rfl⟩
      | ok next =>
          rcases List.mem_cons.mp member with rfl | later
          · obtain ⟨failure, refused⟩ := rejected work
            rw [applied] at refused
            cases refused
          · exact ih later next

/-- The transaction does not know the cancellation of a Run. -/
theorem appendRunEvent_runCancelled {event : RunLifecycleEvent} {reason : StopReason}
    (cancelled : event.detail = .runCancelled reason) (work : DagUnitOfWork) :
    ∃ failure, work.apply (.appendRunEvent event) = .error failure := by
  refine ⟨⟨.databaseIdentityMismatch,
    "The convergence lifecycle event does not match the claimed run."⟩, ?_⟩
  simp [DagUnitOfWork.apply, eventMatchesClaim, cancelled, isConvergenceEvent, dagIdentityMismatch]

/-- A job that waits is completed without any other write. -/
theorem commitDagScheduling_waiting (context : DagSchedulingContext) :
    commitDagScheduling context [.completeJob context.run.runId .waiting] =
      .ok { claimedUnitOfWork context with completedJob := some .waiting } := by
  have cells : recipeCellEffectsMatchOutcome context false .waiting = true := by
    unfold recipeCellEffectsMatchOutcome
    cases context.recipeCell <;> rfl
  have applied : (claimedUnitOfWork context).apply (.completeJob context.run.runId .waiting) =
      .ok { claimedUnitOfWork context with completedJob := some .waiting } := by
    simp [DagUnitOfWork.apply, claimedUnitOfWork, terminalBundleMatchesOutcome,
      outcomeMatchesTransactionEffects, cells]
  rw [commitDagScheduling, List.foldlM_cons, applied]
  rfl

/-- The exceptions that roll a scheduling transaction back. -/
inductive DagTransactionError where
  | invariant (failure : DagSchedulingInvariantError)
  | adapter (failure : DagAdapterError)
  deriving DecidableEq, Repr

section

variable (hashes : DagCanonicalHashes) (environment : DagSchedulingEnvironment)
  (context : DagSchedulingContext)

/-- A claimed job in its transaction. A pass issues its writes as it goes, so where both the
pass and a write throw, which of the two exceptions is seen is left open here. -/
def dagSchedulingTransaction : Except DagTransactionError DagUnitOfWork :=
  match materializeNextDagRun hashes environment context with
  | .error failure => .error (.invariant failure)
  | .ok pass =>
      match commitDagScheduling context pass.writes with
      | .error failure => .error (.adapter failure)
      | .ok work => .ok work

end

end Kurobara.Application
