import Kurobara.Kernel.Step.Invariant
import Kurobara.Persistence.LeafOutboxRows
import Kurobara.Persistence.ParentEffects

/-! # The rows of one step

What a transaction on one step locks, reads and writes: the Run with its plan, the
step with its command journal, the cost ledger, the output artifacts, the leaf
bindings, the generation that the Run is a page of, and the wake-ups that the
transaction leaves for the scheduler and the router.
-/

namespace Kurobara.Persistence

open Kernel

/-- Hash and byte size of the canonical JSON text of a normalized value. -/
structure ContentEvidence (Value : Type) where
  contentHash : Value → ContentHash
  byteSize : Value → ℕ

/-- The input of a Run, with the contract it was validated against. -/
structure ValidatedRunInput (Value : Type) where
  classification : String
  contentHash : ContentHash
  contract : ContractRef
  finalizedAt : Instant
  inputId : String
  mediaType : String
  sizeBytes : ℕ
  validatedAt : Instant
  validatorVersion : String
  value : Value
  deriving DecidableEq, Repr

/-- The rows that the transition of a step reads and writes. -/
structure StepRows (Value : Type) where
  plan : RunPlan
  run : Run
  stepRun : StepRun
  commandJournal : List StepCommandReplayProof
  events : List StepLifecycleEvent
  ledger : CostLedger
  artifacts : List (Artifact × Value)
  leafMessages : List LeafOutboxMessage
  leafBindings : List LeafBinding
  generation : Option GenerationRows
  dagScheduleRequests : List RunId
  stepRoutingRequests : List StepRunId

namespace StepRows

variable {Value : Type}

/-- The journal entry of a key. -/
def findCommand (rows : StepRows Value) (idempotencyKey : IdempotencyKey) :
    Option StepCommandReplayProof :=
  rows.commandJournal.find? fun proof => proof.identity.idempotencyKey == idempotencyKey

/-- Whether some binding lets the attempt cross its effect threshold. -/
def hasActiveLeafBinding (rows : StepRows Value) (attemptId : AttemptId) : Bool :=
  rows.leafBindings.any fun binding => binding.attemptId == attemptId &&
    rows.leafMessages.any fun message => message.messageId == binding.outboxMessageId &&
      bindingAdmitsEffect binding message

/-- `attempts.update`: the attempt rows follow the step, but an attempt crosses its
effect threshold only under an active leaf binding. -/
def admitsAttemptUpdate (rows : StepRows Value) (previous next : Attempt) :
    Except PersistenceError Unit :=
  if previous.state == .claimed && next.state == .inFlight &&
      !rows.hasActiveLeafBinding next.attemptId then
    .error .stepAttemptConflict
  else .ok ()

/-- `artifacts.insert`: an exact repetition is accepted, any other artifact with the
same identity or attempt is a conflict. -/
def insertArtifact [DecidableEq Value] (evidence : ContentEvidence Value)
    (rows : StepRows Value) (artifact : Artifact) (value : Value) :
    Except PersistenceError (StepRows Value) :=
  if artifact.workspaceId != rows.run.workspaceId ||
      artifact.contentHash != evidence.contentHash value ||
      artifact.sizeBytes != evidence.byteSize value || decide (65536 < artifact.sizeBytes) then
    .error .databaseIdentityMismatch
  else
    match rows.artifacts.filter fun known =>
        known.1.artifactId == artifact.artifactId || known.1.attemptId == artifact.attemptId with
    | [] => .ok { rows with artifacts := rows.artifacts ++ [(artifact, value)] }
    | [existing] =>
        if existing = (artifact, value) then .ok rows else .error .immutableRecordConflict
    | _ => .error .immutableRecordConflict

end StepRows

/-! ## Sample rows -/

/-- The rows of the sample step with its first attempt claimed, reserved and bound to a
leaf message that was dispatched. -/
def sampleStepRows : StepRows String where
  plan := sampleRunPlan
  run := sampleRun
  stepRun := sampleClaimedStep
  commandJournal := []
  events := []
  ledger := ⟨⟨2, 0, "credit"⟩, [{
      amount := 2
      attemptId := "attempt-1"
      createdAt := 1
      operationKey := "operation-1"
      reservationId := "reservation-1"
      runId := "run-1"
      stepRunId := "step-1"
      unit := "credit"
      workspaceId := "workspace-1"
      state := .reserved }], [], []⟩
  artifacts := []
  leafMessages := [⟨"message-1", "attempt-1", "plugin", .dispatched, 1, 1, none, none⟩]
  leafBindings := [{
    attemptId := "attempt-1"
    outboxMessageId := "message-1"
    startKey := "start-1"
    state := .started
    adapterKey := some "orchestrator"
    effectAdapterKey := "plugin"
    externalExecutionId := some "execution-1" }]
  generation := none
  dagScheduleRequests := []
  stepRoutingRequests := []

/-! ## A sample success -/

def sampleOutput : ValidatedOutputRef :=
  ⟨⟨"artifact-1", sampleHash⟩, sampleContract, 1, "1.0.0"⟩

/-- The artifact of the sample output. -/
def sampleArtifact : Artifact where
  artifactId := "artifact-1"
  attemptId := "attempt-1"
  contentHash := sampleHash
  contract := sampleContract
  finalizedAt := 1
  operationKey := "operation-1"
  runId := "run-1"
  sizeBytes := 12
  stepRunId := "step-1"
  validatedAt := 1
  validatorVersion := "1.0.0"
  workspaceId := "workspace-1"

def sampleSettlement : AttemptSettlementProof :=
  .settled ⟨"attempt-1", "operation-1", "reservation-1", "credit"⟩ 1 1 "usage-1"

private def sampleStartedStep : StepRun :=
  deliverStepCommand sampleClaimedStep (.startAttemptEffect "attempt-1")
    (sampleStepContext 2 "start-1" ["event-5"])

/-- The sample step after its only attempt succeeded. -/
def sampleSucceededStep : StepRun :=
  deliverStepCommand sampleStartedStep
    (.recordAttemptSucceeded "attempt-1" (some sampleOutput) sampleSettlement)
    (sampleStepContext 3 "succeed-1" ["event-6"])

theorem sampleSucceededStep_reachable : stepRunSystem.Reachable sampleSucceededStep :=
  have started : stepRunSystem.step sampleClaimedStep ⟨.startAttemptEffect "attempt-1",
      sampleStepContext 2 "start-1" ["event-5"]⟩ sampleStartedStep := rfl
  have succeeded : stepRunSystem.step sampleStartedStep
      ⟨.recordAttemptSucceeded "attempt-1" (some sampleOutput) sampleSettlement,
        sampleStepContext 3 "succeed-1" ["event-6"]⟩ sampleSucceededStep := rfl
  (sampleClaimedStep_reachable.step started).step succeeded

end Kurobara.Persistence
