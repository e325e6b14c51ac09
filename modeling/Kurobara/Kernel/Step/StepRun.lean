import Kurobara.Kernel.Generation.Plan
import Mathlib.Data.List.Dedup

/-! # Step runs

The step aggregate: a step of a Run with its attempts, the commands it accepts,
and `applyStepCommand`. A command is first matched against a durable replay
proof; a fresh one is checked against the aggregate version, planned by the
function of its type and only then given event identifiers. Versions, event
sequences and attempt numbers only count upwards from one and are natural.
-/

namespace Kurobara.Kernel

/-! ## Steps, attempts and events -/

/-- The states of a Run. -/
inductive RunState where
  | queued
  | running
  | waiting
  | cancelling
  | ambiguous
  | completed
  | failed
  | cancelled
  deriving DecidableEq, Repr

def RunState.text : RunState → String
  | .queued => "queued"
  | .running => "running"
  | .waiting => "waiting"
  | .cancelling => "cancelling"
  | .ambiguous => "ambiguous"
  | .completed => "completed"
  | .failed => "failed"
  | .cancelled => "cancelled"

/-- The states of a step Run. -/
inductive StepRunState where
  | pending
  | ready
  | active
  | waiting
  | retryable
  | ambiguous
  | cancelling
  | succeeded
  | failed
  | cancelled
  | skipped
  deriving DecidableEq, Repr

def StepRunState.text : StepRunState → String
  | .pending => "pending"
  | .ready => "ready"
  | .active => "active"
  | .waiting => "waiting"
  | .retryable => "retryable"
  | .ambiguous => "ambiguous"
  | .cancelling => "cancelling"
  | .succeeded => "succeeded"
  | .failed => "failed"
  | .cancelled => "cancelled"
  | .skipped => "skipped"

/-- The states of an attempt. -/
inductive AttemptState where
  | prepared
  | claimed
  | inFlight
  | succeeded
  | failedRetryable
  | failedTerminal
  | ambiguous
  | cancelledBeforeEffect
  deriving DecidableEq, Repr

/-- Why an attempt is made. -/
inductive AttemptReason where
  | initial
  | retry
  | fallback
  deriving DecidableEq, Repr

structure ArtifactRef where
  artifactId : ArtifactId
  contentHash : ContentHash
  deriving DecidableEq, Repr

/-- An output, with the contract it was validated against. -/
structure ValidatedOutputRef where
  artifact : ArtifactRef
  contract : ContractRef
  validatedAt : Instant
  validatorVersion : String
  deriving DecidableEq, Repr

/-- One attempt at the effect of a step. -/
structure Attempt where
  attemptId : AttemptId
  attemptNumber : ℕ
  authorityEnvelopeId : String
  claimedAt : Instant
  costReservationId : CostReservationId
  effectAdapterKey : String
  operationKey : OperationKey
  preparedAt : Instant
  reason : AttemptReason
  reservedAmount : Amount
  reservationUnit : String
  routeKey : String
  routeSnapshotHash : ContentHash
  routingDecisionId : RoutingDecisionId
  state : AttemptState
  stepRunId : StepRunId
  effectStartedAt : Option Instant
  ambiguityObservedAt : Option Instant
  finishedAt : Option Instant
  output : Option ValidatedOutputRef
  deriving DecidableEq, Repr

/-- A step of a Run with its attempts, the oldest first. -/
structure StepRun where
  activeAttemptId : Option AttemptId
  aggregateVersion : ℕ
  attempts : List Attempt
  createdAt : Instant
  dependsOn : List String
  eventSequence : ℕ
  nodeKey : String
  runId : RunId
  state : StepRunState
  stepRunId : StepRunId
  workspaceId : WorkspaceId
  deriving DecidableEq, Repr

/-- How an unknown outcome was found to have ended. -/
inductive AmbiguityOutcome where
  | succeeded
  | failedRetryable
  | failedTerminal
  deriving DecidableEq, Repr

/-- What an event reports. -/
inductive StepLifecycleEventDetail where
  | stepReady (nodeKey : String)
  | stepSkipped (blockedByNodeKeys : List String)
  | routingDecisionRecorded (effectAdapterKey routeKey : String) (routeSnapshotHash : ContentHash)
      (routingDecisionId : RoutingDecisionId)
  | stepRoutingRejected
  | attemptCreated (attemptId : AttemptId) (attemptNumber : ℕ) (operationKey : OperationKey)
      (reason : AttemptReason)
  | attemptClaimed (attemptId : AttemptId) (attemptNumber : ℕ)
  | attemptEffectStarted (attemptId : AttemptId)
  | attemptSucceeded (attemptId : AttemptId) (output : Option ValidatedOutputRef)
  | attemptFailed (attemptId : AttemptId) (retryable : Bool)
  | attemptBecameAmbiguous (attemptId : AttemptId) (operationKey : OperationKey)
  | attemptAmbiguityResolved (attemptId : AttemptId) (outcome : AmbiguityOutcome)
      (proofId : String) (output : Option ValidatedOutputRef)
  | attemptCancelledBeforeEffect (attemptId : AttemptId)
  | stepRetryAuthorized
  | stepRetryExhausted
  deriving DecidableEq, Repr

/-- An event of a step Run. -/
structure StepLifecycleEvent where
  actorId : ActorId
  correlationId : CorrelationId
  detail : StepLifecycleEventDetail
  eventId : EventId
  occurredAt : Instant
  runId : RunId
  sequence : ℕ
  stepRunId : StepRunId
  workspaceId : WorkspaceId
  deriving DecidableEq, Repr

/-! ## Materialization -/

/-- The input of `scheduleStep`. -/
structure ScheduleStepInput where
  actorId : ActorId
  correlationId : CorrelationId
  createdAt : Instant
  dependsOn : List String
  eventId : EventId
  nodeKey : String
  runId : RunId
  runState : RunState
  satisfiedDependencies : List String
  stepRunId : StepRunId
  workspaceId : WorkspaceId

inductive ScheduleStepFailureCode where
  | runNotRunning
  | nodeKeyRequired
  | dependenciesUnsatisfied
  deriving DecidableEq, Repr

structure ScheduleStepFailure where
  code : ScheduleStepFailureCode
  message : String
  deriving DecidableEq, Repr

/-- The input of `skipStep`. -/
structure SkipStepInput where
  actorId : ActorId
  blockedByNodeKeys : List String
  correlationId : CorrelationId
  createdAt : Instant
  dependsOn : List String
  eventId : EventId
  nodeKey : String
  runId : RunId
  runState : RunState
  stepRunId : StepRunId
  workspaceId : WorkspaceId

inductive SkipStepFailureCode where
  | blockedDependencyInvalid
  | blockedDependencyRequired
  | blockedDependencyUnknown
  | nodeKeyRequired
  | runNotRunning
  deriving DecidableEq, Repr

structure SkipStepFailure where
  code : SkipStepFailureCode
  message : String
  deriving DecidableEq, Repr

/-- The event and the step that a materialization decision creates. -/
structure StepDecision where
  event : StepLifecycleEvent
  stepRun : StepRun
  deriving DecidableEq, Repr

/-- The step Run that a schedule creates. -/
def scheduledStep (input : ScheduleStepInput) : StepDecision where
  stepRun := {
    activeAttemptId := none
    aggregateVersion := 1
    attempts := []
    createdAt := input.createdAt
    dependsOn := input.dependsOn
    eventSequence := 1
    nodeKey := input.nodeKey
    runId := input.runId
    state := .ready
    stepRunId := input.stepRunId
    workspaceId := input.workspaceId }
  event := {
    actorId := input.actorId
    correlationId := input.correlationId
    detail := .stepReady input.nodeKey
    eventId := input.eventId
    occurredAt := input.createdAt
    runId := input.runId
    sequence := 1
    stepRunId := input.stepRunId
    workspaceId := input.workspaceId }

def scheduleStep (input : ScheduleStepInput) : Except ScheduleStepFailure StepDecision :=
  let missing := input.dependsOn.filter fun dependency =>
    !input.satisfiedDependencies.contains dependency
  if input.runState != .running then
    .error ⟨.runNotRunning,
      s!"A step cannot become ready while its run is {input.runState.text}."⟩
  else if !nonBlank input.nodeKey then
    .error ⟨.nodeKeyRequired, "A scheduled step requires a non-empty workflow node key."⟩
  else if !missing.isEmpty then
    .error ⟨.dependenciesUnsatisfied,
      "Step dependencies are not satisfied: " ++ ", ".intercalate missing ++ "."⟩
  else
    .ok (scheduledStep input)

/-- The step Run that a skip creates. -/
def skippedStep (input : SkipStepInput) (blockedByNodeKeys : List String) : StepDecision where
  stepRun := {
    activeAttemptId := none
    aggregateVersion := 1
    attempts := []
    createdAt := input.createdAt
    dependsOn := input.dependsOn
    eventSequence := 1
    nodeKey := input.nodeKey
    runId := input.runId
    state := .skipped
    stepRunId := input.stepRunId
    workspaceId := input.workspaceId }
  event := {
    actorId := input.actorId
    correlationId := input.correlationId
    detail := .stepSkipped blockedByNodeKeys
    eventId := input.eventId
    occurredAt := input.createdAt
    runId := input.runId
    sequence := 1
    stepRunId := input.stepRunId
    workspaceId := input.workspaceId }

/-- `[...new Set(keys)].sort()`. -/
def sortedDistinct (keys : List String) : List String :=
  keys.dedup.mergeSort textIsAtMost

def skipStep (input : SkipStepInput) : Except SkipStepFailure StepDecision :=
  let blockedByNodeKeys := sortedDistinct input.blockedByNodeKeys
  if input.runState != .running then
    .error ⟨.runNotRunning, s!"A step cannot be skipped while its run is {input.runState.text}."⟩
  else if !nonBlank input.nodeKey then
    .error ⟨.nodeKeyRequired, "A skipped step requires a non-empty workflow node key."⟩
  else if input.blockedByNodeKeys.isEmpty then
    .error ⟨.blockedDependencyRequired,
      "A skipped step requires a terminal non-success dependency."⟩
  else if blockedByNodeKeys.length != input.blockedByNodeKeys.length ||
      blockedByNodeKeys.any (!nonBlank ·) then
    .error ⟨.blockedDependencyInvalid,
      "Skipped-step dependency evidence must be non-empty and unique."⟩
  else if blockedByNodeKeys.any (!input.dependsOn.contains ·) then
    .error ⟨.blockedDependencyUnknown,
      "A skipped step can only name one of its direct dependencies."⟩
  else
    .ok (skippedStep input blockedByNodeKeys)

/-! ## Commands -/

/-- What a claim fixes of its attempt. -/
structure AttemptPreparation where
  attemptId : AttemptId
  authorityEnvelopeId : String
  costReservationId : CostReservationId
  effectAdapterKey : String
  operationKey : OperationKey
  reason : AttemptReason
  reservedAmount : Amount
  reservationUnit : String
  routeKey : String
  routeSnapshotHash : ContentHash
  routingDecisionId : RoutingDecisionId
  deriving DecidableEq, Repr

/-- The reservation a settlement is of. -/
structure AttemptSettlementIdentity where
  attemptId : AttemptId
  operationKey : OperationKey
  reservationId : CostReservationId
  unit : String
  deriving DecidableEq, Repr

/-- The reservation was released. -/
structure AttemptReleaseProof extends AttemptSettlementIdentity where
  releasedAmount : Amount
  deriving DecidableEq, Repr

/-- The reservation was settled or released. -/
inductive AttemptSettlementProof where
  | settled (identity : AttemptSettlementIdentity) (releasedAmount settledAmount : Amount)
      (usageEntryId : UsageEntryId)
  | released (proof : AttemptReleaseProof)
  deriving DecidableEq, Repr

/-- The commands of a step Run. -/
inductive StepCommand where
  | claimStepAttempt (preparation : AttemptPreparation)
  | rejectStepRouting
  | recordAttemptSucceeded (attemptId : AttemptId) (output : Option ValidatedOutputRef)
      (settlement : AttemptSettlementProof)
  | recordAttemptFailure (attemptId : AttemptId) (retryAuthorized retryable : Bool)
      (settlement : AttemptSettlementProof)
  | recordAttemptNotStarted (attemptId : AttemptId) (retryAuthorized retryable : Bool)
      (settlement : AttemptReleaseProof)
  | authorizeRetry (attemptId : AttemptId) (retryAuthorized : Bool)
  | markAttemptAmbiguous (attemptId : AttemptId)
  | resolveAttemptAmbiguity (attemptId : AttemptId) (outcome : AmbiguityOutcome)
      (proofId : String) (retryAuthorized : Bool) (settlement : AttemptSettlementProof)
      (output : Option ValidatedOutputRef)
  | cancelAttemptBeforeEffect (attemptId : AttemptId) (settlement : AttemptReleaseProof)
  | startAttemptEffect (attemptId : AttemptId)
  deriving DecidableEq, Repr

inductive StepCommandType where
  | claimStepAttempt
  | rejectStepRouting
  | recordAttemptSucceeded
  | recordAttemptFailure
  | recordAttemptNotStarted
  | authorizeRetry
  | markAttemptAmbiguous
  | resolveAttemptAmbiguity
  | cancelAttemptBeforeEffect
  | startAttemptEffect
  deriving DecidableEq, Repr

def StepCommandType.text : StepCommandType → String
  | .claimStepAttempt => "ClaimStepAttempt"
  | .rejectStepRouting => "RejectStepRouting"
  | .recordAttemptSucceeded => "RecordAttemptSucceeded"
  | .recordAttemptFailure => "RecordAttemptFailure"
  | .recordAttemptNotStarted => "RecordAttemptNotStarted"
  | .authorizeRetry => "AuthorizeRetry"
  | .markAttemptAmbiguous => "MarkAttemptAmbiguous"
  | .resolveAttemptAmbiguity => "ResolveAttemptAmbiguity"
  | .cancelAttemptBeforeEffect => "CancelAttemptBeforeEffect"
  | .startAttemptEffect => "StartAttemptEffect"

def StepCommand.type : StepCommand → StepCommandType
  | .claimStepAttempt _ => .claimStepAttempt
  | .rejectStepRouting => .rejectStepRouting
  | .recordAttemptSucceeded .. => .recordAttemptSucceeded
  | .recordAttemptFailure .. => .recordAttemptFailure
  | .recordAttemptNotStarted .. => .recordAttemptNotStarted
  | .authorizeRetry .. => .authorizeRetry
  | .markAttemptAmbiguous _ => .markAttemptAmbiguous
  | .resolveAttemptAmbiguity .. => .resolveAttemptAmbiguity
  | .cancelAttemptBeforeEffect .. => .cancelAttemptBeforeEffect
  | .startAttemptEffect _ => .startAttemptEffect

/-- The key of a command and the hash of its content. -/
structure StepCommandIdentity where
  commandHash : ContentHash
  idempotencyKey : IdempotencyKey
  deriving DecidableEq, Repr

/-- What the journal knows of an earlier command. -/
structure StepCommandReplayProof where
  actorId : ActorId
  commandType : StepCommandType
  identity : StepCommandIdentity
  stepRunId : StepRunId
  workspaceId : WorkspaceId
  deriving DecidableEq, Repr

/-- What a command is delivered with. -/
structure StepCommandContext where
  actorId : ActorId
  commandIdentity : StepCommandIdentity
  correlationId : CorrelationId
  eventIds : List EventId
  expectedAggregateVersion : ℕ
  occurredAt : Instant
  replayProof : Option StepCommandReplayProof
  deriving DecidableEq, Repr

/-- The step Run after a command, with the events of the command. -/
structure StepTransition where
  events : List StepLifecycleEvent
  replayed : Bool
  stepRun : StepRun
  deriving DecidableEq, Repr

inductive StepTransitionFailureCode where
  | aggregateVersionConflict
  | attemptIdReused
  | eventIdCountMismatch
  | idempotencyKeyReused
  | invalidAttemptPreparation
  | invalidAttemptReason
  | invalidTransition
  | operationKeyMismatch
  | reconciliationProofRequired
  | replayProofMismatch
  | settlementPreconditionFailed
  deriving DecidableEq, Repr

def StepTransitionFailureCode.text : StepTransitionFailureCode → String
  | .aggregateVersionConflict => "aggregate-version-conflict"
  | .attemptIdReused => "attempt-id-reused"
  | .eventIdCountMismatch => "event-id-count-mismatch"
  | .idempotencyKeyReused => "idempotency-key-reused"
  | .invalidAttemptPreparation => "invalid-attempt-preparation"
  | .invalidAttemptReason => "invalid-attempt-reason"
  | .invalidTransition => "invalid-transition"
  | .operationKeyMismatch => "operation-key-mismatch"
  | .reconciliationProofRequired => "reconciliation-proof-required"
  | .replayProofMismatch => "replay-proof-mismatch"
  | .settlementPreconditionFailed => "settlement-precondition-failed"

structure StepTransitionFailure where
  code : StepTransitionFailureCode
  command : StepCommandType
  message : String
  state : StepRunState
  deriving DecidableEq, Repr

/-- What a command changes of the step Run. -/
structure StepTransitionPlan where
  activeAttemptId : Option AttemptId
  attempts : List Attempt
  eventDetails : List StepLifecycleEventDetail
  state : StepRunState
  deriving DecidableEq, Repr

/-! ## Planning a command -/

private def stepFailure (stepRun : StepRun) (command : StepCommand)
    (code : StepTransitionFailureCode)
    (message : String) : Except StepTransitionFailure StepTransitionPlan :=
  .error ⟨code, command.type, message, stepRun.state⟩

def invalidTransition (stepRun : StepRun) (command : StepCommand) :
    Except StepTransitionFailure StepTransitionPlan :=
  stepFailure stepRun command .invalidTransition
    s!"{command.type.text} is not allowed from step state {stepRun.state.text}."

/-- The attempt that is named active. -/
def activeAttempt (stepRun : StepRun) : Option Attempt :=
  stepRun.attempts.find? fun attempt => stepRun.activeAttemptId == some attempt.attemptId

/-- The active attempt, where it is the one named. -/
def matchingActiveAttempt (stepRun : StepRun) (attemptId : AttemptId) : Option Attempt :=
  (activeAttempt stepRun).filter fun attempt => attempt.attemptId == attemptId

def settlementIdentityMatches (attempt : Attempt) (identity : AttemptSettlementIdentity) : Bool :=
  identity.attemptId == attempt.attemptId && identity.operationKey == attempt.operationKey &&
    identity.reservationId == attempt.costReservationId &&
    identity.unit == attempt.reservationUnit

/-- The settlement is of the attempt's reservation, in its amount. -/
def settlementMatches (attempt : Attempt) : AttemptSettlementProof → Bool
  | .released proof =>
      settlementIdentityMatches attempt proof.toAttemptSettlementIdentity &&
        isAmount proof.releasedAmount && amountsEqual proof.releasedAmount attempt.reservedAmount
  | .settled identity releasedAmount settledAmount _ =>
      settlementIdentityMatches attempt identity && isAmount releasedAmount &&
        isAmount settledAmount &&
        amountsEqual (settledAmount + releasedAmount) attempt.reservedAmount

private def AttemptSettlementProof.isSettled : AttemptSettlementProof → Bool
  | .settled .. => true
  | .released _ => false

/-- The attempts with one of them replaced. -/
def replaceAttempt (stepRun : StepRun) (replacement : Attempt) : List Attempt :=
  stepRun.attempts.map fun attempt =>
    if attempt.attemptId == replacement.attemptId then replacement else attempt

/-- The output was validated, and not later than now. -/
def validatedOutputIsWellFormed (output : ValidatedOutputRef) (occurredAt : Instant) : Bool :=
  nonBlank output.validatorVersion && decide (output.validatedAt ≤ occurredAt)

def retryDecisionDetail (retryAuthorized : Bool) : StepLifecycleEventDetail :=
  if retryAuthorized then .stepRetryAuthorized else .stepRetryExhausted

/-- A retry authorized for an outcome that does not request one. -/
def invalidRetryAuthorization (retryAuthorized retryRequested : Bool) : Bool :=
  retryAuthorized && !retryRequested

private def invalidRetryFailure (stepRun : StepRun) (command : StepCommand) :
    Except StepTransitionFailure StepTransitionPlan :=
  stepFailure stepRun command .invalidTransition
    s!"{command.type.text} cannot authorize a retry for a terminal outcome."

/-- The texts and the amount of a preparation are well formed. -/
def preparationIsValid (preparation : AttemptPreparation) : Bool :=
  nonBlank preparation.authorityEnvelopeId && nonBlank preparation.effectAdapterKey &&
    nonBlank preparation.routeKey && nonBlank preparation.reservationUnit &&
    isAmount preparation.reservedAmount

/-- The attempt that a claim prepares. -/
def claimedAttempt (stepRun : StepRun) (preparation : AttemptPreparation) (occurredAt : Instant) :
    Attempt where
  attemptId := preparation.attemptId
  attemptNumber := stepRun.attempts.length + 1
  authorityEnvelopeId := preparation.authorityEnvelopeId
  claimedAt := occurredAt
  costReservationId := preparation.costReservationId
  effectAdapterKey := preparation.effectAdapterKey
  operationKey := preparation.operationKey
  preparedAt := occurredAt
  reason := preparation.reason
  reservedAmount := preparation.reservedAmount
  reservationUnit := preparation.reservationUnit
  routeKey := preparation.routeKey
  routeSnapshotHash := preparation.routeSnapshotHash
  routingDecisionId := preparation.routingDecisionId
  state := .claimed
  stepRunId := stepRun.stepRunId
  effectStartedAt := none
  ambiguityObservedAt := none
  finishedAt := none
  output := none

def claimAttempt (stepRun : StepRun) (command : StepCommand) (preparation : AttemptPreparation)
    (occurredAt : Instant) : Except StepTransitionFailure StepTransitionPlan :=
  let isInitial := stepRun.attempts.isEmpty
  let attempt := claimedAttempt stepRun preparation occurredAt
  if stepRun.state != .ready || stepRun.activeAttemptId.isSome then
    invalidTransition stepRun command
  else if !preparationIsValid preparation then
    stepFailure stepRun command .invalidAttemptPreparation
      "Attempt preparation requires authority, unit, and a non-negative finite reservation."
  else if (isInitial && preparation.reason != .initial) ||
      (!isInitial && preparation.reason == .initial) then
    stepFailure stepRun command .invalidAttemptReason
      "The first attempt must be initial and every later attempt must be a retry or fallback."
  else if stepRun.attempts.any fun known => known.attemptId == preparation.attemptId then
    stepFailure stepRun command .attemptIdReused
      "A new attempt requires a fresh attempt identifier."
  else if stepRun.attempts.head?.any fun first =>
      first.operationKey != preparation.operationKey then
    stepFailure stepRun command .operationKeyMismatch
      "Retries and fallbacks must keep the logical operation key."
  else
    .ok {
      activeAttemptId := some attempt.attemptId
      attempts := stepRun.attempts ++ [attempt]
      eventDetails := [
        .routingDecisionRecorded attempt.effectAdapterKey attempt.routeKey
          attempt.routeSnapshotHash attempt.routingDecisionId,
        .attemptCreated attempt.attemptId attempt.attemptNumber attempt.operationKey attempt.reason,
        .attemptClaimed attempt.attemptId attempt.attemptNumber]
      state := .active }

def rejectStepRouting (stepRun : StepRun) (command : StepCommand) :
    Except StepTransitionFailure StepTransitionPlan :=
  if stepRun.state != .ready || stepRun.activeAttemptId.isSome then
    invalidTransition stepRun command
  else
    .ok ⟨none, stepRun.attempts, [.stepRoutingRejected], .failed⟩

/-- The active attempt named by a command, when step and attempt are in the states
that the command requires. -/
def attemptInState (stepRun : StepRun) (attemptId : AttemptId) (stepState : StepRunState)
    (attemptState : AttemptState) : Option Attempt :=
  if stepRun.state != stepState then none
  else (matchingActiveAttempt stepRun attemptId).filter fun attempt => attempt.state == attemptState

def startAttemptEffect (stepRun : StepRun) (command : StepCommand) (attemptId : AttemptId)
    (occurredAt : Instant) : Except StepTransitionFailure StepTransitionPlan :=
  match attemptInState stepRun attemptId .active .claimed with
  | none => invalidTransition stepRun command
  | some attempt =>
      let started := { attempt with effectStartedAt := some occurredAt, state := .inFlight }
      .ok ⟨some attempt.attemptId, replaceAttempt stepRun started,
        [.attemptEffectStarted attempt.attemptId], .active⟩

/-- The two conclusions of an in-flight attempt, with what their commands carry. -/
inductive SettlementConclusion where
  | succeeded (output : Option ValidatedOutputRef)
  | failed (retryAuthorized retryable : Bool)
  deriving DecidableEq, Repr

private def conclusionIsAdmitted (settlement : AttemptSettlementProof) (occurredAt : Instant) :
    SettlementConclusion → Bool
  | .succeeded output =>
      settlement.isSettled && output.all (validatedOutputIsWellFormed · occurredAt)
  | .failed .. => true

/-- The branch shared by the commands that conclude an attempt with a settlement. -/
def settleAttempt (stepRun : StepRun) (command : StepCommand) (attemptId : AttemptId)
    (settlement : AttemptSettlementProof) (conclusion : SettlementConclusion)
    (occurredAt : Instant) : Except StepTransitionFailure StepTransitionPlan :=
  match attemptInState stepRun attemptId .active .inFlight with
  | none => invalidTransition stepRun command
  | some attempt =>
      if !settlementMatches attempt settlement ||
          !conclusionIsAdmitted settlement occurredAt conclusion then
        stepFailure stepRun command .settlementPreconditionFailed
          "An in-flight attempt requires an exact durable settlement receipt before conclusion."
      else
        match conclusion with
        | .succeeded output =>
            let settled := { attempt with
              finishedAt := some occurredAt
              output := output.or attempt.output
              state := .succeeded }
            .ok ⟨none, replaceAttempt stepRun settled,
              [.attemptSucceeded attempt.attemptId output], .succeeded⟩
        | .failed retryAuthorized retryRequested =>
            if invalidRetryAuthorization retryAuthorized retryRequested then
              invalidRetryFailure stepRun command
            else
              let retryable := retryRequested && retryAuthorized
              let settled := { attempt with
                finishedAt := some occurredAt
                state := if retryable then .failedRetryable else .failedTerminal }
              .ok ⟨none, replaceAttempt stepRun settled,
                .attemptFailed attempt.attemptId retryable ::
                  (if retryRequested then [retryDecisionDetail retryAuthorized] else []),
                if retryable then .ready else .failed⟩

def recordAttemptNotStarted (stepRun : StepRun) (command : StepCommand) (attemptId : AttemptId)
    (retryAuthorized retryRequested : Bool) (settlement : AttemptReleaseProof)
    (occurredAt : Instant) : Except StepTransitionFailure StepTransitionPlan :=
  match attemptInState stepRun attemptId .active .claimed with
  | none => invalidTransition stepRun command
  | some attempt =>
      if !settlementMatches attempt (.released settlement) then
        stepFailure stepRun command .settlementPreconditionFailed
          ("An attempt that did not start requires its exact durable release receipt before " ++
            "conclusion.")
      else if invalidRetryAuthorization retryAuthorized retryRequested then
        invalidRetryFailure stepRun command
      else
        let retryable := retryRequested && retryAuthorized
        let failed := { attempt with
          finishedAt := some occurredAt
          state := if retryable then .failedRetryable else .failedTerminal }
        .ok ⟨none, replaceAttempt stepRun failed,
          .attemptFailed attempt.attemptId retryable ::
            (if retryRequested then [retryDecisionDetail retryAuthorized] else []),
          if retryable then .ready else .failed⟩

def authorizeRetry (stepRun : StepRun) (command : StepCommand) (attemptId : AttemptId)
    (retryAuthorized : Bool) : Except StepTransitionFailure StepTransitionPlan :=
  if stepRun.state != .retryable || stepRun.activeAttemptId.isSome ||
      !stepRun.attempts.getLast?.any fun last =>
        last.attemptId == attemptId && last.state == .failedRetryable then
    invalidTransition stepRun command
  else if retryAuthorized then
    .ok ⟨none, stepRun.attempts, [.stepRetryAuthorized], .ready⟩
  else
    .ok ⟨none, stepRun.attempts, [.stepRetryExhausted], .failed⟩

def markAttemptAmbiguous (stepRun : StepRun) (command : StepCommand) (attemptId : AttemptId)
    (occurredAt : Instant) : Except StepTransitionFailure StepTransitionPlan :=
  match attemptInState stepRun attemptId .active .inFlight with
  | none => invalidTransition stepRun command
  | some attempt =>
      let ambiguous := { attempt with ambiguityObservedAt := some occurredAt, state := .ambiguous }
      .ok ⟨some attempt.attemptId, replaceAttempt stepRun ambiguous,
        [.attemptBecameAmbiguous attempt.attemptId attempt.operationKey], .ambiguous⟩

/-- The receipt and output that an ambiguity resolution requires. -/
def resolutionIsAdmitted (attempt : Attempt) (outcome : AmbiguityOutcome)
    (settlement : AttemptSettlementProof) (output : Option ValidatedOutputRef)
    (occurredAt : Instant) : Bool :=
  settlementMatches attempt settlement &&
    (match outcome with
      | .succeeded => settlement.isSettled && output.all (validatedOutputIsWellFormed · occurredAt)
      | .failedRetryable | .failedTerminal => output.isNone)

def resolveAttemptAmbiguity (stepRun : StepRun) (command : StepCommand) (attemptId : AttemptId)
    (outcome : AmbiguityOutcome) (proofId : String) (retryAuthorized : Bool)
    (settlement : AttemptSettlementProof) (output : Option ValidatedOutputRef)
    (occurredAt : Instant) : Except StepTransitionFailure StepTransitionPlan :=
  match attemptInState stepRun attemptId .ambiguous .ambiguous with
  | none => invalidTransition stepRun command
  | some attempt =>
      let retryRequested := outcome == .failedRetryable
      let retryable := retryRequested && retryAuthorized
      if !nonBlank proofId then
        stepFailure stepRun command .reconciliationProofRequired
          "Attempt ambiguity resolution requires a proof identifier."
      else if !resolutionIsAdmitted attempt outcome settlement output occurredAt then
        stepFailure stepRun command .settlementPreconditionFailed
          "Attempt ambiguity requires an exact durable settlement receipt before resolution."
      else if invalidRetryAuthorization retryAuthorized retryRequested then
        invalidRetryFailure stepRun command
      else
        let recorded := if retryRequested && !retryable then .failedTerminal else outcome
        let resolved := { attempt with
          finishedAt := some occurredAt
          output := if outcome == .succeeded then output.or attempt.output else attempt.output
          state := if outcome == .succeeded then .succeeded
            else if retryable then .failedRetryable else .failedTerminal }
        .ok ⟨none, replaceAttempt stepRun resolved,
          .attemptAmbiguityResolved attempt.attemptId recorded proofId output ::
            (if retryRequested then [retryDecisionDetail retryAuthorized] else []),
          if outcome == .succeeded then .succeeded else if retryable then .ready else .failed⟩

def cancelAttemptBeforeEffect (stepRun : StepRun) (command : StepCommand) (attemptId : AttemptId)
    (settlement : AttemptReleaseProof) (occurredAt : Instant) :
    Except StepTransitionFailure StepTransitionPlan :=
  match attemptInState stepRun attemptId .active .claimed with
  | none => invalidTransition stepRun command
  | some attempt =>
      if !settlementMatches attempt (.released settlement) then
        stepFailure stepRun command .settlementPreconditionFailed
          "A claimed attempt cannot cancel without its exact durable release receipt."
      else
        let cancelled := { attempt with
          finishedAt := some occurredAt
          state := .cancelledBeforeEffect }
        .ok ⟨none, replaceAttempt stepRun cancelled,
          [.attemptCancelledBeforeEffect attempt.attemptId], .cancelled⟩

/-- `planTransition`: each command has its own branch. -/
def planTransition (stepRun : StepRun) (command : StepCommand) (occurredAt : Instant) :
    Except StepTransitionFailure StepTransitionPlan :=
  match command with
  | .claimStepAttempt preparation => claimAttempt stepRun command preparation occurredAt
  | .rejectStepRouting => rejectStepRouting stepRun command
  | .startAttemptEffect attemptId => startAttemptEffect stepRun command attemptId occurredAt
  | .recordAttemptSucceeded attemptId output settlement =>
      settleAttempt stepRun command attemptId settlement (.succeeded output) occurredAt
  | .recordAttemptFailure attemptId retryAuthorized retryable settlement =>
      settleAttempt stepRun command attemptId settlement (.failed retryAuthorized retryable)
        occurredAt
  | .recordAttemptNotStarted attemptId retryAuthorized retryable settlement =>
      recordAttemptNotStarted stepRun command attemptId retryAuthorized retryable settlement
        occurredAt
  | .authorizeRetry attemptId retryAuthorized =>
      authorizeRetry stepRun command attemptId retryAuthorized
  | .markAttemptAmbiguous attemptId => markAttemptAmbiguous stepRun command attemptId occurredAt
  | .resolveAttemptAmbiguity attemptId outcome proofId retryAuthorized settlement output =>
      resolveAttemptAmbiguity stepRun command attemptId outcome proofId retryAuthorized settlement
        output occurredAt
  | .cancelAttemptBeforeEffect attemptId settlement =>
      cancelAttemptBeforeEffect stepRun command attemptId settlement occurredAt

/-! ## Applying a command -/

/-- An event of a command, numbered behind those before it. -/
def toEvent (stepRun : StepRun) (detail : StepLifecycleEventDetail) (context : StepCommandContext)
    (index : ℕ) : StepLifecycleEvent where
  actorId := context.actorId
  correlationId := context.correlationId
  detail := detail
  eventId := context.eventIds.getD index ""
  occurredAt := context.occurredAt
  runId := stepRun.runId
  sequence := stepRun.eventSequence + index + 1
  stepRunId := stepRun.stepRunId
  workspaceId := stepRun.workspaceId

/-- The step and events of a fresh command, once it is planned. -/
def freshTransition (stepRun : StepRun) (planned : StepTransitionPlan)
    (context : StepCommandContext) : StepTransition where
  events := planned.eventDetails.mapIdx fun index detail => toEvent stepRun detail context index
  replayed := false
  stepRun := { stepRun with
    aggregateVersion := stepRun.aggregateVersion + 1
    attempts := planned.attempts
    eventSequence := stepRun.eventSequence + planned.eventDetails.length
    state := planned.state
    activeAttemptId := planned.activeAttemptId }

/-- The journal entry is of this command of this step Run. -/
def replayProofIdentifies (stepRun : StepRun) (context : StepCommandContext)
    (proof : StepCommandReplayProof) : Bool :=
  proof.stepRunId == stepRun.stepRunId && proof.workspaceId == stepRun.workspaceId &&
    proof.actorId == context.actorId &&
    proof.identity.idempotencyKey == context.commandIdentity.idempotencyKey

/-- `applyStepCommand`: a replay, a refusal, or the planned transition with its events. -/
def applyStepCommand (stepRun : StepRun) (command : StepCommand) (context : StepCommandContext) :
    Except StepTransitionFailure StepTransition :=
  match context.replayProof with
  | some proof =>
      if !replayProofIdentifies stepRun context proof then
        .error ⟨.replayProofMismatch, command.type, "The durable replay proof does not identify " ++
          "this step, workspace, and command idempotency key.", stepRun.state⟩
      else if proof.commandType != command.type ||
          proof.identity.commandHash != context.commandIdentity.commandHash then
        .error ⟨.idempotencyKeyReused, command.type,
          "The step command idempotency key was accepted for a different command.", stepRun.state⟩
      else
        .ok ⟨[], true, stepRun⟩
  | none =>
      if context.expectedAggregateVersion != stepRun.aggregateVersion then
        .error ⟨.aggregateVersionConflict, command.type, "Expected aggregate version " ++
          s!"{context.expectedAggregateVersion}, actual version is {stepRun.aggregateVersion}.",
          stepRun.state⟩
      else
        match planTransition stepRun command context.occurredAt with
        | .error failure => .error failure
        | .ok planned =>
            if context.eventIds.length != planned.eventDetails.length then
              .error ⟨.eventIdCountMismatch, command.type, "Command requires " ++
                s!"{planned.eventDetails.length} event IDs; received {context.eventIds.length}.",
                stepRun.state⟩
            else
              .ok (freshTransition stepRun planned context)

end Kurobara.Kernel
