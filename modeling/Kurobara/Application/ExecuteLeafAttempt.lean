import Kurobara.Application.TransitionStepAttempt
import Kurobara.Foundation.Program

/-! # Execution of a leaf attempt

The executor of one claimed attempt. It loads the attempt, asks the transition use
case for the permission to cross the effect threshold, executes the effect with the
permission and otherwise looks it up, and records what it learned. Each operation
that it awaits is asked of the environment, so that executors may be interleaved and
may end after any operation, as one does whose operation throws. Where the executor
catches what an operation throws, the operation answers `none`.
-/

namespace Kurobara.Application

open Foundation Kernel Persistence

/-! ## The ports of the executor -/

structure LeafEffectRequest (Value : Type) where
  attemptId : AttemptId
  operationKey : OperationKey
  reservedAmount : Amount
  reservationUnit : String
  routeSnapshotHash : ContentHash
  routingDecisionId : RoutingDecisionId
  runId : RunId
  runInput : Option (ValidatedRunInput Value)
  stepRunId : StepRunId
  workspaceId : WorkspaceId
  deriving DecidableEq, Repr

/-- An outcome that settles its attempt. -/
inductive LeafEffectFinalOutcome (Value : Type) where
  | succeeded (output : Value) (settlement : StepUsage)
  | failed (reason : String) (retryable : Bool) (settlement : StepCostSettlement)
  deriving DecidableEq, Repr

inductive ExecuteLeafEffectOutcome (Value : Type) where
  | final (outcome : LeafEffectFinalOutcome Value)
  | outcomeUnknown (reason : String)
  deriving DecidableEq, Repr

inductive LookupLeafEffectOutcome (Value : Type) where
  | found (outcome : LeafEffectFinalOutcome Value) (proofId : String)
  | notFound (proofId : String)
  | outcomeUnknown (reason : String)
  deriving DecidableEq, Repr

inductive OutputContractValidation where
  | accepted (validatorVersion : String)
  | rejected (reason : String)
  deriving DecidableEq, Repr

structure StartLeafAttemptRequest where
  attemptId : AttemptId
  eventId : EventId
  runId : RunId
  startKey : String
  stepRunId : StepRunId
  workspaceId : WorkspaceId
  deriving DecidableEq, Repr

structure LeafExecutionIdentity where
  attemptId : AttemptId
  effectAdapterKey : Option String
  eventId : EventId
  runId : RunId
  startKey : String
  stepRunId : StepRunId
  workspaceId : WorkspaceId
  deriving DecidableEq, Repr

structure StepExecutionContext (Value : Type) where
  plan : RunPlan
  runInput : Option (ValidatedRunInput Value)
  stepRun : Option StepRun

/-- What the executor asks the store, the validator and the effect for. -/
inductive LeafOperation (Value : Type) where
  | getContextByStepId (workspaceId : WorkspaceId) (stepRunId : StepRunId)
  | getLeafExecutionIdentity (workspaceId : WorkspaceId) (stepRunId : StepRunId)
      (attemptId : AttemptId)
  | transition (input : TransitionStepAttemptInput Value)
  | execute (request : LeafEffectRequest Value)
  | lookup (request : LeafEffectRequest Value)
  | validate (contract : ContractRef) (value : Value)
  | now

def LeafOperation.Answer {Value : Type} : LeafOperation Value → Type
  | .getContextByStepId .. => Option (StepExecutionContext Value)
  | .getLeafExecutionIdentity .. => Option LeafExecutionIdentity
  | .transition _ => TransitionStepAttemptResult
  | .execute _ => Option (ExecuteLeafEffectOutcome Value)
  | .lookup _ => Option (LookupLeafEffectOutcome Value)
  | .validate .. => Option OutputContractValidation
  | .now => Option Instant

def leafInterface (Value : Type) : Interface := ⟨LeafOperation Value, LeafOperation.Answer⟩

abbrev LeafProgram (Value Result : Type) := Program (leafInterface Value) Result

variable {Value : Type}

def ask (operation : LeafOperation Value) : LeafProgram Value operation.Answer :=
  @Program.call (leafInterface Value) operation

/-! ## Results -/

inductive ExecuteLeafAttemptStatus where
  | ambiguous
  | cancelled
  | failed
  | succeeded
  deriving DecidableEq, Repr

structure ExecuteLeafAttemptSuccess where
  replayed : Bool
  status : ExecuteLeafAttemptStatus
  stepRun : StepRun
  deriving DecidableEq, Repr

inductive ExecuteLeafAttemptFailureCode where
  | attemptNotFound
  | effectOperationFailed
  | leafBindingMismatch
  | stepNotFound
  | transitionRejected
  deriving DecidableEq, Repr

structure ExecuteLeafAttemptFailure where
  code : ExecuteLeafAttemptFailureCode
  domainCode : Option String
  message : String
  deriving DecidableEq, Repr

abbrev ExecuteLeafAttemptResult := Except ExecuteLeafAttemptFailure ExecuteLeafAttemptSuccess

private def leafFailure (code : ExecuteLeafAttemptFailureCode) (message : String) :
    ExecuteLeafAttemptFailure :=
  ⟨code, none, message⟩

def TransitionStepAttemptFailureCode.text : TransitionStepAttemptFailureCode → String
  | .authorityCapabilityMissing => "authority-capability-missing"
  | .authorityPermissionMissing => "authority-permission-missing"
  | .authoritySubjectMismatch => "authority-subject-mismatch"
  | .authorityVersionUnsupported => "authority-version-unsupported"
  | .costSettlementConflict => "cost-settlement-conflict"
  | .deadlineElapsed => "deadline-elapsed"
  | .invalidOutput => "invalid-output"
  | .invalidSettlement => "invalid-settlement"
  | .runNotCancelling => "run-not-cancelling"
  | .runNotRunning => "run-not-running"
  | .stepNotFound => "step-not-found"
  | .transitionRejected => "transition-rejected"
  | .usageExceedsReservation => "usage-exceeds-reservation"

/-- `transitionFailure`: the leaf answer for a refused transition. -/
def leafTransitionFailure (refusal : TransitionStepAttemptFailure) : ExecuteLeafAttemptResult :=
  .error ⟨.transitionRejected, some (refusal.domainCode.getD refusal.code.text), refusal.message⟩

/-- How a concluded attempt is reported. -/
def terminalStatus (attempt : Attempt) : Option ExecuteLeafAttemptStatus :=
  match attempt.state with
  | .succeeded => some .succeeded
  | .failedRetryable | .failedTerminal => some .failed
  | .cancelledBeforeEffect => some .cancelled
  | .ambiguous => some .ambiguous
  | _ => none

/-- The report of a step whose attempt is concluded. -/
def successFrom (stepRun : StepRun) (targetAttemptId : AttemptId) (replayed : Bool) :
    ExecuteLeafAttemptResult :=
  match (targetAttempt stepRun targetAttemptId).bind terminalStatus with
  | none => .error (leafFailure .attemptNotFound
      "The leaf transition did not preserve its target attempt.")
  | some status => .ok ⟨replayed, status, stepRun⟩

/-- `successFrom` of an accepted transition, or its refusal. -/
def concludeTransition (attemptId : AttemptId) (replayed : Bool) :
    TransitionStepAttemptResult → ExecuteLeafAttemptResult
  | .ok success => successFrom success.stepRun attemptId replayed
  | .error refusal => leafTransitionFailure refusal

/-! ## Loading -/

structure LoadedLeaf (Value : Type) where
  attempt : Attempt
  actorId : ActorId
  correlationId : CorrelationId
  workspaceId : WorkspaceId
  isOutputSink : Bool
  outputContract : ContractRef
  runInput : Option (ValidatedRunInput Value)
  startKey : String
  stepRun : StepRun
  stepRunId : StepRunId

def commandKey (startKey command : String) : IdempotencyKey :=
  s!"leaf:{startKey}:{command}"

/-- The command base of a loaded leaf, at the version of a step that it knows. -/
def LoadedLeaf.command (loaded : LoadedLeaf Value) (name : String) (stepRun : StepRun)
    (request : TransitionRequest Value) : TransitionStepAttemptInput Value where
  actorId := loaded.actorId
  attemptId := loaded.attempt.attemptId
  commandIdempotencyKey := commandKey loaded.startKey name
  correlationId := loaded.correlationId
  expectedAggregateVersion := stepRun.aggregateVersion
  stepRunId := loaded.stepRunId
  workspaceId := loaded.workspaceId
  request := request

private def identityMatches (identity : LeafExecutionIdentity) (effectAdapterKey startKey : String)
    (request : StartLeafAttemptRequest) : Bool :=
  identity.workspaceId == request.workspaceId && identity.runId == request.runId &&
    identity.stepRunId == request.stepRunId && identity.attemptId == request.attemptId &&
    identity.effectAdapterKey == some effectAdapterKey && identity.eventId == request.eventId &&
    identity.startKey == startKey

/-- What `loadLeaf` makes of the context that it read. -/
def loadedFrom (context : StepExecutionContext Value) (stepRun : StepRun) (attempt : Attempt)
    (startKey : String) (request : StartLeafAttemptRequest) : LoadedLeaf Value where
  attempt := attempt
  actorId := context.plan.authority.subjectActorId
  correlationId := s!"leaf:{request.eventId}"
  workspaceId := request.workspaceId
  isOutputSink :=
    match workflowSinks context.plan.compiledWorkflow with
    | [sink] => sink.key == stepRun.nodeKey
    | _ => false
  outputContract := context.plan.outputContract
  runInput := if context.plan.compiledWorkflow.nodes.length == 1 then context.runInput else none
  startKey := startKey
  stepRun := stepRun
  stepRunId := request.stepRunId

/-- The context and the identity of a leaf agree with the request and the adapter. -/
def checkLeaf (effectAdapterKey startKey : String) (request : StartLeafAttemptRequest)
    (context : Option (StepExecutionContext Value)) (identity : Option LeafExecutionIdentity) :
    Except ExecuteLeafAttemptFailure (LoadedLeaf Value) :=
  if !identity.any (identityMatches · effectAdapterKey startKey request) then
    .error (leafFailure .leafBindingMismatch
      "The leaf callback does not match its exact durable outbox binding.")
  else
    match context, context.bind StepExecutionContext.stepRun with
    | some context, some stepRun =>
        if stepRun.runId != request.runId then
          .error (leafFailure .stepNotFound
            "The leaf step does not exist in this workspace and run.")
        else
          match targetAttempt stepRun request.attemptId with
          | none => .error (leafFailure .attemptNotFound
              "The leaf execution does not identify a durable attempt.")
          | some attempt => .ok (loadedFrom context stepRun attempt startKey request)
    | _, _ => .error (leafFailure .stepNotFound
        "The leaf step does not exist in this workspace and run.")

/-- The attempt of a request with all that its execution reads. -/
def loadLeaf (effectAdapterKey : String) (request : StartLeafAttemptRequest) :
    LeafProgram Value (Except ExecuteLeafAttemptFailure (LoadedLeaf Value)) := do
  let startKey := String.ofList (trim request.startKey)
  if startKey.isEmpty then
    pure (.error (leafFailure .effectOperationFailed
      "A leaf execution requires a non-empty durable start key."))
  else
    let context ← ask (.getContextByStepId request.workspaceId request.stepRunId)
    let identity ← ask
      (.getLeafExecutionIdentity request.workspaceId request.stepRunId request.attemptId)
    pure (checkLeaf effectAdapterKey startKey request context identity)

/-- The request of the effect, under the operation key of the attempt. -/
def toEffectRequest (request : StartLeafAttemptRequest) (attempt : Attempt)
    (runInput : Option (ValidatedRunInput Value)) : LeafEffectRequest Value where
  attemptId := attempt.attemptId
  operationKey := attempt.operationKey
  reservedAmount := attempt.reservedAmount
  reservationUnit := attempt.reservationUnit
  routeSnapshotHash := attempt.routeSnapshotHash
  routingDecisionId := attempt.routingDecisionId
  runId := request.runId
  runInput := runInput
  stepRunId := request.stepRunId
  workspaceId := request.workspaceId

/-! ## Outputs -/

inductive OutputPreparation (Value : Type) where
  | accepted (output : StepOutputMaterialization Value)
  | rejected
  | unavailable

section

variable (hashes : CanonicalHashes Value)

private def sinkArtifact (loaded : LoadedLeaf Value) (attempt : Attempt) (value : Value)
    (validatorVersion : String) (validatedAt : Instant) : Artifact :=
  let contentHash := hashes.value.contentHash value
  let identityHash := hashes.outputIdentity attempt loaded.stepRun loaded.outputContract contentHash
  { artifactId := "artifact_" ++ String.ofList (identityHash.toList.drop "sha256:".length)
    attemptId := attempt.attemptId
    contentHash := contentHash
    contract := loaded.outputContract
    finalizedAt := validatedAt
    operationKey := attempt.operationKey
    runId := loaded.stepRun.runId
    sizeBytes := hashes.value.byteSize value
    stepRunId := loaded.stepRun.stepRunId
    validatedAt := validatedAt
    validatorVersion := validatorVersion
    workspaceId := loaded.stepRun.workspaceId }

private def sinkOutput (artifact : Artifact) (value : Value) : StepOutputMaterialization Value where
  artifact := artifact
  ref := ⟨artifactRef artifact, artifact.contract, artifact.validatedAt, artifact.validatorVersion⟩
  value := value

/-- Output is validated against its contract and stored before it is reported. -/
def prepareSinkOutput (loaded : LoadedLeaf Value) (attempt : Attempt) (value : Value) :
    LeafProgram Value (OutputPreparation Value) := do
  match ← ask (.validate loaded.outputContract value) with
  | none => pure .unavailable
  | some (.rejected _) => pure .rejected
  | some (.accepted validatorVersion) =>
      if !nonBlank validatorVersion then pure .unavailable
      else
        match ← ask .now with
        | none => pure .unavailable
        | some validatedAt => pure (.accepted (sinkOutput
            (sinkArtifact hashes loaded attempt value validatorVersion validatedAt) value))

/-! ## Recording -/

/-- A recorded retryable failure is retried without another effect. -/
def recoverRecordedRetry (loaded : LoadedLeaf Value) :
    LeafProgram Value ExecuteLeafAttemptResult := do
  let result ← ask (.transition (loaded.command "authorize-retry" loaded.stepRun .authorizeRetry))
  pure (concludeTransition loaded.attempt.attemptId true result)

/-- The transition that records a fresh final outcome. -/
def settlementRequest (outcome : LeafEffectFinalOutcome Value)
    (output : Option (StepOutputMaterialization Value)) : String × TransitionRequest Value :=
  match outcome with
  | .succeeded _ settlement => ("succeeded", .recordAttemptSucceeded output settlement)
  | .failed _ retryable settlement => ("failed", .recordAttemptFailure retryable settlement)

/-- The outcome of the effect is recorded as the attempt's. -/
def settleFreshOutcome (loaded : LoadedLeaf Value) (stepRun : StepRun)
    (outcome : LeafEffectFinalOutcome Value) (output : Option (StepOutputMaterialization Value)) :
    LeafProgram Value ExecuteLeafAttemptResult := do
  let (name, request) := settlementRequest outcome output
  let result ← ask (.transition (loaded.command name stepRun request))
  pure (concludeTransition loaded.attempt.attemptId false result)

/-- An unknown outcome makes the attempt ambiguous. -/
def markAmbiguous (loaded : LoadedLeaf Value) (stepRun : StepRun) :
    LeafProgram Value ExecuteLeafAttemptResult := do
  match ← ask (.transition (loaded.command "ambiguous" stepRun .markAttemptAmbiguous)) with
  | .ok success => pure (.ok ⟨success.replayed, .ambiguous, success.stepRun⟩)
  | .error refusal => pure (leafTransitionFailure refusal)

/-- A refused threshold closes the attempt when its window passed or its Run stops. -/
def resolveBeforeEffect (loaded : LoadedLeaf Value) (refusal : TransitionStepAttemptFailure) :
    LeafProgram Value ExecuteLeafAttemptResult := do
  match refusal.code with
  | .deadlineElapsed =>
      let expired ← ask (.transition
        (loaded.command "not-started" loaded.stepRun (.recordAttemptNotStarted false)))
      pure (concludeTransition loaded.attempt.attemptId false expired)
  | .runNotRunning =>
      let cancelled ← ask (.transition
        (loaded.command "cancel-before-effect" loaded.stepRun .cancelAttemptBeforeEffect))
      pure (concludeTransition loaded.attempt.attemptId false cancelled)
  | _ => pure (leafTransitionFailure refusal)

/-! ## The effect threshold -/

/-- Where an attempt stands before its effect, and whether the effect may run. -/
structure ThresholdContinuation where
  execute : Bool
  attempt : Attempt
  stepRun : StepRun

/-- An attempt crosses the effect threshold once; whoever finds it crossed only looks up. -/
def ensureEffectThreshold (loaded : LoadedLeaf Value) :
    LeafProgram Value (Except ExecuteLeafAttemptResult ThresholdContinuation) := do
  if loaded.attempt.state != .claimed && loaded.attempt.state != .inFlight then
    pure (.ok ⟨false, loaded.attempt, loaded.stepRun⟩)
  else
    match ← ask (.transition
      (loaded.command "start-effect" loaded.stepRun .startAttemptEffect)) with
    | .error refusal =>
        if loaded.attempt.state == .claimed then
          let result ← resolveBeforeEffect loaded refusal
          pure (.error result)
        else pure (.error (leafTransitionFailure refusal))
    | .ok started =>
        match targetAttempt started.stepRun loaded.attempt.attemptId with
        | none => pure (.error (.error (leafFailure .attemptNotFound
            "The leaf attempt disappeared after its effect threshold.")))
        | some attempt =>
            pure (.ok ⟨started.effectPermission == .granted, attempt, started.stepRun⟩)

/-! ## Executing and reconciling -/

/-- The effect runs, and what it answers is settled or left ambiguous. -/
def executeFreshEffect (request : StartLeafAttemptRequest) (loaded : LoadedLeaf Value)
    (current : ThresholdContinuation) : LeafProgram Value ExecuteLeafAttemptResult := do
  let answer ← ask (.execute (toEffectRequest request current.attempt loaded.runInput))
  match answer with
  | none | some (.outcomeUnknown _) => markAmbiguous loaded current.stepRun
  | some (.final (.failed reason retryable settlement)) =>
      settleFreshOutcome loaded current.stepRun (.failed reason retryable settlement) none
  | some (.final (.succeeded output settlement)) =>
      if !loaded.isOutputSink then
        settleFreshOutcome loaded current.stepRun (.succeeded output settlement) none
      else
        match ← prepareSinkOutput hashes loaded current.attempt output with
        | .unavailable => markAmbiguous loaded current.stepRun
        | .rejected =>
            settleFreshOutcome loaded current.stepRun
              (.failed "output-contract-violation" false (.settle settlement)) none
        | .accepted prepared =>
            settleFreshOutcome loaded current.stepRun (.succeeded output settlement) (some prepared)

/-- The outcome and the settlement that a found effect resolves to. -/
def resolutionForLookup :
    LeafEffectFinalOutcome Value → AmbiguityOutcome × StepCostSettlement
  | .succeeded _ settlement => (.succeeded, .settle settlement)
  | .failed _ retryable settlement =>
      (if retryable then .failedRetryable else .failedTerminal, settlement)

/-- An ambiguity is resolved with its proof. -/
def resolveAs (loaded : LoadedLeaf Value) (stepRun : StepRun) (proofId : String)
    (resolution : AmbiguityOutcome × StepCostSettlement)
    (output : Option (StepOutputMaterialization Value)) :
    LeafProgram Value ExecuteLeafAttemptResult := do
  let result ← ask (.transition (loaded.command s!"resolve:{proofId}" stepRun
    (.resolveAttemptAmbiguity resolution.1 proofId output resolution.2)))
  pure (concludeTransition loaded.attempt.attemptId true result)

/-- What was found settles the attempt as the effect would have. -/
def resolveLookup (loaded : LoadedLeaf Value) (stepRun : StepRun)
    (outcome : LeafEffectFinalOutcome Value) (proofId : String) :
    LeafProgram Value ExecuteLeafAttemptResult := do
  match outcome with
  | .failed .. => resolveAs loaded stepRun proofId (resolutionForLookup outcome) none
  | .succeeded value settlement =>
      if !loaded.isOutputSink then
        resolveAs loaded stepRun proofId (resolutionForLookup outcome) none
      else
        match ← prepareSinkOutput hashes loaded loaded.attempt value with
        | .unavailable => pure (.ok ⟨true, .ambiguous, stepRun⟩)
        | .rejected => resolveAs loaded stepRun proofId (.failedTerminal, .settle settlement) none
        | .accepted prepared =>
            resolveAs loaded stepRun proofId (resolutionForLookup outcome) (some prepared)

/-- The ambiguity of an attempt, recorded if its effect is still in flight. -/
def recordAmbiguity (loaded : LoadedLeaf Value) (current : ThresholdContinuation) :
    LeafProgram Value ExecuteLeafAttemptResult :=
  if current.attempt.state == .inFlight then markAmbiguous loaded current.stepRun
  else pure (.ok ⟨true, .ambiguous, current.stepRun⟩)

/-- The effect of an attempt that may have run is looked up. -/
def reconcileEffect (request : StartLeafAttemptRequest) (loaded : LoadedLeaf Value)
    (current : ThresholdContinuation) : LeafProgram Value ExecuteLeafAttemptResult := do
  match (terminalStatus current.attempt).filter (· != .ambiguous) with
  | some status => pure (.ok ⟨true, status, current.stepRun⟩)
  | none =>
      let lookup ← ask (.lookup (toEffectRequest request current.attempt loaded.runInput))
      let ambiguous ← recordAmbiguity loaded current
      match ambiguous, lookup with
      | .ok success, some (.found outcome proofId) =>
          resolveLookup hashes loaded success.stepRun outcome proofId
      | result, _ => pure result

/-- `makeExecuteLeafAttempt`. -/
def executeLeafAttempt (effectAdapterKey : String) (request : StartLeafAttemptRequest) :
    LeafProgram Value ExecuteLeafAttemptResult := do
  match ← loadLeaf effectAdapterKey request with
  | .error failure => pure (.error failure)
  | .ok loaded =>
      if loaded.attempt.state == .failedRetryable && loaded.stepRun.state == .retryable then
        recoverRecordedRetry loaded
      else
        match (terminalStatus loaded.attempt).filter (· != .ambiguous) with
        | some status => pure (.ok ⟨true, status, loaded.stepRun⟩)
        | none =>
            match ← ensureEffectThreshold loaded with
            | .error result => pure result
            | .ok current =>
                if current.execute then executeFreshEffect hashes request loaded current
                else reconcileEffect hashes request loaded current

end

end Kurobara.Application
