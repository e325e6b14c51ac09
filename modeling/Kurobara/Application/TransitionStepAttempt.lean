import Kurobara.Foundation.Fallible
import Kurobara.Kernel.Step.EffectThreshold
import Kurobara.Persistence.StepRows

/-! # Transitions of a step attempt

The transition use case. Within one transaction it finds the attempt, answers a
journalled command as a replay, and otherwise validates the command, projects it
onto the parent generation, settles the reservation, applies the command with the
durable receipt and journals it. Only a fresh start of the effect grants the
permission to execute it.
-/

namespace Kurobara.Application

open Foundation Kernel Persistence

/-! ## Inputs -/

/-- A usage that the command reports. -/
structure StepUsage where
  amount : Amount
  unit : String
  usageEntryId : UsageEntryId
  deriving DecidableEq, Repr

/-- What a command does with the reservation: settle a usage, or release it. -/
inductive StepCostSettlement where
  | settle (usage : StepUsage)
  | release
  deriving DecidableEq, Repr

/-- The artifact of a succeeded attempt with its reference and its value. -/
structure StepOutputMaterialization (Value : Type) where
  artifact : Artifact
  ref : ValidatedOutputRef
  value : Value
  deriving DecidableEq, Repr

/-- The request of the use case; each form has its own command. -/
inductive TransitionRequest (Value : Type) where
  | startAttemptEffect
  | recordAttemptSucceeded (output : Option (StepOutputMaterialization Value))
      (settlement : StepUsage)
  | recordAttemptFailure (retryable : Bool) (settlement : StepCostSettlement)
  | recordAttemptNotStarted (retryable : Bool)
  | authorizeRetry
  | markAttemptAmbiguous
  | resolveAttemptAmbiguity (outcome : AmbiguityOutcome) (proofId : String)
      (output : Option (StepOutputMaterialization Value)) (settlement : StepCostSettlement)
  | cancelAttemptBeforeEffect
  deriving DecidableEq, Repr

/-- The input of `transitionStepAttempt`. -/
structure TransitionStepAttemptInput (Value : Type) where
  actorId : ActorId
  attemptId : AttemptId
  commandIdempotencyKey : IdempotencyKey
  correlationId : CorrelationId
  expectedAggregateVersion : ℕ
  stepRunId : StepRunId
  workspaceId : WorkspaceId
  request : TransitionRequest Value
  deriving DecidableEq, Repr

variable {Value : Type}

def TransitionRequest.type : TransitionRequest Value → StepCommandType
  | .startAttemptEffect => .startAttemptEffect
  | .recordAttemptSucceeded .. => .recordAttemptSucceeded
  | .recordAttemptFailure .. => .recordAttemptFailure
  | .recordAttemptNotStarted _ => .recordAttemptNotStarted
  | .authorizeRetry => .authorizeRetry
  | .markAttemptAmbiguous => .markAttemptAmbiguous
  | .resolveAttemptAmbiguity .. => .resolveAttemptAmbiguity
  | .cancelAttemptBeforeEffect => .cancelAttemptBeforeEffect

inductive TransitionStepAttemptFailureCode where
  | authorityCapabilityMissing
  | authorityPermissionMissing
  | authoritySubjectMismatch
  | authorityVersionUnsupported
  | costSettlementConflict
  | deadlineElapsed
  | invalidOutput
  | invalidSettlement
  | runNotCancelling
  | runNotRunning
  | stepNotFound
  | transitionRejected
  | usageExceedsReservation
  deriving DecidableEq, Repr

structure TransitionStepAttemptFailure where
  code : TransitionStepAttemptFailureCode
  domainCode : Option String
  message : String
  deriving DecidableEq, Repr

/-- Whether the caller may now perform the provider effect. -/
inductive EffectPermission where
  | granted
  | notApplicable
  | replayOnly
  deriving DecidableEq, Repr

/-- What happened to the reservation in this transition. -/
inductive SettlementStatus where
  | existing
  | released
  | settled
  deriving DecidableEq, Repr

/-- The answer of an accepted transition. -/
structure TransitionStepAttemptSuccess where
  effectPermission : EffectPermission
  replayed : Bool
  settlementStatus : Option SettlementStatus
  stepRun : StepRun
  deriving DecidableEq, Repr

abbrev TransitionStepAttemptResult :=
  Except TransitionStepAttemptFailure TransitionStepAttemptSuccess

def transitionFailure (code : TransitionStepAttemptFailureCode) (message : String) :
    TransitionStepAttemptFailure :=
  ⟨code, none, message⟩

def transitionRejected (domainCode message : String) : TransitionStepAttemptFailure :=
  ⟨.transitionRejected, some domainCode, message⟩

/-! ## Command identity -/

/-- The part of an input that its command hash covers. -/
structure HashableCommand where
  attemptId : AttemptId
  stepRunId : StepRunId
  type : StepCommandType
  workspaceId : WorkspaceId
  output : Option Artifact
  settlement : Option StepCostSettlement
  retryable : Option Bool
  outcome : Option AmbiguityOutcome
  proofId : Option String
  deriving DecidableEq, Repr

/-- The canonical content hashes that the use cases compute. -/
structure CanonicalHashes (Value : Type) where
  value : ContentEvidence Value
  command : HashableCommand → ContentHash
  routeSnapshot : RunPlanRouteSnapshot → ContentHash → RunId → StepRunId → ContentHash
  outputIdentity : Attempt → StepRun → ContractRef → ContentHash → ContentHash

/-- The settlement that a request carries. -/
def settlementOf : TransitionRequest Value → Option StepCostSettlement
  | .recordAttemptSucceeded _ usage => some (.settle usage)
  | .recordAttemptFailure _ settlement => some settlement
  | .recordAttemptNotStarted _ => some .release
  | .resolveAttemptAmbiguity _ _ _ settlement => some settlement
  | .cancelAttemptBeforeEffect => some .release
  | _ => none

/-- The output that a request carries. -/
def outputOf : TransitionRequest Value → Option (StepOutputMaterialization Value)
  | .recordAttemptSucceeded output _ => output
  | .resolveAttemptAmbiguity _ _ output _ => output
  | _ => none

/-- What the command hash is taken over. -/
def hashableCommand (input : TransitionStepAttemptInput Value) : HashableCommand where
  attemptId := input.attemptId
  stepRunId := input.stepRunId
  type := input.request.type
  workspaceId := input.workspaceId
  output := (outputOf input.request).map StepOutputMaterialization.artifact
  -- A cancellation settles by release too, but its command hash leaves that out.
  settlement :=
    match input.request with
    | .cancelAttemptBeforeEffect => none
    | request => settlementOf request
  retryable :=
    match input.request with
    | .recordAttemptFailure retryable _ | .recordAttemptNotStarted retryable => some retryable
    | _ => none
  outcome :=
    match input.request with
    | .resolveAttemptAmbiguity outcome .. => some outcome
    | _ => none
  proofId :=
    match input.request with
    | .resolveAttemptAmbiguity _ proofId .. => some proofId
    | _ => none

/-! ## Validation -/

/-- The reference names the artifact, and the artifact is of the value. -/
def outputIsExact (evidence : ContentEvidence Value) (output : StepOutputMaterialization Value) :
    Bool :=
  output.ref.artifact == artifactRef output.artifact &&
    output.ref.contract == output.artifact.contract &&
    output.ref.validatedAt == output.artifact.validatedAt &&
    output.ref.validatorVersion == output.artifact.validatorVersion &&
    nonBlank output.ref.validatorVersion &&
    output.artifact.contentHash == evidence.contentHash output.value &&
    output.artifact.sizeBytes == evidence.byteSize output.value &&
    decide (output.artifact.validatedAt ≤ output.artifact.finalizedAt)

private def usageIsWellFormed : Option StepCostSettlement → Bool
  | some (.settle usage) => nonBlank usage.unit && isAmount usage.amount
  | _ => true

/-- The settlement of the request is well formed and fits its outcome. -/
def validateSettlement (evidence : ContentEvidence Value) (request : TransitionRequest Value) :
    Option TransitionStepAttemptFailure :=
  if !usageIsWellFormed (settlementOf request) then
    some (transitionFailure .invalidSettlement
      "A usage settlement requires a non-negative amount and unit.")
  else
    match request with
    | .resolveAttemptAmbiguity .succeeded _ _ .release =>
        some (transitionFailure .invalidSettlement
          "A reconciled successful effect requires an explicit usage entry.")
    | _ =>
        if (outputOf request).any (!outputIsExact evidence ·) then
          some (transitionFailure .invalidOutput
            "A step output requires one exact finalized artifact and validation proof.")
        else
          match request with
          | .resolveAttemptAmbiguity .failedRetryable _ (some _) _
          | .resolveAttemptAmbiguity .failedTerminal _ (some _) _ =>
              some (transitionFailure .invalidOutput
                "A non-success ambiguity outcome cannot accept an output.")
          | _ => none

/-- The workflow nodes that no other node depends on. -/
def workflowSinks (workflow : CompiledWorkflow) : List CompiledWorkflowNode :=
  let dependedOn := workflow.nodes.flatMap CompiledWorkflowNode.dependsOn
  workflow.nodes.filter fun node => !dependedOn.contains node.key

/-- The step is the only sink of the workflow, and the artifact is of its attempt under the plan's
output contract. -/
def outputIsBoundToSink (rows : StepRows Value) (attempt : Attempt) (stepRunId : StepRunId)
    (workspaceId : WorkspaceId) (artifact : Artifact) : Bool :=
  (match workflowSinks rows.plan.compiledWorkflow with
    | [sink] => sink.key == rows.stepRun.nodeKey
    | _ => false) &&
    artifact.contract == rows.plan.outputContract && artifact.workspaceId == workspaceId &&
    artifact.runId == rows.run.runId && artifact.stepRunId == stepRunId &&
    artifact.attemptId == attempt.attemptId && artifact.operationKey == attempt.operationKey

private def settlementExceedsReservation (attempt : Attempt) : Option StepCostSettlement → Bool
  | some (.settle usage) => amountExceeds usage.amount attempt.reservedAmount
  | _ => false

/-- `validateFreshTransitionContext`: what a command that is no replay must meet of the Run and the
sink. -/
def validateFreshTransitionContext (rows : StepRows Value) (attempt : Attempt)
    (input : TransitionStepAttemptInput Value) : Option TransitionStepAttemptFailure :=
  if input.request.type == .cancelAttemptBeforeEffect && rows.run.state != .cancelling then
    some (transitionFailure .runNotCancelling
      "A claimed attempt can cancel only while its run is stopping.")
  else if (outputOf input.request).any fun output =>
      !outputIsBoundToSink rows attempt input.stepRunId input.workspaceId output.artifact then
    some (transitionFailure .invalidOutput ("Only the unique DAG sink may materialize an output " ++
      "bound to its exact run contract and attempt."))
  else if settlementExceedsReservation attempt (settlementOf input.request) then
    some (transitionFailure .usageExceedsReservation
      "Observed usage exceeds the amount reserved for this effect.")
  else none

def validateAuthorityIdentity (plan : RunPlan) (actorId : ActorId) :
    Option TransitionStepAttemptFailure :=
  if plan.authority.subjectActorId != actorId then
    some (transitionFailure .authoritySubjectMismatch
      "The step actor is not the immutable authority subject.")
  else if !isSupportedAuthorityEnvelopeVersion plan.authority.version then
    some (transitionFailure .authorityVersionUnsupported
      "The step authority envelope version is not supported.")
  else none

private def capabilityIsAuthorized (plan : RunPlan) (nodeKey : String) : Bool :=
  match plan.compiledWorkflow.nodes.find? fun node => node.key == nodeKey with
  | none => false
  | some node => plan.authority.capabilities.any (capabilityMatches · node.capability)

/-- The Run is running, the plan still in force, and the permission granted. -/
def validateExecutionWindow (rows : StepRows Value) (now : Instant)
    (requiredPermission : String) : Option TransitionStepAttemptFailure :=
  if rows.run.state != .running then
    some (transitionFailure .runNotRunning
      s!"A new effect cannot start while its run is {rows.run.state.text}.")
  else if decide (rows.plan.deadline ≤ now) || decide (rows.plan.authority.deadline ≤ now) then
    some (transitionFailure .deadlineElapsed
      "A new effect cannot start after its execution authority expires.")
  else if !rows.plan.authority.permissions.contains requiredPermission then
    some (transitionFailure .authorityPermissionMissing
      s!"The run authority is missing permission {requiredPermission}.")
  else if !capabilityIsAuthorized rows.plan rows.stepRun.nodeKey then
    some (transitionFailure .authorityCapabilityMissing
      "The immutable authority does not admit this step capability.")
  else none

/-! ## Commands -/

/-- The attempt that the command names. -/
def targetAttempt (stepRun : StepRun) (attemptId : AttemptId) : Option Attempt :=
  stepRun.attempts.find? fun attempt => attempt.attemptId == attemptId

private def settlementIdentity (attempt : Attempt) (unit : String) : AttemptSettlementIdentity :=
  ⟨attempt.attemptId, attempt.operationKey, attempt.costReservationId, unit⟩

/-- The receipt that a request expects of the ledger. -/
def settlementProof (attempt : Attempt) : StepCostSettlement → AttemptSettlementProof
  | .release => .released
      ⟨settlementIdentity attempt attempt.reservationUnit, attempt.reservedAmount⟩
  | .settle usage => .settled (settlementIdentity attempt usage.unit)
      (attempt.reservedAmount - usage.amount) usage.amount usage.usageEntryId

/-- The command of an input, with the receipt that the ledger gave, or the expected
one before the ledger was asked. -/
def toCommand (input : TransitionStepAttemptInput Value) (attempt : Attempt)
    (retryAuthorized : Bool) (durableSettlement : Option AttemptSettlementProof) :
    Option StepCommand :=
  let settlement (requested : StepCostSettlement) : AttemptSettlementProof :=
    durableSettlement.getD (settlementProof attempt requested)
  match input.request with
  | .startAttemptEffect => some (.startAttemptEffect input.attemptId)
  | .markAttemptAmbiguous => some (.markAttemptAmbiguous input.attemptId)
  | .authorizeRetry => some (.authorizeRetry input.attemptId retryAuthorized)
  | .recordAttemptSucceeded output usage =>
      some (.recordAttemptSucceeded input.attemptId (output.map StepOutputMaterialization.ref)
        (settlement (.settle usage)))
  | .recordAttemptFailure retryable requested =>
      some (.recordAttemptFailure input.attemptId (retryable && retryAuthorized) retryable
        (settlement requested))
  | .recordAttemptNotStarted retryable =>
      match settlement .release with
      | .released proof => some (.recordAttemptNotStarted input.attemptId
          (retryable && retryAuthorized) retryable proof)
      | .settled .. => none
  | .resolveAttemptAmbiguity outcome proofId output requested =>
      some (.resolveAttemptAmbiguity input.attemptId outcome proofId
        (outcome == .failedRetryable && retryAuthorized) (settlement requested)
        (output.map StepOutputMaterialization.ref))
  | .cancelAttemptBeforeEffect =>
      match settlement .release with
      | .released proof => some (.cancelAttemptBeforeEffect input.attemptId proof)
      | .settled .. => none

/-- How many events the command will append, and so how many event identifiers it needs. -/
def eventCountForCommand : StepCommand → ℕ
  | .recordAttemptFailure _ _ retryable _ => if retryable then 2 else 1
  | .recordAttemptNotStarted _ _ retryable _ => if retryable then 2 else 1
  | .resolveAttemptAmbiguity _ outcome .. => if outcome == .failedRetryable then 2 else 1
  | _ => 1

/-- Only a fresh start of the effect grants it; a replayed one never does. -/
def effectPermission (type : StepCommandType) (replayed : Bool) : EffectPermission :=
  if type != .startAttemptEffect then .notApplicable
  else if replayed then .replayOnly
  else .granted

/-! ## Settlement -/

/-- The settlement of a transition with the proof the kernel asks for. -/
structure AppliedSettlement where
  proof : Option AttemptSettlementProof
  status : Option SettlementStatus
  deriving DecidableEq, Repr

/-- The usage entry that a reported usage becomes. -/
def usageFor (input : TransitionStepAttemptInput Value) (attempt : Attempt) (stepRun : StepRun)
    (now : Instant) (usage : StepUsage) : UsageEntry where
  amount := usage.amount
  attemptId := attempt.attemptId
  operationKey := attempt.operationKey
  recordedAt := now
  reservationId := attempt.costReservationId
  runId := stepRun.runId
  unit := usage.unit
  usageEntryId := usage.usageEntryId
  workspaceId := input.workspaceId
  reconciliationProofId :=
    match input.request with
    | .resolveAttemptAmbiguity _ proofId .. => some proofId
    | _ => none

private def releaseFor (input : TransitionStepAttemptInput Value) (attempt : Attempt)
    (stepRun : StepRun)
    (now : Instant) : CostReservationRelease where
  amount := attempt.reservedAmount
  attemptId := attempt.attemptId
  operationKey := attempt.operationKey
  releasedAt := now
  reservationId := attempt.costReservationId
  runId := stepRun.runId
  unit := attempt.reservationUnit
  workspaceId := input.workspaceId

/-- The reservation was taken for this attempt of this step Run. -/
def reservationIdentityMatches (reservation : CostReservation) (attempt : Attempt)
    (stepRun : StepRun) (workspaceId : WorkspaceId) : Bool :=
  reservation.workspaceId == workspaceId && reservation.runId == stepRun.runId &&
    reservation.stepRunId == stepRun.stepRunId && reservation.attemptId == attempt.attemptId &&
    reservation.reservationId == attempt.costReservationId &&
    reservation.operationKey == attempt.operationKey &&
    reservation.unit == attempt.reservationUnit && reservation.amount == attempt.reservedAmount

/-- The proof that a released reservation gives. -/
def releaseProofFrom (reservation : CostReservation) (attempt : Attempt) (stepRun : StepRun)
    (workspaceId : WorkspaceId) : Except PersistenceError AttemptSettlementProof :=
  match reservation.state with
  | .released _ =>
      if reservationIdentityMatches reservation attempt stepRun workspaceId then
        .ok (.released ⟨⟨reservation.attemptId, reservation.operationKey,
          reservation.reservationId, reservation.unit⟩, reservation.amount⟩)
      else .error .stepSettlementReceiptMismatch
  | _ => .error .stepSettlementReceiptMismatch

/-- The proof that a settled reservation gives, where the usage is the one requested. -/
def settlementProofFrom (reservation : CostReservation) (usage requestedUsage : UsageEntry)
    (attempt : Attempt) (stepRun : StepRun) (workspaceId : WorkspaceId) :
    Except PersistenceError AttemptSettlementProof :=
  match reservation.state with
  | .settled settledAmount releasedAmount _ usageEntryId =>
      if reservationIdentityMatches reservation attempt stepRun workspaceId &&
          usageMatches usage requestedUsage && usageEntryId == usage.usageEntryId &&
          settledAmount == usage.amount && isAmount releasedAmount &&
          amountsEqual (settledAmount + releasedAmount) reservation.amount then
        .ok (.settled ⟨reservation.attemptId, reservation.operationKey,
          reservation.reservationId, reservation.unit⟩ releasedAmount settledAmount usageEntryId)
      else .error .stepSettlementReceiptMismatch
  | _ => .error .stepSettlementReceiptMismatch

/-- A settlement either answers with a failure or with its receipt. -/
abbrev SettlementOutcome := Except TransitionStepAttemptFailure AppliedSettlement

def receipt (status : SettlementStatus) (ledger : CostLedger)
    (proof : Except PersistenceError AttemptSettlementProof) :
    Except PersistenceError (SettlementOutcome × CostLedger) :=
  proof.map fun proof => (.ok ⟨some proof, some status⟩, ledger)

/-- `settleReservation`: applies the request's settlement to the ledger, once. -/
def settleReservation (ledger : CostLedger) (input : TransitionStepAttemptInput Value)
    (stepRun : StepRun) (attempt : Attempt) (now : Instant) :
    Except PersistenceError (SettlementOutcome × CostLedger) :=
  match settlementOf input.request with
  | none => .ok (.ok ⟨none, none⟩, ledger)
  | some .release =>
      (releaseStepCost ledger (releaseFor input attempt stepRun now)).bind fun
        | (.conflict, _) => .ok (.error (transitionFailure .costSettlementConflict
            "The reservation cannot be released from its durable state."), ledger)
        | (.existing reservation, moved) => receipt .existing moved
            (releaseProofFrom reservation attempt stepRun input.workspaceId)
        | (.released reservation, moved) => receipt .released moved
            (releaseProofFrom reservation attempt stepRun input.workspaceId)
  | some (.settle usage) =>
      let requested := usageFor input attempt stepRun now usage
      (settleStepCost ledger requested).bind fun
        | (.amountExceeded, _) => .ok (.error (transitionFailure .usageExceedsReservation
            "Observed usage exceeds the amount reserved for this effect."), ledger)
        | (.conflict, _) => .ok (.error (transitionFailure .costSettlementConflict
            "The reservation is already bound to another settlement."), ledger)
        | (.existing reservation usage, moved) => receipt .existing moved
            (settlementProofFrom reservation usage requested attempt stepRun input.workspaceId)
        | (.settled reservation usage, moved) => receipt .settled moved
            (settlementProofFrom reservation usage requested attempt stepRun input.workspaceId)

/-! ## Persisting a transition -/

section

variable [DecidableEq Value] (hashes : CanonicalHashes Value)

/-- Stores the artifact of a succeeded attempt. -/
def persistOutput (rows : StepRows Value) (request : TransitionRequest Value) :
    Except PersistenceError (StepRows Value) :=
  match outputOf request with
  | none => .ok rows
  | some output => rows.insertArtifact hashes.value output.artifact output.value

private def persistAttempt (rows : StepRows Value) (previous next : StepRun)
    (attemptId : AttemptId) :
    Except PersistenceError Unit :=
  match targetAttempt previous attemptId, targetAttempt next attemptId with
  | some previousAttempt, some nextAttempt =>
      if nextAttempt.state != previousAttempt.state then
        rows.admitsAttemptUpdate previousAttempt nextAttempt
      else .ok ()
  | _, _ => .ok ()

/-- What the journal keeps for the replay of the command. -/
def journalProof (input : TransitionStepAttemptInput Value) (identity : StepCommandIdentity) :
    StepCommandReplayProof where
  actorId := input.actorId
  commandType := input.request.type
  identity := identity
  stepRunId := input.stepRunId
  workspaceId := input.workspaceId

/-- Stores the step Run, the journal entry and the outbox messages of a transition. -/
def persistTransition (rows : StepRows Value) (input : TransitionStepAttemptInput Value)
    (identity : StepCommandIdentity) (transition : StepTransition) :
    Except PersistenceError (StepRows Value) :=
  (persistOutput hashes rows input.request).bind fun stored =>
    (persistAttempt stored rows.stepRun transition.stepRun input.attemptId).map fun _ =>
      { stored with
        stepRun := transition.stepRun
        events := stored.events ++ transition.events
        commandJournal := stored.commandJournal ++ [journalProof input identity] }

def isTerminalStepRun (stepRun : StepRun) : Bool :=
  match stepRun.state with
  | .succeeded | .failed | .cancelled | .skipped => true
  | _ => false

/-- The wake-ups of `requestDagSchedulingForTerminalStep` and
`requestRoutingForReadyStep`. -/
def requestWakeUps (rows : StepRows Value) (stepRun : StepRun) : StepRows Value :=
  { rows with
    dagScheduleRequests := rows.dagScheduleRequests ++
      (if isTerminalStepRun stepRun then [stepRun.runId] else [])
    stepRoutingRequests := rows.stepRoutingRequests ++
      (if stepRun.state == .ready then [stepRun.stepRunId] else []) }

/-! ## The use case -/

/-- The clock, the event identifiers and the permission of one call. -/
structure TransitionEnvironment where
  now : Instant
  eventIds : ℕ → EventId
  requiredPermission : String

abbrev TransitionOutcome (Value : Type) :=
  Except PersistenceError (TransitionStepAttemptResult × StepRows Value)

private def attemptIdMismatch : TransitionStepAttemptFailure :=
  transitionRejected "attempt-id-mismatch"
    "The command does not identify an attempt in this step."

private def stepRejection (failure : StepTransitionFailure) : TransitionStepAttemptFailure :=
  transitionRejected failure.code.text failure.message

/-- Reports the effect to the generation that owns the Run, where there is one. -/
def projectParentEffect (rows : StepRows Value) (input : TransitionStepAttemptInput Value)
    (attempt : Attempt) (now : Instant) :
    Option TransitionStepAttemptFailure × StepRows Value :=
  match rows.generation with
  | none => (none, rows)
  | some generation =>
      let projected : StepParentEffectInput := ⟨attempt, now, rows.plan, rows.run, rows.stepRun⟩
      let (result, moved) :=
        match input.request with
        | .startAttemptEffect =>
            authorizeParentEffect hashes.routeSnapshot generation rows.ledger projected
        | .markAttemptAmbiguous => markParentEffectAmbiguous generation projected
        | _ => (.notParented, generation)
      match result with
      | .denied code message =>
          (some (transitionRejected code message), { rows with generation := some moved })
      | _ => (none, { rows with generation := some moved })

/-- Answers a command that the journal has, from the journal and the ledger. -/
def replayCommand (rows : StepRows Value) (input : TransitionStepAttemptInput Value)
    (command : StepCommand) (identity : StepCommandIdentity) (proof : StepCommandReplayProof) :
    TransitionStepAttemptResult :=
  match applyStepCommand rows.stepRun command {
      actorId := input.actorId
      commandIdentity := identity
      correlationId := input.correlationId
      eventIds := []
      expectedAggregateVersion := input.expectedAggregateVersion
      occurredAt := rows.stepRun.createdAt
      replayProof := some proof } with
  | .error failure => .error (stepRejection failure)
  | .ok replay => .ok ⟨effectPermission input.request.type true, true, none, replay.stepRun⟩

/-- A new effect, and a retry that is authorized, need an open execution window. -/
def needsExecutionWindow (request : TransitionRequest Value) (retryAuthorized : Bool) : Bool :=
  request.type == .startAttemptEffect || (request.type == .authorizeRetry && retryAuthorized)

def freshContext (environment : TransitionEnvironment)
    (input : TransitionStepAttemptInput Value) (identity : StepCommandIdentity)
    (command : StepCommand) : StepCommandContext where
  actorId := input.actorId
  commandIdentity := identity
  correlationId := input.correlationId
  eventIds := (List.range (eventCountForCommand command)).map environment.eventIds
  expectedAggregateVersion := input.expectedAggregateVersion
  occurredAt := environment.now
  replayProof := none

/-- Settle, apply the command with the durable receipt, and persist it. -/
def settleAndPersist (environment : TransitionEnvironment) (rows : StepRows Value)
    (input : TransitionStepAttemptInput Value) (identity : StepCommandIdentity)
    (attempt : Attempt) (retryAuthorized : Bool) (context : StepCommandContext) :
    TransitionOutcome Value :=
  match settleReservation rows.ledger input rows.stepRun attempt environment.now with
  | .error thrown => .error thrown
  | .ok (.error failure, ledger) => .ok (.error failure, { rows with ledger := ledger })
  | .ok (.ok settlement, ledger) =>
  match toCommand input attempt retryAuthorized settlement.proof with
  | none => .error .stepSettlementReceiptMismatch
  | some durableCommand =>
  match applyStepCommand rows.stepRun durableCommand context with
  | .error _ => .error .stepSettlementReceiptMismatch
  | .ok transition =>
      (persistTransition hashes { rows with ledger := ledger } input identity transition).map
        fun persisted => (.ok ⟨effectPermission input.request.type false, false,
          settlement.status, transition.stepRun⟩, requestWakeUps persisted transition.stepRun)

/-- `executeFreshTransition`: settlement, kernel transition, persistence, in the source's order. -/
def executeFreshTransition (environment : TransitionEnvironment) (rows : StepRows Value)
    (input : TransitionStepAttemptInput Value) (identity : StepCommandIdentity)
    (attempt : Attempt) (retryCapacityAvailable : Bool) : TransitionOutcome Value :=
  match (validateAuthorityIdentity rows.plan input.actorId).or
      (validateFreshTransitionContext rows attempt input) with
  | some failure => .ok (.error failure, rows)
  | none =>
  let now := environment.now
  let retryAuthorized := rows.run.state == .running && retryCapacityAvailable &&
    decide (now < rows.plan.deadline) && decide (now < rows.plan.authority.deadline)
  match (validateExecutionWindow rows now environment.requiredPermission).filter
      fun _ => needsExecutionWindow input.request retryAuthorized with
  | some failure => .ok (.error failure, rows)
  | none =>
  match toCommand input attempt retryAuthorized none with
  | none => .ok (.error attemptIdMismatch, rows)
  | some command =>
  let context := freshContext environment input identity command
  match applyStepCommand rows.stepRun command context with
  | .error failure => .ok (.error (stepRejection failure), rows)
  | .ok _ =>
  match projectParentEffect hashes rows input attempt now with
  | (some failure, projected) => .ok (.error failure, projected)
  | (none, projected) =>
      settleAndPersist hashes environment projected input identity attempt retryAuthorized context

/-- The plan's retry policy has room for one more attempt. -/
def retryCapacityIsAvailable (plan : RunPlan) (stepRun : StepRun) : Bool :=
  let maxAttempts := plan.retryPolicy.maxAttemptsPerStep
  isSafeInteger maxAttempts && decide (1 ≤ maxAttempts) && decide (maxAttempts ≤ 100) &&
    decide ((stepRun.attempts.length : ℤ) < maxAttempts)

/-- `executeTransition`: replay, refusal or fresh transition. -/
def executeTransition (environment : TransitionEnvironment) (rows : StepRows Value)
    (input : TransitionStepAttemptInput Value) (identity : StepCommandIdentity) :
    TransitionOutcome Value :=
  -- A transaction reads the steps of its own workspace only.
  if input.stepRunId != rows.stepRun.stepRunId ||
      input.workspaceId != rows.stepRun.workspaceId then
    .ok (.error (transitionFailure .stepNotFound
      "The step to transition does not exist in this workspace."), rows)
  else
    match targetAttempt rows.stepRun input.attemptId with
    | none => .ok (.error attemptIdMismatch, rows)
    | some attempt =>
    let retryCapacityAvailable := retryCapacityIsAvailable rows.plan rows.stepRun
    match toCommand input attempt retryCapacityAvailable none with
    | none => .ok (.error attemptIdMismatch, rows)
    | some replayCandidate =>
    match rows.findCommand input.commandIdempotencyKey with
    | some proof =>
        let replay := replayCommand rows input replayCandidate identity proof
        match replay with
        | .error _ => .ok (replay, rows)
        | .ok success => .ok (replay, requestWakeUps rows success.stepRun)
    | none => executeFreshTransition hashes environment rows input identity attempt
        retryCapacityAvailable

/-- `makeTransitionStepAttempt`: an input that cannot settle never opens a transaction. -/
def transitionStepAttempt (environment : TransitionEnvironment) (rows : StepRows Value)
    (input : TransitionStepAttemptInput Value) : TransitionOutcome Value :=
  match validateSettlement hashes.value input.request with
  | some failure => .ok (.error failure, rows)
  | none => executeTransition hashes environment rows input
      ⟨hashes.command (hashableCommand input), input.commandIdempotencyKey⟩

end

/-! ## What a transition does to the step -/

/-- The answer is of an accepted command that was no replay. -/
def isFresh : TransitionStepAttemptResult → Bool
  | .ok success => !success.replayed
  | .error _ => false

/-- A committed transition refuses and leaves step and ledger alone, repeats a
journalled command and leaves them alone, or applies one fresh command to the named
attempt; the ledger moves only for a request that settles. -/
inductive TransitionEffect (before after : StepRows Value)
    (input : TransitionStepAttemptInput Value) : TransitionStepAttemptResult → Prop where
  | refused (failure : TransitionStepAttemptFailure) (unchanged : after.stepRun = before.stepRun)
      (ledger : after.ledger = before.ledger) : TransitionEffect before after input (.error failure)
  | replayed (success : TransitionStepAttemptSuccess)
      (unchanged : after.stepRun = before.stepRun) (ledger : after.ledger = before.ledger)
      (flag : success.replayed = true) (permission : success.effectPermission ≠ .granted)
      (answered : success.stepRun = after.stepRun) :
      TransitionEffect before after input (.ok success)
  | applied (success : TransitionStepAttemptSuccess) (command : StepCommand)
      (context : StepCommandContext) (transition : StepTransition)
      (type : command.type = input.request.type)
      (target : command.target = some input.attemptId)
      (accepted : applyStepCommand before.stepRun command context = .ok transition)
      (fresh : transition.replayed = false) (moved : after.stepRun = transition.stepRun)
      (ledger : settlementOf input.request = none → after.ledger = before.ledger)
      (flag : success.replayed = false)
      (permission : success.effectPermission = effectPermission input.request.type false)
      (answered : success.stepRun = after.stepRun) :
      TransitionEffect before after input (.ok success)

/-- The command of a request, where the kernel is given one. -/
theorem toCommand_some {input : TransitionStepAttemptInput Value} {attempt : Attempt}
    {retryAuthorized : Bool} {durableSettlement : Option AttemptSettlementProof}
    {command : StepCommand}
    (built : toCommand input attempt retryAuthorized durableSettlement = some command) :
    command.type = input.request.type ∧ command.target = some input.attemptId := by
  unfold toCommand at built
  cases request : input.request <;> simp only [request] at built
  case recordAttemptNotStarted =>
    split at built
    · cases built
      exact ⟨rfl, rfl⟩
    · cases built
  case cancelAttemptBeforeEffect =>
    split at built
    · cases built
      exact ⟨rfl, rfl⟩
    · cases built
  all_goals
    cases built
    exact ⟨rfl, rfl⟩

/-- Rows that agree on step and ledger have the same effects. -/
theorem TransitionEffect.of_frame {before other after : StepRows Value}
    {input : TransitionStepAttemptInput Value} {result : TransitionStepAttemptResult}
    (effect : TransitionEffect other after input result) (step : other.stepRun = before.stepRun)
    (ledger : other.ledger = before.ledger) : TransitionEffect before after input result := by
  cases effect with
  | refused failure unchanged kept =>
      exact .refused failure (unchanged.trans step) (kept.trans ledger)
  | replayed success unchanged kept flag permission answered =>
      exact .replayed success (unchanged.trans step) (kept.trans ledger) flag permission answered
  | applied success command context transition type target accepted fresh moved kept flag permission
      answered =>
      exact .applied success command context transition type target (step ▸ accepted) fresh moved
        (fun absent => (kept absent).trans ledger) flag permission answered

/-- Settlements are asked only by the commands that settle. -/
theorem settlementOf_eq_none {request : TransitionRequest Value}
    (silent : settles request.type = false) : settlementOf request = none := by
  cases request <;> first | rfl | cases silent

theorem effectPermission_replayed (type : StepCommandType) :
    effectPermission type true ≠ .granted := by
  cases type <;> exact EffectPermission.noConfusion

/-- A fresh command grants the effect exactly when it starts it. -/
theorem effectPermission_granted_iff {type : StepCommandType} :
    effectPermission type false = .granted ↔ type = .startAttemptEffect := by
  cases type <;> simp [effectPermission]

section

variable (hashes : CanonicalHashes Value)

/-- The projection touches the rows of the generation only. -/
theorem projectParentEffect_frame (rows : StepRows Value)
    (input : TransitionStepAttemptInput Value) (attempt : Attempt) (now : Instant) :
    (projectParentEffect hashes rows input attempt now).2.stepRun = rows.stepRun ∧
      (projectParentEffect hashes rows input attempt now).2.ledger = rows.ledger := by
  unfold projectParentEffect
  split
  · exact ⟨rfl, rfl⟩
  · dsimp only
    split <;> exact ⟨rfl, rfl⟩

private theorem receipt_failure {status : SettlementStatus} {ledger moved : CostLedger}
    {proof : Except PersistenceError AttemptSettlementProof}
    {failure : TransitionStepAttemptFailure} :
    receipt status ledger proof ≠ .ok (.error failure, moved) := by
  intro refused
  obtain ⟨_, _, absurd⟩ := map_eq_ok.mp refused
  cases absurd

/-- A settlement that the ledger refuses, or that no request asks for, moves nothing. -/
theorem settleReservation_frame {ledger moved : CostLedger}
    {input : TransitionStepAttemptInput Value} {stepRun : StepRun} {attempt : Attempt}
    {now : Instant} {outcome : SettlementOutcome}
    (settled : settleReservation ledger input stepRun attempt now = .ok (outcome, moved)) :
    (settlementOf input.request = none → moved = ledger) ∧
      ∀ failure, outcome = .error failure → moved = ledger := by
  unfold settleReservation at settled
  split at settled
  · cases settled
    exact ⟨fun _ => rfl, fun _ _ => rfl⟩
  · rename_i asked
    refine ⟨fun absent => absurd (asked.symm.trans absent) (Option.some_ne_none _), ?_⟩
    rintro failure rfl
    obtain ⟨⟨result, next⟩, _, answered⟩ := bind_eq_ok.mp settled
    cases result with
    | conflict =>
        cases answered
        rfl
    | existing reservation => exact absurd answered receipt_failure
    | released reservation => exact absurd answered receipt_failure
  · rename_i usage asked
    refine ⟨fun absent => absurd (asked.symm.trans absent) (Option.some_ne_none _), ?_⟩
    rintro failure rfl
    obtain ⟨⟨result, next⟩, _, answered⟩ := bind_eq_ok.mp settled
    cases result with
    | amountExceeded =>
        cases answered
        rfl
    | conflict =>
        cases answered
        rfl
    | existing reservation recorded => exact absurd answered receipt_failure
    | settled reservation recorded => exact absurd answered receipt_failure

private theorem insertArtifact_ledger [DecidableEq Value] {evidence : ContentEvidence Value}
    {rows stored : StepRows Value} {artifact : Artifact} {value : Value}
    (inserted : rows.insertArtifact evidence artifact value = .ok stored) :
    stored.ledger = rows.ledger := by
  unfold StepRows.insertArtifact at inserted
  split at inserted
  · cases inserted
  split at inserted
  · cases inserted
    rfl
  · split at inserted
    · cases inserted
      rfl
    · cases inserted
  · cases inserted

theorem persistOutput_ledger [DecidableEq Value] {rows stored : StepRows Value}
    {request : TransitionRequest Value}
    (persisted : persistOutput hashes rows request = .ok stored) : stored.ledger = rows.ledger := by
  unfold persistOutput at persisted
  split at persisted
  · cases persisted
    rfl
  · exact insertArtifact_ledger persisted

private theorem persistTransition_frame [DecidableEq Value] {rows persisted : StepRows Value}
    {input : TransitionStepAttemptInput Value} {identity : StepCommandIdentity}
    {transition : StepTransition}
    (done : persistTransition hashes rows input identity transition = .ok persisted) :
    persisted.stepRun = transition.stepRun ∧ persisted.ledger = rows.ledger := by
  unfold persistTransition at done
  obtain ⟨stored, storedEq, rest⟩ := bind_eq_ok.mp done
  obtain ⟨_, _, rfl⟩ := map_eq_ok.mp rest
  have kept : stored.ledger = rows.ledger := persistOutput_ledger hashes storedEq
  exact ⟨rfl, kept⟩

private theorem replayCommand_effect {rows : StepRows Value}
    {input : TransitionStepAttemptInput Value}
    {command : StepCommand} {identity : StepCommandIdentity} {proof : StepCommandReplayProof}
    {success : TransitionStepAttemptSuccess}
    (replay : replayCommand rows input command identity proof = .ok success) :
    success.replayed = true ∧ success.effectPermission ≠ .granted ∧
      success.stepRun = rows.stepRun := by
  unfold replayCommand at replay
  split at replay
  · cases replay
  · rename_i transition accepted
    cases replay
    refine ⟨rfl, effectPermission_replayed _, ?_⟩
    rcases applyStepCommand_ok accepted with ⟨rfl, _⟩ | ⟨absent, _⟩
    · rfl
    · cases absent

private theorem settleAndPersist_effect [DecidableEq Value] {environment : TransitionEnvironment}
    {rows after : StepRows Value} {input : TransitionStepAttemptInput Value}
    {identity : StepCommandIdentity} {attempt : Attempt} {retryAuthorized : Bool}
    {command : StepCommand} {result : TransitionStepAttemptResult}
    (committed : settleAndPersist hashes environment rows input identity attempt retryAuthorized
      (freshContext environment input identity command) = .ok (result, after)) :
    TransitionEffect rows after input result := by
  unfold settleAndPersist at committed
  split at committed
  · cases committed
  · rename_i failure ledger settled
    cases committed
    exact .refused _ rfl ((settleReservation_frame settled).2 failure rfl)
  rename_i settlement ledger settled
  split at committed
  · cases committed
  rename_i durableCommand built
  split at committed
  · cases committed
  rename_i transition accepted
  obtain ⟨persisted, done, rest⟩ := map_eq_ok.mp committed
  cases rest
  obtain ⟨type, target⟩ := toCommand_some built
  obtain ⟨moved, kept⟩ := persistTransition_frame hashes done
  have fresh : transition.replayed = false := by
    rcases applyStepCommand_ok accepted with ⟨_, _, given, _⟩ | ⟨_, _, planned, _, _, rfl⟩
    · cases given
    · rfl
  exact .applied _ durableCommand _ transition type target accepted fresh moved
    (fun absent => kept.trans ((settleReservation_frame settled).1 absent)) rfl rfl moved.symm

private theorem executeFreshTransition_effect [DecidableEq Value]
    {environment : TransitionEnvironment}
    {rows after : StepRows Value} {input : TransitionStepAttemptInput Value}
    {identity : StepCommandIdentity} {attempt : Attempt} {retryCapacityAvailable : Bool}
    {result : TransitionStepAttemptResult}
    (committed : executeFreshTransition hashes environment rows input identity attempt
      retryCapacityAvailable = .ok (result, after)) :
    TransitionEffect rows after input result := by
  unfold executeFreshTransition at committed
  split at committed
  · cases committed
    exact .refused _ rfl rfl
  dsimp only at committed
  split at committed
  · cases committed
    exact .refused _ rfl rfl
  split at committed
  · cases committed
    exact .refused _ rfl rfl
  split at committed
  · cases committed
    exact .refused _ rfl rfl
  obtain ⟨sameStep, sameLedger⟩ :=
    projectParentEffect_frame hashes rows input attempt environment.now
  split at committed
  · rename_i failure projected projectedEq
    cases committed
    rw [projectedEq] at sameStep sameLedger
    exact .refused _ sameStep sameLedger
  · rename_i projected projectedEq
    rw [projectedEq] at sameStep sameLedger
    exact (settleAndPersist_effect hashes committed).of_frame sameStep sameLedger

/-- **Inversion of the transition use case.** -/
theorem transitionStepAttempt_effect [DecidableEq Value] {environment : TransitionEnvironment}
    {rows after : StepRows Value} {input : TransitionStepAttemptInput Value}
    {result : TransitionStepAttemptResult}
    (committed : transitionStepAttempt hashes environment rows input = .ok (result, after)) :
    TransitionEffect rows after input result := by
  unfold transitionStepAttempt executeTransition at committed
  split at committed
  · cases committed
    exact .refused _ rfl rfl
  split at committed
  · cases committed
    exact .refused _ rfl rfl
  split at committed
  · cases committed
    exact .refused _ rfl rfl
  dsimp only at committed
  split at committed
  · cases committed
    exact .refused _ rfl rfl
  split at committed
  · split at committed
    · rename_i refusal
      cases committed
      rw [refusal]
      exact .refused _ rfl rfl
    · rename_i success accepted
      obtain ⟨flag, permission, answered⟩ := replayCommand_effect accepted
      cases committed
      rw [accepted]
      exact .replayed success rfl rfl flag permission answered
  · exact executeFreshTransition_effect hashes committed

end

/-! ## A sample transition -/

/-- Hashes that read the identity of a value from its text. -/
def sampleHashes : CanonicalHashes String where
  value := ⟨id, String.length⟩
  command command := "sha256:" ++ command.attemptId ++ command.type.text
  routeSnapshot route planHash runId stepRunId := route.routeKey ++ planHash ++ runId ++ stepRunId
  outputIdentity attempt stepRun contract contentHash :=
    "sha256:" ++ attempt.attemptId ++ stepRun.stepRunId ++ contract.schemaId ++ contentHash

def sampleTransitionInput (idempotencyKey : IdempotencyKey) (expectedAggregateVersion : ℕ)
    (request : TransitionRequest String) : TransitionStepAttemptInput String where
  actorId := "actor-1"
  attemptId := "attempt-1"
  commandIdempotencyKey := idempotencyKey
  correlationId := "correlation-1"
  expectedAggregateVersion := expectedAggregateVersion
  stepRunId := "step-1"
  workspaceId := "workspace-1"
  request := request

def sampleTransitionEnvironment : TransitionEnvironment where
  now := 2
  eventIds index := "transition-event-" ++ index.repr
  requiredPermission := "steps:execute"

/-- The result and the rows of a transition on sample rows. -/
def sampleCommit (rows : StepRows String) (input : TransitionStepAttemptInput String) :
    TransitionStepAttemptResult × StepRows String :=
  match transitionStepAttempt sampleHashes sampleTransitionEnvironment rows input with
  | .ok committed => committed
  | .error _ => (.error attemptIdMismatch, rows)

def sampleStartInput : TransitionStepAttemptInput String :=
  sampleTransitionInput "start-1" 2 .startAttemptEffect

def sampleStarted : TransitionStepAttemptResult × StepRows String :=
  sampleCommit sampleStepRows sampleStartInput

theorem sampleStarted_committed :
    transitionStepAttempt sampleHashes sampleTransitionEnvironment sampleStepRows
      sampleStartInput = .ok sampleStarted := rfl

end Kurobara.Application
