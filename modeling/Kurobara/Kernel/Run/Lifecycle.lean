import Kurobara.Kernel.Run.Manifest

/-! # Run lifecycle

The Run aggregate and `applyRunCommand`. As for a step, a command is first matched
against a durable replay proof; a fresh one is checked against the aggregate
version, planned by the function of its type and only then given event
identifiers.
-/

namespace Kurobara.Kernel

/-! ## Runs, commands and events -/

/-- Why a Run was asked to stop. -/
inductive StopReason where
  | requested
  | deadline
  | budget
  | authorityRevoked
  | ancestorStopped
  deriving DecidableEq, Repr

/-- A Run. -/
structure Run where
  runId : RunId
  runPlanId : RunPlanId
  workspaceId : WorkspaceId
  state : RunState
  aggregateVersion : ℕ
  eventSequence : ℕ
  resultCompleteness : ResultCompleteness
  createdAt : Instant
  idempotencyKey : IdempotencyKey
  intentionHash : ContentHash
  pendingStopReason : Option StopReason
  resultManifest : Option ResultManifestRef
  deriving DecidableEq, Repr

/-- How a Run of unknown outcome was found to have ended. -/
inductive AmbiguityRunOutcome where
  | completed
  | failed
  | cancelled
  deriving DecidableEq, Repr

def AmbiguityRunOutcome.state : AmbiguityRunOutcome → RunState
  | .completed => .completed
  | .failed => .failed
  | .cancelled => .cancelled

/-- The commands of a Run. -/
inductive RunCommand where
  | claimRun
  | openInputRequest (hasIndependentProgress : Bool)
  | consumeSignal (reopensGlobalProgress : Bool)
  | requestStop (reason : StopReason)
  | settleCancellation
  | completeRun (manifest : ResultManifest)
  | failRun (manifest : ResultManifest)
  | markEffectAmbiguous (operationKey : String)
  | resolveAmbiguity (outcome : AmbiguityRunOutcome) (proofId : String)
      (resultCompleteness : ResultCompleteness) (manifest : Option ResultManifest)
  deriving DecidableEq, Repr

inductive RunCommandType where
  | claimRun
  | openInputRequest
  | consumeSignal
  | requestStop
  | settleCancellation
  | completeRun
  | failRun
  | markEffectAmbiguous
  | resolveAmbiguity
  deriving DecidableEq, Repr

def RunCommandType.text : RunCommandType → String
  | .claimRun => "ClaimRun"
  | .openInputRequest => "OpenInputRequest"
  | .consumeSignal => "ConsumeSignal"
  | .requestStop => "RequestStop"
  | .settleCancellation => "SettleCancellation"
  | .completeRun => "CompleteRun"
  | .failRun => "FailRun"
  | .markEffectAmbiguous => "MarkEffectAmbiguous"
  | .resolveAmbiguity => "ResolveAmbiguity"

def RunCommand.type : RunCommand → RunCommandType
  | .claimRun => .claimRun
  | .openInputRequest _ => .openInputRequest
  | .consumeSignal _ => .consumeSignal
  | .requestStop _ => .requestStop
  | .settleCancellation => .settleCancellation
  | .completeRun _ => .completeRun
  | .failRun _ => .failRun
  | .markEffectAmbiguous _ => .markEffectAmbiguous
  | .resolveAmbiguity .. => .resolveAmbiguity

@[ext] structure RunCommandIdentity where
  idempotencyKey : IdempotencyKey
  commandHash : ContentHash
  deriving DecidableEq, Repr

/-- Accepted-command evidence that the command journal keeps. -/
structure RunCommandReplayProof where
  runId : RunId
  workspaceId : WorkspaceId
  identity : RunCommandIdentity
  commandType : RunCommandType
  deriving DecidableEq, Repr

/-- What a command is delivered with. -/
structure RunCommandContext where
  commandIdentity : RunCommandIdentity
  expectedAggregateVersion : ℕ
  eventIds : List EventId
  occurredAt : Instant
  actorId : ActorId
  correlationId : CorrelationId
  replayProof : Option RunCommandReplayProof
  deriving DecidableEq, Repr

/-- What an event reports. -/
inductive RunLifecycleEventDetail where
  | runStarted
  | inputRequested
  | runWaiting
  | inputRequestConsumed
  | runResumed
  | runStopRequested (reason : StopReason)
  | runCancelling (reason : StopReason)
  | runCancelled (reason : StopReason)
  | runResultManifestRecorded (conclusion : RunConclusion) (manifestHash : ContentHash)
      (resultCompleteness : ResultCompleteness) (resultManifestId : ResultManifestId)
  | runCompleted (resultCompleteness : ResultCompleteness)
  | runFailed (resultCompleteness : ResultCompleteness)
  | externalEffectBecameAmbiguous (operationKey : String)
  | runAmbiguous (operationKey : String)
  | ambiguityResolved (outcome : AmbiguityRunOutcome) (proofId : String)
  deriving DecidableEq, Repr

/-- An event of a Run. -/
structure RunLifecycleEvent where
  eventId : EventId
  runId : RunId
  workspaceId : WorkspaceId
  sequence : ℕ
  occurredAt : Instant
  actorId : ActorId
  correlationId : CorrelationId
  detail : RunLifecycleEventDetail
  deriving DecidableEq, Repr

/-- The Run after a command, with the events of the command. -/
structure RunTransition where
  run : Run
  events : List RunLifecycleEvent
  replayed : Bool
  deriving DecidableEq, Repr

inductive RunTransitionFailureCode where
  | aggregateVersionConflict
  | invalidTransition
  | eventIdCountMismatch
  | completionPreconditionFailed
  | invalidResultCompleteness
  | reconciliationProofRequired
  | operationKeyRequired
  | replayProofMismatch
  | idempotencyKeyReused
  deriving DecidableEq, Repr

def RunTransitionFailureCode.text : RunTransitionFailureCode → String
  | .aggregateVersionConflict => "aggregate-version-conflict"
  | .invalidTransition => "invalid-transition"
  | .eventIdCountMismatch => "event-id-count-mismatch"
  | .completionPreconditionFailed => "completion-precondition-failed"
  | .invalidResultCompleteness => "invalid-result-completeness"
  | .reconciliationProofRequired => "reconciliation-proof-required"
  | .operationKeyRequired => "operation-key-required"
  | .replayProofMismatch => "replay-proof-mismatch"
  | .idempotencyKeyReused => "idempotency-key-reused"

structure RunTransitionFailure where
  code : RunTransitionFailureCode
  message : String
  state : RunState
  command : RunCommandType
  deriving DecidableEq, Repr

/-- What a command changes of the Run. -/
structure RunTransitionPlan where
  state : RunState
  resultCompleteness : ResultCompleteness
  pendingStopReason : Option StopReason
  resultManifest : Option ResultManifestRef
  eventDetails : List RunLifecycleEventDetail
  deriving DecidableEq, Repr

/-! ## Planning a command -/

def runFailure (run : Run) (command : RunCommandType) (code : RunTransitionFailureCode)
    (message : String) : Except RunTransitionFailure RunTransitionPlan :=
  .error ⟨code, message, run.state, command⟩

def invalidRunTransition (run : Run) (command : RunCommandType) :
    Except RunTransitionFailure RunTransitionPlan :=
  runFailure run command .invalidTransition
    s!"{command.text} is not allowed from run state {run.state.text}."

/-- The manifest is of this Run and of the conclusion. -/
def manifestIdentifiesRun (run : Run) (manifest : ResultManifest)
    (conclusion : RunConclusion) : Bool :=
  manifest.workspaceId == run.workspaceId && manifest.runId == run.runId &&
    manifest.runPlanId == run.runPlanId &&
    manifest.sourceRunAggregateVersion == run.aggregateVersion &&
    manifest.conclusion == conclusion

/-- A complete manifest whose accepted output is one of its succeeded entries. -/
def acceptedOutputIsProved (manifest : ResultManifest) (output : ValidatedOutputRef) : Bool :=
  manifest.resultCompleteness == .complete && nonBlank output.validatorVersion &&
    output.contract == manifest.outputContract &&
    manifest.entries.all (fun entry => entry.state == .succeeded) &&
    manifest.entries.any fun entry =>
      match entry.result with
      | .accepted result => result.artifact == output.artifact
      | .missing _ => false

def runResultManifestRecorded (manifest : ResultManifest) (conclusion : RunConclusion) :
    RunLifecycleEventDetail :=
  .runResultManifestRecorded conclusion manifest.manifestHash manifest.resultCompleteness
    manifest.resultManifestId

/-- A completion needs a manifest with an accepted output. -/
def validateCompletion (run : Run) (command : RunCommandType) (manifest : ResultManifest) :
    Except RunTransitionFailure RunTransitionPlan :=
  if !manifestIdentifiesRun run manifest .completed then
    runFailure run command .completionPreconditionFailed
      "A run cannot complete without an identity-matching durable result manifest."
  else
    match manifest.output with
    | .accepted output =>
        if acceptedOutputIsProved manifest output then
          .ok {
            state := .completed
            resultCompleteness := manifest.resultCompleteness
            pendingStopReason := none
            resultManifest := some (resultManifestRef manifest)
            eventDetails := [runResultManifestRecorded manifest .completed,
              .runCompleted manifest.resultCompleteness] }
        else
          runFailure run command .invalidResultCompleteness
            ("Completion requires a complete accepted output proof and succeeded " ++
              "compiled-node coverage.")
    | .missing _ =>
        runFailure run command .invalidResultCompleteness
          ("Completion requires a complete accepted output proof and succeeded " ++
            "compiled-node coverage.")

def validateFailure (run : Run) (command : RunCommandType) (manifest : ResultManifest) :
    Except RunTransitionFailure RunTransitionPlan :=
  if !manifestIdentifiesRun run manifest .failed ||
      manifest.entries.all (fun entry => entry.state != .failed) then
    runFailure run command .completionPreconditionFailed
      "A run cannot fail without a complete identity-matching failure manifest."
  else
    .ok {
      state := .failed
      resultCompleteness := manifest.resultCompleteness
      pendingStopReason := none
      resultManifest := some (resultManifestRef manifest)
      eventDetails := [runResultManifestRecorded manifest .failed,
        .runFailed manifest.resultCompleteness] }

/-- The manifest part of an ambiguity resolution: the terminal plan of the
conclusion, once its manifest is given and agrees on completeness. -/
def resolveWithManifest (run : Run) (resultCompleteness : ResultCompleteness)
    (missing : String) (manifest : Option ResultManifest)
    (validate : ResultManifest → Except RunTransitionFailure RunTransitionPlan) :
    Except RunTransitionFailure RunTransitionPlan :=
  match manifest with
  | none => runFailure run .resolveAmbiguity .completionPreconditionFailed missing
  | some manifest =>
      match validate manifest with
      | .error failure => .error failure
      | .ok validated =>
          if resultCompleteness != manifest.resultCompleteness then
            runFailure run .resolveAmbiguity .invalidResultCompleteness
              "The reconciliation result and manifest completeness differ."
          else .ok validated

/-- The resolution event goes between the manifest record and the terminal event. -/
def ambiguityResolution (outcome : AmbiguityRunOutcome) (proofId : String)
    (resultCompleteness : ResultCompleteness) (validated : RunTransitionPlan) :
    RunTransitionPlan where
  state := outcome.state
  resultCompleteness := resultCompleteness
  pendingStopReason := none
  resultManifest := validated.resultManifest
  eventDetails := validated.eventDetails.take 1 ++ [.ambiguityResolved outcome proofId] ++
    validated.eventDetails.drop 1

def resolveAmbiguity (run : Run) (outcome : AmbiguityRunOutcome) (proofId : String)
    (resultCompleteness : ResultCompleteness) (manifest : Option ResultManifest) :
    Except RunTransitionFailure RunTransitionPlan :=
  if !nonBlank proofId then
    runFailure run .resolveAmbiguity .reconciliationProofRequired
      "Ambiguity resolution requires a non-empty reconciliation proof identifier."
  else
    match outcome with
    | .completed =>
        (resolveWithManifest run resultCompleteness
          "Reconciled completion requires a durable result manifest." manifest
          (validateCompletion run .resolveAmbiguity)).map
            (ambiguityResolution outcome proofId resultCompleteness)
    | .failed =>
        (resolveWithManifest run resultCompleteness
          "Reconciled failure requires a durable result manifest." manifest
          (validateFailure run .resolveAmbiguity)).map
            (ambiguityResolution outcome proofId resultCompleteness)
    | .cancelled => .ok {
        state := .cancelled
        resultCompleteness := resultCompleteness
        pendingStopReason := none
        resultManifest := none
        eventDetails := [.ambiguityResolved outcome proofId,
          .runCancelled (run.pendingStopReason.getD .requested)] }

/-- The `RequestStop` branch: a queued Run is cancelled at once. -/
def requestStop (run : Run) (reason : StopReason) :
    Except RunTransitionFailure RunTransitionPlan :=
  match run.state with
  | .queued => .ok ⟨.cancelled, run.resultCompleteness, none, none,
      [.runStopRequested reason, .runCancelled reason]⟩
  | .running | .waiting => .ok ⟨.cancelling, run.resultCompleteness, some reason, none,
      [.runStopRequested reason, .runCancelling reason]⟩
  | .ambiguous => .ok ⟨.ambiguous, run.resultCompleteness, some reason, none,
      [.runStopRequested reason]⟩
  | _ => invalidRunTransition run .requestStop

def markEffectAmbiguous (run : Run) (operationKey : String) :
    Except RunTransitionFailure RunTransitionPlan :=
  if run.state != .running && run.state != .cancelling then
    invalidRunTransition run .markEffectAmbiguous
  else if !nonBlank operationKey then
    runFailure run .markEffectAmbiguous .operationKeyRequired
      "An ambiguous effect requires its durable operation key."
  else
    .ok ⟨.ambiguous, run.resultCompleteness, run.pendingStopReason, none,
      [.externalEffectBecameAmbiguous operationKey, .runAmbiguous operationKey]⟩

/-- Plan a command that is admitted from one state only. -/
def fromRunState (run : Run) (command : RunCommandType) (state : RunState)
    (planned : Except RunTransitionFailure RunTransitionPlan) :
    Except RunTransitionFailure RunTransitionPlan :=
  if run.state == state then planned else invalidRunTransition run command

def claimRun (run : Run) : Except RunTransitionFailure RunTransitionPlan :=
  fromRunState run .claimRun .queued
    (.ok ⟨.running, run.resultCompleteness, none, none, [.runStarted]⟩)

def openInputRequest (run : Run) (hasIndependentProgress : Bool) :
    Except RunTransitionFailure RunTransitionPlan :=
  fromRunState run .openInputRequest .running
    (.ok ⟨if hasIndependentProgress then .running else .waiting, run.resultCompleteness, none,
      none, if hasIndependentProgress then [.inputRequested] else [.inputRequested, .runWaiting]⟩)

def consumeSignal (run : Run) (reopensGlobalProgress : Bool) :
    Except RunTransitionFailure RunTransitionPlan :=
  fromRunState run .consumeSignal .waiting
    (.ok ⟨if reopensGlobalProgress then .running else .waiting, run.resultCompleteness, none,
      none, if reopensGlobalProgress then [.inputRequestConsumed, .runResumed]
        else [.inputRequestConsumed]⟩)

def settleCancellation (run : Run) : Except RunTransitionFailure RunTransitionPlan :=
  fromRunState run .settleCancellation .cancelling
    (.ok ⟨.cancelled, run.resultCompleteness, none, none,
      [.runCancelled (run.pendingStopReason.getD .requested)]⟩)

def completeRun (run : Run) (manifest : ResultManifest) :
    Except RunTransitionFailure RunTransitionPlan :=
  fromRunState run .completeRun .running (validateCompletion run .completeRun manifest)

def failRun (run : Run) (manifest : ResultManifest) :
    Except RunTransitionFailure RunTransitionPlan :=
  fromRunState run .failRun .running (validateFailure run .failRun manifest)

def reconcileRun (run : Run) (outcome : AmbiguityRunOutcome) (proofId : String)
    (resultCompleteness : ResultCompleteness) (manifest : Option ResultManifest) :
    Except RunTransitionFailure RunTransitionPlan :=
  fromRunState run .resolveAmbiguity .ambiguous
    (resolveAmbiguity run outcome proofId resultCompleteness manifest)

/-- `planTransition` of a Run: each command has its own branch. -/
def planRunTransition (run : Run) :
    RunCommand → Except RunTransitionFailure RunTransitionPlan
  | .claimRun => claimRun run
  | .openInputRequest hasIndependentProgress => openInputRequest run hasIndependentProgress
  | .consumeSignal reopensGlobalProgress => consumeSignal run reopensGlobalProgress
  | .requestStop reason => requestStop run reason
  | .settleCancellation => settleCancellation run
  | .completeRun manifest => completeRun run manifest
  | .failRun manifest => failRun run manifest
  | .markEffectAmbiguous operationKey => markEffectAmbiguous run operationKey
  | .resolveAmbiguity outcome proofId resultCompleteness manifest =>
      reconcileRun run outcome proofId resultCompleteness manifest

/-! ## Applying a command -/

/-- An event of a command, numbered behind those before it. -/
def toRunEvent (run : Run) (detail : RunLifecycleEventDetail) (context : RunCommandContext)
    (index : ℕ) : RunLifecycleEvent where
  eventId := context.eventIds.getD index ""
  runId := run.runId
  workspaceId := run.workspaceId
  sequence := run.eventSequence + index + 1
  occurredAt := context.occurredAt
  actorId := context.actorId
  correlationId := context.correlationId
  detail := detail

/-- The Run and events of a fresh command, once it is planned. -/
def freshRunTransition (run : Run) (planned : RunTransitionPlan) (context : RunCommandContext) :
    RunTransition where
  run := { run with
    aggregateVersion := run.aggregateVersion + 1
    eventSequence := run.eventSequence + planned.eventDetails.length
    pendingStopReason := planned.pendingStopReason
    resultManifest := planned.resultManifest
    resultCompleteness := planned.resultCompleteness
    state := planned.state }
  events := planned.eventDetails.mapIdx fun index detail => toRunEvent run detail context index
  replayed := false

/-- `applyRunCommand`: a replay, a refusal, or the planned transition with its events. -/
def applyRunCommand (run : Run) (command : RunCommand) (context : RunCommandContext) :
    Except RunTransitionFailure RunTransition :=
  match context.replayProof with
  | some proof =>
      if proof.runId != run.runId || proof.workspaceId != run.workspaceId ||
          proof.identity.idempotencyKey != context.commandIdentity.idempotencyKey then
        .error ⟨.replayProofMismatch, "The durable replay proof does not identify this run, " ++
          "workspace, and command idempotency key.", run.state, command.type⟩
      else if proof.commandType != command.type ||
          proof.identity.commandHash != context.commandIdentity.commandHash then
        .error ⟨.idempotencyKeyReused, "The command idempotency key was already accepted for a " ++
          "different command.", run.state, command.type⟩
      else .ok ⟨run, [], true⟩
  | none =>
      if context.expectedAggregateVersion != run.aggregateVersion then
        .error ⟨.aggregateVersionConflict, "Expected aggregate version " ++
          s!"{context.expectedAggregateVersion}, actual version is {run.aggregateVersion}.",
          run.state, command.type⟩
      else
        match planRunTransition run command with
        | .error failure => .error failure
        | .ok planned =>
            if context.eventIds.length != planned.eventDetails.length then
              .error ⟨.eventIdCountMismatch, "Command requires " ++
                s!"{planned.eventDetails.length} event IDs; received {context.eventIds.length}.",
                run.state, command.type⟩
            else .ok (freshRunTransition run planned context)

/-- An accepted command is an exact replay, or a fresh command that its plan and its
event identifiers admit. -/
theorem applyRunCommand_ok {run : Run} {command : RunCommand} {context : RunCommandContext}
    {transition : RunTransition} (accepted : applyRunCommand run command context = .ok transition) :
    (transition = ⟨run, [], true⟩ ∧ ∃ proof, context.replayProof = some proof ∧
        proof.commandType = command.type ∧
          proof.identity = context.commandIdentity) ∨
      (context.replayProof = none ∧ context.expectedAggregateVersion = run.aggregateVersion ∧
        ∃ planned, planRunTransition run command = .ok planned ∧
          context.eventIds.length = planned.eventDetails.length ∧
            transition = freshRunTransition run planned context) := by
  unfold applyRunCommand at accepted
  split at accepted
  · rename_i proof given
    split at accepted
    · cases accepted
    rename_i identified
    split at accepted
    · cases accepted
    rename_i same
    cases accepted
    simp only [Bool.or_eq_true, not_or, bne_iff_ne, ne_eq, not_not] at identified same
    exact .inl ⟨rfl, proof, given, same.1, RunCommandIdentity.ext identified.2 same.2⟩
  · rename_i fresh
    split at accepted
    · cases accepted
    rename_i version
    split at accepted
    · cases accepted
    rename_i planned plannedEq
    split at accepted
    · cases accepted
    rename_i count
    cases accepted
    exact .inr ⟨fresh, by simpa using version, planned, plannedEq, by simpa using count, rfl⟩

/-- A Run keeps its identity and its plan. -/
theorem applyRunCommand_identity {run : Run} {command : RunCommand} {context : RunCommandContext}
    {transition : RunTransition} (accepted : applyRunCommand run command context = .ok transition) :
    transition.run.workspaceId = run.workspaceId ∧ transition.run.runId = run.runId ∧
      transition.run.runPlanId = run.runPlanId := by
  rcases applyRunCommand_ok accepted with ⟨rfl, _⟩ | ⟨_, _, planned, _, _, rfl⟩ <;>
    exact ⟨rfl, rfl, rfl⟩

/-! ## A sample Run -/

def sampleRun : Run where
  runId := "run-1"
  runPlanId := "run-plan-1"
  workspaceId := "workspace-1"
  state := .running
  aggregateVersion := 2
  eventSequence := 2
  resultCompleteness := .none
  createdAt := 0
  idempotencyKey := "run-key-1"
  intentionHash := sampleHash
  pendingStopReason := none
  resultManifest := none

end Kurobara.Kernel
