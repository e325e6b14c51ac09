import Kurobara.Kernel.Generation.Snapshot
import Kurobara.Foundation.TransitionSystem

/-! # Generation operations

The operations of the generation aggregate. Each validates the snapshot it is
given, checks its own admission condition, builds the next snapshot by hand and
validates that (`guardedTransition`), so what an accepted operation guarantees
is one lemma, `guardedTransition_ok`.
-/

namespace Kurobara.Kernel

/-- Validate, check admission, build the next snapshot, validate it. -/
def guardedTransition (creation : DatasetGenerationCreation) (plan : DatasetGenerationPlan)
    (admitted : Bool) (message : String) (next : DatasetGenerationCreation) :
    Except DatasetGenerationCreationFailure DatasetGenerationCreation :=
  match validateDatasetGenerationSnapshot creation plan with
  | .error failure => .error failure
  | .ok _ =>
      if !admitted then .error ⟨.generationInvalid, message⟩
      else validateDatasetGenerationSnapshot next plan

/-- An accepted transition was admitted and leaves a valid snapshot. -/
theorem guardedTransition_ok {creation next result : DatasetGenerationCreation}
    {plan : DatasetGenerationPlan} {admitted : Bool} {message : String} :
    guardedTransition creation plan admitted message next = .ok result ↔
      result = next ∧ SnapshotValid creation plan ∧ admitted = true ∧ SnapshotValid next plan := by
  unfold guardedTransition
  constructor
  · intro accepted
    split at accepted
    · cases accepted
    · rename_i validated validatedEq
      split at accepted
      · cases accepted
      · rename_i notRefused
        obtain ⟨resultEq, nextValid⟩ := validateDatasetGenerationSnapshot_ok.mp accepted
        exact ⟨resultEq, (validateDatasetGenerationSnapshot_ok.mp validatedEq).2,
          by simpa using notRefused, nextValid⟩
  · rintro ⟨rfl, valid, rfl, nextValid⟩
    rw [valid.validate]
    simp [nextValid.validate]

/-! ## Page effects -/

structure AuthorizeDatasetGenerationPageEffectInput where
  now : Instant
  pageSequence : ℤ
  reservedAmount : Amount
  unit : String
  deriving DecidableEq, Repr

/-- The immutable authority, caps, deadline and budget admit the next page. -/
def pageEffectIsAdmitted (creation : DatasetGenerationCreation) (plan : DatasetGenerationPlan)
    (input : AuthorizeDatasetGenerationPageEffectInput) : Bool :=
  let generation := creation.generation
  (generation.state == .planned || generation.state == .running) &&
    creation.materialization.state == .building && isSafeInteger input.pageSequence &&
    input.pageSequence == generation.counters.pages + 1 &&
    decide (input.pageSequence = 1) == (generation.state == .planned) &&
    instantIsValid input.now && decide (input.now < plan.deadline) &&
    decide (input.now < plan.authority.deadline) && input.unit == generation.cost.unit &&
    isAmount input.reservedAmount &&
    !amountExceeds (generation.cost.spent + input.reservedAmount) plan.hardExecutionCap &&
    !amountExceeds input.reservedAmount
      (plan.budget.limit - generation.cost.reserved - generation.cost.spent) &&
    decide (generation.counters.pages < plan.limits .maxPages) &&
    decide (generation.counters.calls < plan.limits .maxCalls) &&
    decide (generation.counters.accepted < datasetGenerationAcceptedRecordLimit plan) &&
    decide (generation.counters.returned < plan.limits .maxResults) && limitsAreValid plan.limits

/-- The generation with one more effect reserved. -/
def pageEffectAuthorized (creation : DatasetGenerationCreation)
    (input : AuthorizeDatasetGenerationPageEffectInput) : DatasetGenerationCreation where
  generation := { creation.generation with
    aggregateVersion := creation.generation.aggregateVersion + 1
    cost := { creation.generation.cost with
      reserved := creation.generation.cost.reserved + input.reservedAmount }
    counters := { creation.generation.counters with
      calls := creation.generation.counters.calls + 1
      pages := creation.generation.counters.pages + 1 }
    state := .running }
  materialization := creation.materialization

/-- `authorizeDatasetGenerationPageEffect`: reserves the page's effect, refused where it would pass
a cap. -/
def authorizeDatasetGenerationPageEffect (creation : DatasetGenerationCreation)
    (plan : DatasetGenerationPlan) (input : AuthorizeDatasetGenerationPageEffectInput) :
    Except DatasetGenerationCreationFailure DatasetGenerationCreation :=
  guardedTransition creation plan (pageEffectIsAdmitted creation plan input)
    ("The generation cannot authorize this next page within its immutable authority, caps, " ++
      "deadline, and budget.")
    (pageEffectAuthorized creation input)

/-! ## Page checkpoints -/

structure CheckpointDatasetGenerationPageProgressInput where
  accepted : ℤ
  costAmount : Amount
  costUnit : String
  duplicates : ℤ
  pageSequence : ℤ
  providerKey : String
  rejected : ℤ
  returned : ℤ
  deriving DecidableEq, Repr

/-- The checkpoint is of the page in flight, and its cost is within what was reserved. -/
def pageCheckpointIsAdmitted (creation : DatasetGenerationCreation)
    (input : CheckpointDatasetGenerationPageProgressInput) : Bool :=
  let generation := creation.generation
  (generation.state == .running || generation.state == .stopping) &&
    generation.counters.pages == input.pageSequence &&
    generation.counters.calls == input.pageSequence &&
    (generation.lastPageSequence == some (input.pageSequence - 1) ||
      (input.pageSequence == 1 && generation.lastPageSequence.isNone)) &&
    generation.lockedProvider.all (· == input.providerKey) &&
    isSafeInteger input.pageSequence && decide (1 ≤ input.pageSequence) &&
    boundedText input.providerKey && input.costUnit == generation.cost.unit &&
    isAmount input.costAmount && !amountExceeds input.costAmount generation.cost.reserved &&
    nonNegativeSafeInteger input.accepted && nonNegativeSafeInteger input.duplicates &&
    nonNegativeSafeInteger input.rejected && nonNegativeSafeInteger input.returned &&
    input.returned == input.accepted + input.duplicates + input.rejected

/-- The generation with the page's counts and cost added. -/
def pageProgressCheckpointed (creation : DatasetGenerationCreation)
    (input : CheckpointDatasetGenerationPageProgressInput) : DatasetGenerationCreation where
  generation := { creation.generation with
    aggregateVersion := creation.generation.aggregateVersion + 1
    cost := { creation.generation.cost with
      reserved := 0
      spent := creation.generation.cost.spent + input.costAmount }
    counters := {
      accepted := creation.generation.counters.accepted + input.accepted
      calls := creation.generation.counters.calls
      duplicates := creation.generation.counters.duplicates + input.duplicates
      pages := creation.generation.counters.pages
      rejected := creation.generation.counters.rejected + input.rejected
      returned := creation.generation.counters.returned + input.returned }
    lastPageSequence := some input.pageSequence
    lockedProvider := some (creation.generation.lockedProvider.getD input.providerKey) }
  materialization := { creation.materialization with
    recordCount := creation.materialization.recordCount + input.accepted
    rejectedCount := creation.materialization.rejectedCount + input.rejected
    revision := creation.materialization.revision + 1 }

def checkpointDatasetGenerationPageProgress (creation : DatasetGenerationCreation)
    (plan : DatasetGenerationPlan) (input : CheckpointDatasetGenerationPageProgressInput) :
    Except DatasetGenerationCreationFailure DatasetGenerationCreation :=
  guardedTransition creation plan (pageCheckpointIsAdmitted creation input)
    "The page checkpoint is not a valid monotone generation transition."
    (pageProgressCheckpointed creation input)

/-! ## Completion and failure -/

/-- Why a generation is complete. -/
inductive CompletionReason where
  | capsReached
  | sourceCompleted
  deriving DecidableEq, Repr

def CompletionReason.text : CompletionReason → String
  | .capsReached => "caps-reached"
  | .sourceCompleted => "source-completed"

/-- The coverage a completion claims. -/
inductive CompletionCoverage where
  | bounded
  | completeForDeclaredSource
  deriving DecidableEq, Repr

def CompletionCoverage.status : CompletionCoverage → CoverageStatus
  | .bounded => .bounded
  | .completeForDeclaredSource => .completeForDeclaredSource

structure CompleteDatasetGenerationInput where
  completedAt : Instant
  completionReason : CompletionReason
  contentHash : ContentHash
  coverageStatus : CompletionCoverage
  deriving DecidableEq, Repr

/-- The generation is running with nothing reserved and every page checkpointed, and the completion
is not before its creation. -/
def completionIsAdmitted (creation : DatasetGenerationCreation)
    (input : CompleteDatasetGenerationInput) : Bool :=
  creation.generation.state == .running && creation.materialization.state == .building &&
    creation.generation.cost.reserved == 0 &&
    creation.generation.lastPageSequence == some creation.generation.counters.pages &&
    instantIsValid input.completedAt &&
      decide (creation.generation.createdAt ≤ input.completedAt) &&
    contentHashIsValid input.contentHash &&
    (input.completionReason == .sourceCompleted) ==
      (input.coverageStatus == .completeForDeclaredSource)

/-- The generation and its materialization once complete. -/
def generationCompleted (creation : DatasetGenerationCreation)
    (input : CompleteDatasetGenerationInput) : DatasetGenerationCreation where
  generation := { creation.generation with
    aggregateVersion := creation.generation.aggregateVersion + 1
    state := .completed }
  materialization := { creation.materialization with
    completedAt := some input.completedAt
    completionReason := some input.completionReason.text
    contentHash := some input.contentHash
    coverage := some ⟨.lockedProviderRoute, input.coverageStatus.status⟩
    revision := creation.materialization.revision + 1
    state := .ready }

/-- `completeDatasetGeneration`: by caps or by the end of the source. -/
def completeDatasetGeneration (creation : DatasetGenerationCreation)
    (plan : DatasetGenerationPlan) (input : CompleteDatasetGenerationInput) :
    Except DatasetGenerationCreationFailure DatasetGenerationCreation :=
  guardedTransition creation plan (completionIsAdmitted creation input)
    "Only a fully checkpointed generation can publish a ready materialization."
    (generationCompleted creation input)

structure FailDatasetGenerationInput where
  completedAt : Instant
  completionReason : String
  deriving DecidableEq, Repr

private def failureIsAdmitted (creation : DatasetGenerationCreation)
    (input : FailDatasetGenerationInput) :
    Bool :=
  creation.generation.state == .running && creation.materialization.state == .building &&
    instantIsValid input.completedAt &&
      decide (creation.generation.createdAt ≤ input.completedAt) &&
    boundedText input.completionReason 128

/-- The generation and its materialization once failed. -/
def generationFailed (creation : DatasetGenerationCreation) (input : FailDatasetGenerationInput) :
    DatasetGenerationCreation where
  generation := { creation.generation with
    aggregateVersion := creation.generation.aggregateVersion + 1
    cost := { creation.generation.cost with reserved := 0 }
    state := .failed }
  materialization := { creation.materialization with
    completedAt := some input.completedAt
    completionReason := some input.completionReason
    revision := creation.materialization.revision + 1
    state := .failed }

def failDatasetGeneration (creation : DatasetGenerationCreation) (plan : DatasetGenerationPlan)
    (input : FailDatasetGenerationInput) :
    Except DatasetGenerationCreationFailure DatasetGenerationCreation :=
  guardedTransition creation plan (failureIsAdmitted creation input)
    "Only an active generation can project a certain page failure."
    (generationFailed creation input)

/-! ## Ambiguity -/

/-- The generation is running or stopping, and its materialization is being built. -/
def ambiguityIsAdmitted (creation : DatasetGenerationCreation) : Bool :=
  (creation.generation.state == .running || creation.generation.state == .stopping) &&
    creation.materialization.state == .building

/-- The generation with an effect of unknown outcome. -/
def generationAmbiguous (creation : DatasetGenerationCreation) : DatasetGenerationCreation where
  generation := { creation.generation with
    aggregateVersion := creation.generation.aggregateVersion + 1
    state := .ambiguous }
  materialization := { creation.materialization with
    revision := creation.materialization.revision + 1
    state := .ambiguous }

def markDatasetGenerationAmbiguous (creation : DatasetGenerationCreation)
    (plan : DatasetGenerationPlan) :
    Except DatasetGenerationCreationFailure DatasetGenerationCreation :=
  guardedTransition creation plan (ambiguityIsAdmitted creation)
    "Only an active generation can become ambiguous." (generationAmbiguous creation)

/-! ## Stop requests -/

structure RequestDatasetGenerationStopInput where
  reason : String
  requestedAt : Instant
  deriving DecidableEq, Repr

private def stopRequestIsAdmitted (creation : DatasetGenerationCreation)
    (input : RequestDatasetGenerationStopInput) : Bool :=
  instantIsValid input.requestedAt && decide (creation.generation.createdAt ≤ input.requestedAt) &&
    input.reason == "requested" && creation.generation.state != .ambiguous &&
    creation.generation.state != .completed && creation.generation.state != .failed

/-- A planned or fully checkpointed generation has no effect in flight. -/
def noEffectIsInFlight (generation : DatasetGeneration) : Bool :=
  generation.state == .planned ||
    (generation.cost.reserved == 0 &&
      generation.lastPageSequence == some generation.counters.pages)

/-- The generation on its way to a stop. -/
def stopRequested (creation : DatasetGenerationCreation)
    (input : RequestDatasetGenerationStopInput) : DatasetGenerationCreation :=
  let settled := noEffectIsInFlight creation.generation
  { generation := { creation.generation with
      aggregateVersion := creation.generation.aggregateVersion + 1
      state := if settled then .cancelled else .stopping
      stop := some ⟨input.reason, input.requestedAt⟩ }
    materialization :=
      if settled then
        { creation.materialization with
          completedAt := some input.requestedAt
          completionReason := some input.reason
          revision := creation.materialization.revision + 1
          state := .cancelled }
      else creation.materialization }

/-- A generation that is already stopping or cancelled is returned as it is. -/
def stopIsRecorded (generation : DatasetGeneration) : Bool :=
  generation.state == .cancelled || generation.state == .stopping

/-- An already recorded stop returns its argument, which the first validation has
accepted, so the second validation cannot refuse it. -/
def requestDatasetGenerationStop (creation : DatasetGenerationCreation)
    (plan : DatasetGenerationPlan) (input : RequestDatasetGenerationStopInput) :
    Except DatasetGenerationCreationFailure DatasetGenerationCreation :=
  guardedTransition creation plan (stopRequestIsAdmitted creation input)
    "This generation cannot accept an explicit stop request."
    (if stopIsRecorded creation.generation then creation else stopRequested creation input)

/-- The generation is stopping, and the cancellation is not before the request to stop. -/
def cancellationIsAdmitted (creation : DatasetGenerationCreation) (completedAt : Instant) : Bool :=
  creation.generation.state == .stopping &&
    match creation.generation.stop with
    | none => false
    | some stop => instantIsValid completedAt && decide (stop.requestedAt ≤ completedAt)

/-- The generation and its materialization once cancelled. -/
def cancelledAfterStop (creation : DatasetGenerationCreation) (completedAt : Instant) :
    DatasetGenerationCreation where
  generation := { creation.generation with
    aggregateVersion := creation.generation.aggregateVersion + 1
    cost := { creation.generation.cost with reserved := 0 }
    state := .cancelled }
  materialization := { creation.materialization with
    completedAt := some completedAt
    completionReason := creation.generation.stop.map DatasetGenerationStop.reason
    revision := creation.materialization.revision + 1
    state := .cancelled }

def cancelDatasetGenerationAfterStop (creation : DatasetGenerationCreation)
    (plan : DatasetGenerationPlan) (completedAt : Instant) :
    Except DatasetGenerationCreationFailure DatasetGenerationCreation :=
  guardedTransition creation plan (cancellationIsAdmitted creation completedAt)
    "Only a stopping generation with a certain page issue can be cancelled."
    (cancelledAfterStop creation completedAt)

/-! ## Creation -/

structure CreateDatasetGenerationInput where
  createdAt : Instant
  generationId : DatasetGenerationId
  plan : DatasetGenerationPlan

/-- The generation has not begun. -/
def generationIsInitial (creation : DatasetGenerationCreation) : Bool :=
  let generation := creation.generation
  boundedIdentity generation.generationId && instantIsValid generation.createdAt &&
    generation.aggregateVersion == 1 && generation.state == .planned &&
    countersAreZero generation.counters && generation.cost.reserved == 0 &&
    generation.cost.spent == 0 && boundedText generation.cost.unit 64

def initialBindingMatchesPlan (creation : DatasetGenerationCreation)
    (plan : DatasetGenerationPlan) : Bool :=
  generationBindingMatchesPlan creation plan && creation.materialization.state == .building &&
    creation.materialization.revision == 1 && creation.materialization.recordCount == 0 &&
    creation.materialization.rejectedCount == 0

/-- `validateDatasetGenerationCreation`: a generation that has not begun, of this plan. -/
def validateDatasetGenerationCreation (creation : DatasetGenerationCreation)
    (plan : DatasetGenerationPlan) :
    Except DatasetGenerationCreationFailure DatasetGenerationCreation :=
  match createDatasetGenerationPlan plan with
  | .error _ => .error ⟨.planInvalid, "A generation requires an exact valid immutable plan."⟩
  | .ok _ =>
    match createDatasetMaterialization creation.materialization with
    | .error failure => .error ⟨.materializationInvalid, failure.message⟩
    | .ok _ =>
      if !generationIsInitial creation then
        .error ⟨.generationInvalid,
          "A newly created generation must be a zero-progress planned aggregate."⟩
      else if !initialBindingMatchesPlan creation plan then
        .error ⟨.bindingMismatch, "The generation and materialization must preserve every " ++
          "immutable plan binding."⟩
      else
        .ok creation

/-- The generation a plan starts with. -/
def initialCreation (input : CreateDatasetGenerationInput)
    (materializationId : DatasetMaterializationId) : DatasetGenerationCreation where
  generation := {
    aggregateVersion := 1
    capability := input.plan.requestIntent.capability
    cost := ⟨0, 0, input.plan.budget.unit⟩
    counters := ⟨0, 0, 0, 0, 0, 0⟩
    createdAt := input.createdAt
    datasetId := input.plan.requestIntent.targetDataset.datasetId
    generationId := input.generationId
    generationPlanId := input.plan.generationPlanId
    lastPageSequence := none
    lockedProvider := none
    materializationId := materializationId
    planHash := input.plan.planHash
    queryHash := input.plan.queryHash
    requestIntentHash := input.plan.requestIntentHash
    schemaHash := input.plan.schemaHash
    state := .planned
    stop := none
    workspaceId := input.plan.workspaceId }
  materialization := {
    completedAt := none
    completionReason := none
    contentHash := none
    coverage := none
    createdAt := input.createdAt
    datasetId := input.plan.requestIntent.targetDataset.datasetId
    materializationId := materializationId
    origin := .generation input.generationId
    recordCount := 0
    rejectedCount := 0
    revision := 1
    schemaHash := input.plan.schemaHash
    state := .building
    workspaceId := input.plan.workspaceId }

/-- Nothing when the target dataset identity makes `datasetMaterializationId` throw. -/
def createDatasetGeneration (input : CreateDatasetGenerationInput) :
    Option (Except DatasetGenerationCreationFailure DatasetGenerationCreation) :=
  (datasetMaterializationId input.plan.requestIntent.targetDataset.datasetId).map
    fun materializationId =>
      validateDatasetGenerationCreation (initialCreation input materializationId) input.plan

/-! ## The generation as a transition system -/

/-- One call of a generation operation, with its arguments. -/
inductive DatasetGenerationOperation where
  | authorizePageEffect (input : AuthorizeDatasetGenerationPageEffectInput)
  | checkpointPageProgress (input : CheckpointDatasetGenerationPageProgressInput)
  | complete (input : CompleteDatasetGenerationInput)
  | fail (input : FailDatasetGenerationInput)
  | markAmbiguous
  | requestStop (input : RequestDatasetGenerationStopInput)
  | cancelAfterStop (completedAt : Instant)

/-- Every operation of the kernel on one generation. -/
def applyDatasetGenerationOperation (creation : DatasetGenerationCreation)
    (plan : DatasetGenerationPlan) :
    DatasetGenerationOperation →
      Except DatasetGenerationCreationFailure DatasetGenerationCreation
  | .authorizePageEffect input => authorizeDatasetGenerationPageEffect creation plan input
  | .checkpointPageProgress input => checkpointDatasetGenerationPageProgress creation plan input
  | .complete input => completeDatasetGeneration creation plan input
  | .fail input => failDatasetGeneration creation plan input
  | .markAmbiguous => markDatasetGenerationAmbiguous creation plan
  | .requestStop input => requestDatasetGenerationStop creation plan input
  | .cancelAfterStop completedAt => cancelDatasetGenerationAfterStop creation plan completedAt

/-- A generation of a plan: it starts from a creation of that plan, and a step is
an accepted operation. -/
def generationSystem (plan : DatasetGenerationPlan) :
    Foundation.TransitionSystem DatasetGenerationCreation DatasetGenerationOperation where
  initial creation := ∃ input, input.plan = plan ∧
    createDatasetGeneration input = some (.ok creation)
  step before operation after := applyDatasetGenerationOperation before plan operation = .ok after

/-- The admission condition of an operation. -/
def operationIsAdmitted (creation : DatasetGenerationCreation) (plan : DatasetGenerationPlan) :
    DatasetGenerationOperation → Bool
  | .authorizePageEffect input => pageEffectIsAdmitted creation plan input
  | .checkpointPageProgress input => pageCheckpointIsAdmitted creation input
  | .complete input => completionIsAdmitted creation input
  | .fail input => failureIsAdmitted creation input
  | .markAmbiguous => ambiguityIsAdmitted creation
  | .requestStop input => stopRequestIsAdmitted creation input
  | .cancelAfterStop completedAt => cancellationIsAdmitted creation completedAt

/-- The snapshot an operation builds. -/
def operationResult (creation : DatasetGenerationCreation) :
    DatasetGenerationOperation → DatasetGenerationCreation
  | .authorizePageEffect input => pageEffectAuthorized creation input
  | .checkpointPageProgress input => pageProgressCheckpointed creation input
  | .complete input => generationCompleted creation input
  | .fail input => generationFailed creation input
  | .markAmbiguous => generationAmbiguous creation
  | .requestStop input =>
      if stopIsRecorded creation.generation then creation else stopRequested creation input
  | .cancelAfterStop completedAt => cancelledAfterStop creation completedAt

/-- **What an accepted operation does.** Both snapshots are valid, the operation
was admitted, and the next snapshot is the one it builds. -/
theorem applyDatasetGenerationOperation_ok {creation result : DatasetGenerationCreation}
    {plan : DatasetGenerationPlan} {operation : DatasetGenerationOperation} :
    applyDatasetGenerationOperation creation plan operation = .ok result ↔
      result = operationResult creation operation ∧ SnapshotValid creation plan ∧
        operationIsAdmitted creation plan operation = true ∧
        SnapshotValid (operationResult creation operation) plan := by
  cases operation <;> exact guardedTransition_ok

end Kurobara.Kernel
