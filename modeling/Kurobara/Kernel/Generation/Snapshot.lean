import Kurobara.Kernel.Generation.Plan

/-! # Generation snapshots

A dataset generation with its materialization, and the validators of both. One
validator, `validateDatasetGenerationSnapshot`, accepts new generations and every
durable progress snapshot; what it accepts is collected in `SnapshotValid`, so
later proofs name the checks instead of unfolding them.
-/

namespace Kurobara.Kernel

/-- The states of a materialization. -/
inductive DatasetMaterializationState where
  | building
  | ready
  | failed
  | cancelled
  | ambiguous
  deriving DecidableEq, Repr

/-- What a coverage is measured against. -/
inductive CoverageBasis where
  | importedSource
  | lockedProviderRoute
  deriving DecidableEq, Repr

/-- Whether the source was read to its end. -/
inductive CoverageStatus where
  | completeForDeclaredSource
  | bounded
  | unknown
  deriving DecidableEq, Repr

/-- How much of its source a dataset covers. -/
structure DatasetMaterializationCoverage where
  basis : CoverageBasis
  status : CoverageStatus
  deriving DecidableEq, Repr

/-- Where the records of a dataset come from. -/
inductive DatasetMaterializationOrigin where
  | imported (importId : String)
  | generation (generationId : DatasetGenerationId)
  deriving DecidableEq, Repr

/-- The materialization of a dataset. -/
structure DatasetMaterialization where
  completedAt : Option Instant
  completionReason : Option String
  contentHash : Option ContentHash
  coverage : Option DatasetMaterializationCoverage
  createdAt : Instant
  datasetId : DatasetId
  materializationId : DatasetMaterializationId
  origin : DatasetMaterializationOrigin
  recordCount : ℤ
  rejectedCount : ℤ
  revision : ℤ
  schemaHash : ContentHash
  state : DatasetMaterializationState
  workspaceId : WorkspaceId
  deriving DecidableEq, Repr

/-- The states of a generation. -/
inductive DatasetGenerationState where
  | planned
  | running
  | stopping
  | completed
  | failed
  | cancelled
  | ambiguous
  deriving DecidableEq, Repr

/-- What a generation has counted. -/
structure DatasetGenerationCounters where
  accepted : ℤ
  calls : ℤ
  duplicates : ℤ
  pages : ℤ
  rejected : ℤ
  returned : ℤ
  deriving DecidableEq, Repr

/-- What a generation has spent and reserved. -/
structure DatasetGenerationCost where
  reserved : Amount
  spent : Amount
  unit : String
  deriving DecidableEq, Repr

/-- The request to stop, with its reason. -/
structure DatasetGenerationStop where
  reason : String
  requestedAt : Instant
  deriving DecidableEq, Repr

/-- A generation. -/
structure DatasetGeneration where
  aggregateVersion : ℤ
  capability : CapabilityRef
  cost : DatasetGenerationCost
  counters : DatasetGenerationCounters
  createdAt : Instant
  datasetId : DatasetId
  generationId : DatasetGenerationId
  generationPlanId : DatasetGenerationPlanId
  lastPageSequence : Option ℤ
  lockedProvider : Option String
  materializationId : DatasetMaterializationId
  planHash : ContentHash
  queryHash : ContentHash
  requestIntentHash : ContentHash
  schemaHash : ContentHash
  state : DatasetGenerationState
  stop : Option DatasetGenerationStop
  workspaceId : WorkspaceId
  deriving DecidableEq, Repr

/-- A generation with the materialization it builds. -/
structure DatasetGenerationCreation where
  generation : DatasetGeneration
  materialization : DatasetMaterialization
  deriving DecidableEq, Repr

inductive DatasetMaterializationFailureCode where
  | identityInvalid
  | progressInvalid
  | scopeMismatch
  | terminalProofInvalid
  deriving DecidableEq, Repr

structure DatasetMaterializationFailure where
  code : DatasetMaterializationFailureCode
  message : String
  deriving DecidableEq, Repr

inductive DatasetGenerationCreationFailureCode where
  | bindingMismatch
  | generationInvalid
  | materializationInvalid
  | planInvalid
  deriving DecidableEq, Repr

def DatasetGenerationCreationFailureCode.text : DatasetGenerationCreationFailureCode → String
  | .bindingMismatch => "binding-mismatch"
  | .generationInvalid => "generation-invalid"
  | .materializationInvalid => "materialization-invalid"
  | .planInvalid => "plan-invalid"

structure DatasetGenerationCreationFailure where
  code : DatasetGenerationCreationFailureCode
  message : String
  deriving DecidableEq, Repr

/-! ## Materializations -/

/-- `datasetMaterializationId`; nothing stands for its `InvalidValueObjectError`. -/
def datasetMaterializationId (value : String) : Option DatasetMaterializationId :=
  if boundedText value then some value else none

/-- A known coverage on the basis of the origin. -/
def coverageIsValid (materialization : DatasetMaterialization) : Bool :=
  match materialization.coverage with
  | none => false
  | some coverage =>
      coverage.status != .unknown &&
        match materialization.origin with
        | .imported _ => coverage.basis == .importedSource &&
            coverage.status == .completeForDeclaredSource
        | .generation _ => coverage.basis == .lockedProviderRoute &&
            (coverage.status == .completeForDeclaredSource || coverage.status == .bounded)

/-- The identities of the materialization are well formed. -/
def materializationIdentityIsValid (input : DatasetMaterialization) : Bool :=
  boundedText input.materializationId && boundedText input.datasetId &&
    boundedText input.workspaceId &&
    some input.materializationId == datasetMaterializationId input.datasetId &&
    contentHashIsValid input.schemaHash

def materializationOriginIsValid : DatasetMaterializationOrigin → Bool
  | .imported importId => boundedText importId
  | .generation generationId => boundedIdentity generationId

/-- Counts, revision and creation are safe and non-negative, and the revision starts at 1. -/
def materializationProgressIsValid (input : DatasetMaterialization) : Bool :=
  instantIsValid input.createdAt && nonNegativeSafeInteger input.recordCount &&
    nonNegativeSafeInteger input.rejectedCount &&
    isSafeInteger (input.recordCount + input.rejectedCount) && isSafeInteger input.revision &&
    decide (1 ≤ input.revision)

/-- Nothing of an ending is recorded. -/
def terminalProofIsAbsent (input : DatasetMaterialization) : Bool :=
  input.completedAt.isNone && input.completionReason.isNone && input.contentHash.isNone &&
    input.coverage.isNone

def completionReasonIsValid (input : DatasetMaterialization) : Bool :=
  input.completionReason.any (boundedText · 128)

def completedAtIsValid (input : DatasetMaterialization) : Bool :=
  input.completedAt.any fun completedAt =>
    instantIsValid completedAt && decide (input.createdAt ≤ completedAt)

/-- The terminal proof that each readiness state requires. -/
def terminalProofIsValid (input : DatasetMaterialization) : Bool :=
  match input.state with
  | .ready => completedAtIsValid input && completionReasonIsValid input &&
      input.contentHash.any contentHashIsValid && coverageIsValid input
  | .failed | .cancelled => completedAtIsValid input && completionReasonIsValid input &&
      input.contentHash.isNone && input.coverage.isNone
  | .building | .ambiguous => terminalProofIsAbsent input

private def terminalProofMessage : DatasetMaterializationState → String
  | .ready => "A ready materialization requires exact completion, content, and coverage proofs."
  | .failed | .cancelled => "A failed or cancelled materialization requires a terminal reason " ++
      "without consumable content proof."
  | .building | .ambiguous => "A non-terminal materialization cannot carry terminal content or " ++
      "coverage proofs."

/-- `createDatasetMaterialization`: the input itself when every check passes. -/
def createDatasetMaterialization (input : DatasetMaterialization) :
    Except DatasetMaterializationFailure DatasetMaterialization :=
  if !materializationIdentityIsValid input then
    .error ⟨.identityInvalid,
      "A materialization requires bounded deterministic identities and a schema hash."⟩
  else if !materializationOriginIsValid input.origin then
    .error ⟨.scopeMismatch, "A materialization requires exactly one bounded origin identity."⟩
  else if !materializationProgressIsValid input then
    .error ⟨.progressInvalid, "Materialization progress must use monotone safe integers."⟩
  else if !terminalProofIsValid input then
    .error ⟨.terminalProofInvalid, terminalProofMessage input.state⟩
  else
    .ok input

/-- The checks of `createDatasetMaterialization`. -/
def materializationIsValid (input : DatasetMaterialization) : Bool :=
  materializationIdentityIsValid input && materializationOriginIsValid input.origin &&
    materializationProgressIsValid input && terminalProofIsValid input

theorem createDatasetMaterialization_of_valid {input : DatasetMaterialization}
    (valid : materializationIsValid input = true) :
    createDatasetMaterialization input = .ok input := by
  simp only [materializationIsValid, Bool.and_eq_true] at valid
  simp [createDatasetMaterialization, valid]

private theorem createDatasetMaterialization_of_invalid {input : DatasetMaterialization}
    (invalid : materializationIsValid input = false) :
    ∃ failure, createDatasetMaterialization input = .error failure := by
  unfold createDatasetMaterialization
  simp only [materializationIsValid, Bool.and_eq_false_iff] at invalid
  split
  · exact ⟨_, rfl⟩
  split
  · exact ⟨_, rfl⟩
  split
  · exact ⟨_, rfl⟩
  split
  · exact ⟨_, rfl⟩
  · simp_all

/-! ## Generations -/

/-- Nothing has been counted. -/
def countersAreZero (counters : DatasetGenerationCounters) : Bool :=
  counters.accepted == 0 && counters.calls == 0 && counters.duplicates == 0 &&
    counters.pages == 0 && counters.rejected == 0 && counters.returned == 0

/-- The counters are safe integers and fit each other. -/
def generationCountersAreValid (counters : DatasetGenerationCounters) : Bool :=
  nonNegativeSafeInteger counters.accepted && nonNegativeSafeInteger counters.calls &&
    nonNegativeSafeInteger counters.duplicates && nonNegativeSafeInteger counters.pages &&
    nonNegativeSafeInteger counters.rejected && nonNegativeSafeInteger counters.returned &&
    isSafeInteger (counters.accepted + counters.duplicates + counters.rejected +
      counters.returned + counters.pages + counters.calls)

/-- The counters stay within the plan's limits. -/
def generationCountersFitPlan (counters : DatasetGenerationCounters)
    (plan : DatasetGenerationPlan) : Bool :=
  decide (counters.pages ≤ plan.limits .maxPages) &&
    decide (counters.calls ≤ plan.limits .maxCalls) &&
    decide (counters.returned ≤ plan.limits .maxResults) &&
    decide (counters.accepted ≤ datasetGenerationAcceptedRecordLimit plan)

/-- The state of the materialization that goes with a generation's. -/
def materializationStateForGeneration : DatasetGenerationState → DatasetMaterializationState
  | .completed => .ready
  | .failed => .failed
  | .cancelled => .cancelled
  | .ambiguous => .ambiguous
  | .planned | .running | .stopping => .building

/-- Generation and materialization name the plan's identities. -/
def generationBindingMatchesPlan (creation : DatasetGenerationCreation)
    (plan : DatasetGenerationPlan) : Bool :=
  let generation := creation.generation
  let materialization := creation.materialization
  let targetDataset := plan.requestIntent.targetDataset
  generation.workspaceId == plan.workspaceId &&
    generation.workspaceId == targetDataset.workspaceId &&
    generation.datasetId == targetDataset.datasetId &&
    generation.generationPlanId == plan.generationPlanId &&
    generation.planHash == plan.planHash && generation.queryHash == plan.queryHash &&
    generation.schemaHash == plan.schemaHash &&
    generation.requestIntentHash == plan.requestIntentHash &&
    generation.cost.unit == plan.budget.unit &&
    capabilityMatches generation.capability plan.requestIntent.capability &&
    materialization.workspaceId == generation.workspaceId &&
    materialization.datasetId == generation.datasetId &&
    materialization.materializationId == generation.materializationId &&
    materialization.schemaHash == generation.schemaHash &&
    materialization.createdAt == generation.createdAt &&
    materialization.origin == .generation generation.generationId

/-- A stop is recorded exactly in the states that need one. -/
def generationStopIsValid (generation : DatasetGeneration) : Bool :=
  match generation.stop with
  | none => generation.state != .stopping && generation.state != .cancelled
  | some stop => stop.reason == "requested" && instantIsValid stop.requestedAt &&
      decide (generation.createdAt ≤ stop.requestedAt) && generation.state != .planned &&
      generation.state != .running && generation.state != .completed &&
      generation.state != .failed

/-- The states in which `lastPageSequence` may lag one page behind the counter. -/
def pageMayBeInFlight : DatasetGenerationState → Bool
  | .running | .stopping | .failed | .cancelled => true
  | .planned | .completed | .ambiguous => false

/-- `pagesAreBound`: under a locked provider the last sequence is the page count, or one behind it
while a page may be in flight. -/
def pagesAreBound (generation : DatasetGeneration) : Bool :=
  match generation.lockedProvider with
  | none => generation.lastPageSequence.isNone && decide (generation.counters.pages ≤ 1)
  | some lockedProvider =>
      (generation.lastPageSequence == some generation.counters.pages ||
          (pageMayBeInFlight generation.state &&
            generation.lastPageSequence == some (generation.counters.pages - 1))) &&
        decide (0 < generation.counters.pages) && boundedText lockedProvider

/-- The progress of the generation is well formed, and the materialization has counted the same. -/
def progressIsExact (creation : DatasetGenerationCreation) (plan : DatasetGenerationPlan) : Bool :=
  let generation := creation.generation
  let materialization := creation.materialization
  boundedIdentity generation.generationId && decide (1 ≤ generation.aggregateVersion) &&
    instantIsValid generation.createdAt && generationCountersAreValid generation.counters &&
    generationCountersFitPlan generation.counters plan &&
    generation.counters.accepted == materialization.recordCount &&
    generation.counters.rejected == materialization.rejectedCount &&
    generation.counters.returned == generation.counters.accepted +
      generation.counters.duplicates + generation.counters.rejected &&
    decide (generation.counters.pages ≤ generation.counters.calls) &&
    isAmount generation.cost.reserved && isAmount generation.cost.spent &&
    isAmount (generation.cost.reserved + generation.cost.spent) &&
    !amountExceeds (generation.cost.reserved + generation.cost.spent) plan.budget.limit &&
    generationStopIsValid generation && pagesAreBound generation &&
    materialization.state == materializationStateForGeneration generation.state

private def plannedIsInitial (creation : DatasetGenerationCreation) : Bool :=
  creation.generation.state != .planned ||
    (creation.generation.aggregateVersion == 1 && countersAreZero creation.generation.counters &&
      creation.generation.cost.reserved == 0 && creation.generation.cost.spent == 0 &&
      creation.materialization.revision == 1)

/-- `validateDatasetGenerationSnapshot`: each check with its own failure, in the source's order. -/
def validateDatasetGenerationSnapshot (creation : DatasetGenerationCreation)
    (plan : DatasetGenerationPlan) :
    Except DatasetGenerationCreationFailure DatasetGenerationCreation :=
  match createDatasetGenerationPlan plan with
  | .error _ =>
      .error ⟨.planInvalid, "A generation requires an exact valid immutable plan."⟩
  | .ok _ =>
    match createDatasetMaterialization creation.materialization with
    | .error failure => .error ⟨.materializationInvalid, failure.message⟩
    | .ok _ =>
      if !generationBindingMatchesPlan creation plan then
        .error ⟨.bindingMismatch,
          "The generation and materialization must preserve every immutable plan binding."⟩
      else if !progressIsExact creation plan then
        .error ⟨.generationInvalid,
          "The generation progress, materialization, provider lock, or " ++
          "cost snapshot is invalid."⟩
      else if !plannedIsInitial creation then
        .error ⟨.generationInvalid,
          "A planned generation must remain a zero-progress initial snapshot."⟩
      else
        .ok creation

/-- What `validateDatasetGenerationSnapshot` checks, in its order. -/
structure SnapshotValid (creation : DatasetGenerationCreation) (plan : DatasetGenerationPlan) :
    Prop where
  planValid : planIsValid plan = true
  materializationValid : materializationIsValid creation.materialization = true
  binding : generationBindingMatchesPlan creation plan = true
  progress : progressIsExact creation plan = true
  planned : plannedIsInitial creation = true

/-- The snapshot validator returns its argument exactly when every check passes. -/
theorem validateDatasetGenerationSnapshot_ok {creation result : DatasetGenerationCreation}
    {plan : DatasetGenerationPlan} :
    validateDatasetGenerationSnapshot creation plan = .ok result ↔
      result = creation ∧ SnapshotValid creation plan := by
  unfold validateDatasetGenerationSnapshot
  constructor
  · intro accepted
    split at accepted
    · cases accepted
    · rename_i planned plannedEq
      split at accepted
      · cases accepted
      · rename_i materialized materializedEq
        split at accepted
        · cases accepted
        split at accepted
        · cases accepted
        split at accepted
        · cases accepted
        cases accepted
        refine ⟨rfl, ?_, ?_, ?_, ?_, ?_⟩
        · simp [planIsValid, plannedEq, Except.toBool]
        · by_contra invalid
          obtain ⟨failure, failed⟩ :=
            createDatasetMaterialization_of_invalid (Bool.eq_false_iff.mpr invalid)
          rw [failed] at materializedEq
          cases materializedEq
        all_goals simp_all
  · rintro ⟨rfl, valid⟩
    obtain ⟨planValid, materializationValid, binding, progress, planned⟩ := valid
    rw [createDatasetMaterialization_of_valid materializationValid]
    cases accepted : createDatasetGenerationPlan plan with
    | error failure => simp [planIsValid, accepted, Except.toBool] at planValid
    | ok value => simp [binding, progress, planned]

theorem SnapshotValid.validate {creation : DatasetGenerationCreation} {plan : DatasetGenerationPlan}
    (valid : SnapshotValid creation plan) :
    validateDatasetGenerationSnapshot creation plan = .ok creation :=
  validateDatasetGenerationSnapshot_ok.mpr ⟨rfl, valid⟩

instance (creation : DatasetGenerationCreation) (plan : DatasetGenerationPlan) :
    Decidable (SnapshotValid creation plan) :=
  decidable_of_iff (planIsValid plan = true ∧
      materializationIsValid creation.materialization = true ∧
      generationBindingMatchesPlan creation plan = true ∧ progressIsExact creation plan = true ∧
      plannedIsInitial creation = true)
    ⟨fun checks => ⟨checks.1, checks.2.1, checks.2.2.1, checks.2.2.2.1, checks.2.2.2.2⟩,
      fun valid => ⟨valid.1, valid.2, valid.3, valid.4, valid.5⟩⟩

/-! ## Progress facts -/

/-- The arithmetic content of `progressIsExact`. -/
structure ProgressFacts (creation : DatasetGenerationCreation) (plan : DatasetGenerationPlan) :
    Prop where
  identity : boundedIdentity creation.generation.generationId = true
  version : 1 ≤ creation.generation.aggregateVersion
  createdAt : instantIsValid creation.generation.createdAt = true
  counters : generationCountersAreValid creation.generation.counters = true
  pagesFit : creation.generation.counters.pages ≤ plan.limits .maxPages
  callsFit : creation.generation.counters.calls ≤ plan.limits .maxCalls
  returnedFit : creation.generation.counters.returned ≤ plan.limits .maxResults
  acceptedFit : creation.generation.counters.accepted ≤ datasetGenerationAcceptedRecordLimit plan
  acceptedRecords : creation.generation.counters.accepted = creation.materialization.recordCount
  rejectedRecords : creation.generation.counters.rejected = creation.materialization.rejectedCount
  returned : creation.generation.counters.returned = creation.generation.counters.accepted +
    creation.generation.counters.duplicates + creation.generation.counters.rejected
  calls : creation.generation.counters.pages ≤ creation.generation.counters.calls
  reserved : 0 ≤ creation.generation.cost.reserved
  spent : 0 ≤ creation.generation.cost.spent
  budget : creation.generation.cost.reserved + creation.generation.cost.spent ≤ plan.budget.limit
  stop : generationStopIsValid creation.generation = true
  pages : pagesAreBound creation.generation = true
  materialized :
    creation.materialization.state = materializationStateForGeneration creation.generation.state

theorem progressIsExact_iff {creation : DatasetGenerationCreation} {plan : DatasetGenerationPlan} :
    progressIsExact creation plan = true ↔ ProgressFacts creation plan := by
  simp only [progressIsExact, generationCountersFitPlan, Bool.and_eq_true, decide_eq_true_eq,
    beq_iff_eq, isAmount_iff, Bool.not_eq_true', amountExceeds_eq_false_iff]
  constructor
  · rintro ⟨⟨⟨⟨⟨⟨⟨⟨⟨⟨⟨⟨⟨⟨⟨identity, version⟩, createdAt⟩, counters⟩, ⟨⟨pagesFit, callsFit⟩,
      returnedFit⟩, acceptedFit⟩, acceptedRecords⟩, rejectedRecords⟩, returned⟩, calls⟩, reserved⟩,
      spent⟩, _⟩, budget⟩, stop⟩, pages⟩, materialized⟩
    exact ⟨identity, version, createdAt, counters, pagesFit, callsFit, returnedFit, acceptedFit,
      acceptedRecords, rejectedRecords, returned, calls, reserved, spent, budget, stop, pages,
      materialized⟩
  · intro facts
    exact ⟨⟨⟨⟨⟨⟨⟨⟨⟨⟨⟨⟨⟨⟨⟨facts.identity, facts.version⟩, facts.createdAt⟩, facts.counters⟩,
      ⟨⟨facts.pagesFit, facts.callsFit⟩, facts.returnedFit⟩, facts.acceptedFit⟩,
      facts.acceptedRecords⟩, facts.rejectedRecords⟩, facts.returned⟩, facts.calls⟩,
      facts.reserved⟩, facts.spent⟩, add_nonneg facts.reserved facts.spent⟩, facts.budget⟩,
      facts.stop⟩, facts.pages⟩, facts.materialized⟩

/-- What a valid snapshot gives to the transitions. -/
theorem SnapshotValid.facts {creation : DatasetGenerationCreation} {plan : DatasetGenerationPlan}
    (valid : SnapshotValid creation plan) : ProgressFacts creation plan :=
  progressIsExact_iff.mp valid.progress

end Kurobara.Kernel
