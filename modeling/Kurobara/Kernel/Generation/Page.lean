import Kurobara.Kernel.Generation.Transitions

/-! # Generation pages

The page aggregate: one page of a generation, the Run that executes it, and the
evidence it collects. A page without effect evidence is `run_created`; the effect
threshold adds the effect evidence, the checkpoint adds the result evidence. Each
transition validates the page it is given and the page it builds
(`pageTransition`).
-/

namespace Kurobara.Kernel

/-- The states of a page. -/
inductive DatasetGenerationPageState where
  | runCreated
  | executing
  | committed
  | failed
  | ambiguous
  deriving DecidableEq, Repr

/-- A page of a generation. -/
structure DatasetGenerationPage where
  acceptedCount : Option ℤ
  aggregateVersion : ℤ
  artifactContentHash : Option ContentHash
  artifactId : Option ArtifactId
  attemptId : Option AttemptId
  committedAt : Option Instant
  checkpointHash : Option ContentHash
  costAmount : Option Amount
  costUnit : Option String
  createdAt : Instant
  generationId : DatasetGenerationId
  hasMore : Option Bool
  inputContentHash : ContentHash
  inputCursor : Option String
  inputId : String
  nextCursor : Option (Option String)
  operationKey : Option OperationKey
  pageSequence : ℤ
  providerKey : Option String
  duplicateCount : Option ℤ
  rejectedCount : Option ℤ
  reservationId : Option CostReservationId
  reservedAmount : Option Amount
  resultManifestId : Option ResultManifestId
  resultManifestHash : Option ContentHash
  routeKey : Option String
  routeSnapshotHash : Option ContentHash
  returnedCount : Option ℤ
  routingDecisionId : Option RoutingDecisionId
  runId : RunId
  runPlanId : RunPlanId
  sourcePartitionCompleted : Option Bool
  state : DatasetGenerationPageState
  stepRunId : Option StepRunId
  usageEntryId : Option UsageEntryId
  workspaceId : WorkspaceId
  deriving DecidableEq, Repr

inductive DatasetGenerationPageFailureCode where
  | evidenceInvalid
  | identityInvalid
  | stateInvalid
  deriving DecidableEq, Repr

def DatasetGenerationPageFailureCode.text : DatasetGenerationPageFailureCode → String
  | .evidenceInvalid => "evidence-invalid"
  | .identityInvalid => "identity-invalid"
  | .stateInvalid => "state-invalid"

structure DatasetGenerationPageFailure where
  code : DatasetGenerationPageFailureCode
  message : String
  deriving DecidableEq, Repr

/-! ## Validation -/

/-- Nothing is recorded of an effect. -/
def pageEffectEvidenceIsAbsent (page : DatasetGenerationPage) : Bool :=
  page.attemptId.isNone && page.costUnit.isNone && page.operationKey.isNone &&
    page.providerKey.isNone && page.reservationId.isNone && page.reservedAmount.isNone &&
    page.routeKey.isNone && page.routeSnapshotHash.isNone && page.routingDecisionId.isNone &&
    page.stepRunId.isNone

/-- The effect of the page is recorded. -/
def pageEffectEvidenceIsPresent (page : DatasetGenerationPage) : Bool :=
  page.attemptId.any (boundedText ·) && page.costUnit.any (boundedText · 64) &&
    page.operationKey.any (boundedText · 512) && page.providerKey.any (boundedText ·) &&
    page.reservationId.any (boundedText · 512) && page.reservedAmount.any isAmount &&
    page.routeKey.any (boundedText ·) && page.routeSnapshotHash.any contentHashIsValid &&
    page.routingDecisionId.any (boundedText · 512) && page.stepRunId.any (boundedText · 512)

/-- Nothing is recorded of a result. -/
def pageResultEvidenceIsAbsent (page : DatasetGenerationPage) : Bool :=
  page.acceptedCount.isNone && page.artifactContentHash.isNone && page.artifactId.isNone &&
    page.checkpointHash.isNone && page.committedAt.isNone && page.costAmount.isNone &&
    page.duplicateCount.isNone && page.hasMore.isNone && page.nextCursor.isNone &&
    page.rejectedCount.isNone && page.resultManifestHash.isNone &&
    page.resultManifestId.isNone && page.returnedCount.isNone &&
    page.sourcePartitionCompleted.isNone && page.usageEntryId.isNone

/-- More pages need a cursor and an open partition; the last page has neither. -/
def cursorIsCoherent (hasMore : Bool) (nextCursor : Option String)
    (sourcePartitionCompleted : Bool) : Bool :=
  if hasMore then nextCursor.any (boundedText ·) && !sourcePartitionCompleted
  else nextCursor.isNone && sourcePartitionCompleted

/-- The result of the page is recorded, and its counts fit. -/
def pageResultEvidenceIsPresent (page : DatasetGenerationPage) : Bool :=
  match page.acceptedCount, page.duplicateCount, page.rejectedCount, page.returnedCount,
    page.costAmount, page.reservedAmount, page.hasMore, page.nextCursor,
    page.sourcePartitionCompleted, page.committedAt with
  | some acceptedCount, some duplicateCount, some rejectedCount, some returnedCount,
    some costAmount, some reservedAmount, some hasMore, some nextCursor,
    some sourcePartitionCompleted, some committedAt =>
      nonNegativeSafeInteger acceptedCount && nonNegativeSafeInteger duplicateCount &&
        nonNegativeSafeInteger rejectedCount && nonNegativeSafeInteger returnedCount &&
        returnedCount == acceptedCount + duplicateCount + rejectedCount &&
        cursorIsCoherent hasMore nextCursor sourcePartitionCompleted &&
        page.artifactContentHash.any contentHashIsValid &&
          page.artifactId.any (boundedText · 512) &&
        page.checkpointHash.any contentHashIsValid && instantIsValid committedAt &&
        decide (page.createdAt ≤ committedAt) && isAmount costAmount &&
        !amountExceeds costAmount reservedAmount &&
        page.resultManifestHash.any contentHashIsValid &&
        page.resultManifestId.any (boundedText · 512) && page.usageEntryId.any (boundedText · 512)
  | _, _, _, _, _, _, _, _, _, _ => false

/-- The first page has no cursor, every later one has. -/
def pageCursorIsValid (page : DatasetGenerationPage) : Bool :=
  if page.pageSequence = 1 then page.inputCursor.isNone
  else page.inputCursor.any (boundedText · 4096)

/-- The identities and the sequence of the page are well formed. -/
def pageIdentityIsValid (page : DatasetGenerationPage) : Bool :=
  isSafeInteger page.pageSequence && decide (1 ≤ page.pageSequence) && pageCursorIsValid page &&
    boundedIdentity page.workspaceId && boundedIdentity page.generationId &&
    boundedText page.runPlanId 512 && boundedText page.runId 512 && boundedText page.inputId 512 &&
    contentHashIsValid page.inputContentHash && instantIsValid page.createdAt &&
    isSafeInteger page.aggregateVersion && decide (1 ≤ page.aggregateVersion)

/-- The version and evidence that each page state requires. -/
def pageEvidenceIsValid (page : DatasetGenerationPage) : Bool :=
  match page.state with
  | .runCreated => page.aggregateVersion == 1 && pageEffectEvidenceIsAbsent page &&
      pageResultEvidenceIsAbsent page
  | .executing | .failed | .ambiguous => decide (2 ≤ page.aggregateVersion) &&
      pageEffectEvidenceIsPresent page && pageResultEvidenceIsAbsent page
  | .committed => decide (3 ≤ page.aggregateVersion) && pageEffectEvidenceIsPresent page &&
      pageResultEvidenceIsPresent page

private def pageEvidenceFailure : DatasetGenerationPageState → DatasetGenerationPageFailure
  | .runCreated =>
      ⟨.stateInvalid, "A newly created page cannot carry effect or result evidence."⟩
  | .executing | .failed | .ambiguous =>
      ⟨.evidenceInvalid, "An active or ambiguous page requires " ++
      "exact effect evidence without a checkpoint."⟩
  | .committed =>
      ⟨.evidenceInvalid, "A committed page requires exact effect and checkpoint evidence."⟩

/-- The checks of `validateDatasetGenerationPageSnapshot`. -/
def pageIsValid (page : DatasetGenerationPage) : Bool :=
  pageIdentityIsValid page && pageEvidenceIsValid page

def validateDatasetGenerationPageSnapshot (page : DatasetGenerationPage) :
    Except DatasetGenerationPageFailure DatasetGenerationPage :=
  if !pageIdentityIsValid page then
    .error ⟨.identityInvalid,
      "A generation page requires exact bounded Run and input identities."⟩
  else if pageEvidenceIsValid page then .ok page
  else .error (pageEvidenceFailure page.state)

theorem validateDatasetGenerationPageSnapshot_ok {page result : DatasetGenerationPage} :
    validateDatasetGenerationPageSnapshot page = .ok result ↔
      result = page ∧ pageIsValid page = true := by
  unfold validateDatasetGenerationPageSnapshot pageIsValid
  by_cases identity : pageIdentityIsValid page = true <;>
    by_cases evidence : pageEvidenceIsValid page = true <;>
      simp [identity, evidence, eq_comm]

/-! ## Transitions -/

/-- Validate the page, require its state, build the next page, validate that. -/
def pageTransition (page : DatasetGenerationPage) (required : DatasetGenerationPageState)
    (message : String) (next : DatasetGenerationPage) :
    Except DatasetGenerationPageFailure DatasetGenerationPage :=
  match validateDatasetGenerationPageSnapshot page with
  | .error failure => .error failure
  | .ok _ =>
      if page.state == required then validateDatasetGenerationPageSnapshot next
      else .error ⟨.stateInvalid, message⟩

/-- An accepted transition starts in the required state and ends in a valid page. -/
theorem pageTransition_ok {page next result : DatasetGenerationPage}
    {required : DatasetGenerationPageState} {message : String} :
    pageTransition page required message next = .ok result ↔
      result = next ∧ pageIsValid page = true ∧ page.state = required ∧
        pageIsValid next = true := by
  unfold pageTransition
  constructor
  · intro accepted
    split at accepted
    · cases accepted
    · rename_i validated validatedEq
      split at accepted
      · rename_i inState
        obtain ⟨resultEq, nextValid⟩ := validateDatasetGenerationPageSnapshot_ok.mp accepted
        exact ⟨resultEq, (validateDatasetGenerationPageSnapshot_ok.mp validatedEq).2,
          by simpa using inState, nextValid⟩
      · cases accepted
  · rintro ⟨rfl, valid, inState, nextValid⟩
    rw [validateDatasetGenerationPageSnapshot_ok.mpr ⟨rfl, valid⟩]
    simp [inState, validateDatasetGenerationPageSnapshot_ok.mpr ⟨rfl, nextValid⟩]

/-- The input of `startDatasetGenerationPage`. -/
structure StartDatasetGenerationPageInput where
  attemptId : AttemptId
  costUnit : String
  operationKey : OperationKey
  providerKey : String
  reservationId : CostReservationId
  reservedAmount : Amount
  routeKey : String
  routeSnapshotHash : ContentHash
  routingDecisionId : RoutingDecisionId
  stepRunId : StepRunId
  deriving DecidableEq, Repr

/-- The page once its effect has started. -/
def pageStarted (page : DatasetGenerationPage) (input : StartDatasetGenerationPageInput) :
    DatasetGenerationPage :=
  { page with
    aggregateVersion := page.aggregateVersion + 1
    attemptId := some input.attemptId
    costUnit := some input.costUnit
    operationKey := some input.operationKey
    providerKey := some input.providerKey
    reservationId := some input.reservationId
    reservedAmount := some input.reservedAmount
    routeKey := some input.routeKey
    routeSnapshotHash := some input.routeSnapshotHash
    routingDecisionId := some input.routingDecisionId
    stepRunId := some input.stepRunId
    state := .executing }

def startDatasetGenerationPage (page : DatasetGenerationPage)
    (input : StartDatasetGenerationPageInput) :
    Except DatasetGenerationPageFailure DatasetGenerationPage :=
  pageTransition page .runCreated
    "Only a newly created generation page can cross the effect threshold." (pageStarted page input)

def pageMoved (page : DatasetGenerationPage) (state : DatasetGenerationPageState) :
    DatasetGenerationPage :=
  { page with aggregateVersion := page.aggregateVersion + 1, state := state }

def markDatasetGenerationPageAmbiguous (page : DatasetGenerationPage) :
    Except DatasetGenerationPageFailure DatasetGenerationPage :=
  pageTransition page .executing "Only an executing generation page can become ambiguous."
    (pageMoved page .ambiguous)

def markDatasetGenerationPageFailed (page : DatasetGenerationPage) :
    Except DatasetGenerationPageFailure DatasetGenerationPage :=
  pageTransition page .executing "Only an executing generation page can fail certainly."
    (pageMoved page .failed)

/-- The input of `commitDatasetGenerationPage`. -/
structure CommitDatasetGenerationPageInput where
  acceptedCount : ℤ
  artifactContentHash : ContentHash
  artifactId : ArtifactId
  checkpointHash : ContentHash
  committedAt : Instant
  costAmount : Amount
  duplicateCount : ℤ
  hasMore : Bool
  nextCursor : Option String
  rejectedCount : ℤ
  resultManifestHash : ContentHash
  resultManifestId : ResultManifestId
  returnedCount : ℤ
  sourcePartitionCompleted : Bool
  usageEntryId : UsageEntryId
  deriving DecidableEq, Repr

/-- The page once its artifact is recorded. -/
def pageCommitted (page : DatasetGenerationPage) (input : CommitDatasetGenerationPageInput) :
    DatasetGenerationPage :=
  { page with
    aggregateVersion := page.aggregateVersion + 1
    acceptedCount := some input.acceptedCount
    artifactContentHash := some input.artifactContentHash
    artifactId := some input.artifactId
    checkpointHash := some input.checkpointHash
    committedAt := some input.committedAt
    costAmount := some input.costAmount
    duplicateCount := some input.duplicateCount
    hasMore := some input.hasMore
    nextCursor := some input.nextCursor
    rejectedCount := some input.rejectedCount
    resultManifestHash := some input.resultManifestHash
    resultManifestId := some input.resultManifestId
    returnedCount := some input.returnedCount
    sourcePartitionCompleted := some input.sourcePartitionCompleted
    usageEntryId := some input.usageEntryId
    state := .committed }

def commitDatasetGenerationPage (page : DatasetGenerationPage)
    (input : CommitDatasetGenerationPageInput) :
    Except DatasetGenerationPageFailure DatasetGenerationPage :=
  pageTransition page .executing "Only an executing generation page can be checkpointed."
    (pageCommitted page input)

/-- A new page can start with any evidence of its effect. -/
theorem pageStarted_valid {page : DatasetGenerationPage} {input : StartDatasetGenerationPageInput}
    (valid : pageIsValid page = true) (created : page.state = .runCreated)
    (effect : pageEffectEvidenceIsPresent (pageStarted page input) = true) :
    pageIsValid (pageStarted page input) = true := by
  simp only [pageIsValid, pageIdentityIsValid, pageEvidenceIsValid, created, Bool.and_eq_true,
    decide_eq_true_eq, beq_iff_eq] at valid
  obtain ⟨⟨⟨⟨⟨⟨⟨⟨⟨⟨⟨⟨sequence, positive⟩, cursor⟩, workspace⟩, generation⟩, runPlan⟩, run⟩,
    inputId⟩,
    hash⟩, clock⟩, _⟩, _⟩, ⟨version, _⟩, result⟩ := valid
  have next : (pageStarted page input).aggregateVersion = 2 := by
    change page.aggregateVersion + 1 = 2
    omega
  have identity : pageIdentityIsValid (pageStarted page input) = true := by
    simp only [pageIdentityIsValid, next, Bool.and_eq_true]
    exact ⟨⟨⟨⟨⟨⟨⟨⟨⟨⟨⟨sequence, decide_eq_true positive⟩, cursor⟩, workspace⟩, generation⟩, runPlan⟩,
      run⟩, inputId⟩, hash⟩, clock⟩, by decide⟩, by decide⟩
  have evidence : pageEvidenceIsValid (pageStarted page input) = true := by
    change (decide (2 ≤ (pageStarted page input).aggregateVersion) &&
      pageEffectEvidenceIsPresent (pageStarted page input) && pageResultEvidenceIsAbsent page) =
        true
    simp [next, effect, result]
  simp only [pageIsValid, identity, evidence, Bool.and_self]

/-- The evidence checks of an executing page do not depend on its version beyond
the lower bound, so an executing page can always leave with its evidence. -/
theorem pageMoved_valid {page : DatasetGenerationPage} {state : DatasetGenerationPageState}
    (valid : pageIsValid page = true) (executing : page.state = .executing)
    (safe : isSafeInteger (page.aggregateVersion + 1) = true)
    (leaving : state = .failed ∨ state = .ambiguous) :
    pageIsValid (pageMoved page state) = true := by
  simp only [pageIsValid, pageIdentityIsValid, pageEvidenceIsValid, executing, Bool.and_eq_true,
    decide_eq_true_eq] at valid
  obtain ⟨⟨⟨⟨⟨⟨⟨⟨⟨⟨⟨⟨sequence, positive⟩, cursor⟩, workspace⟩, generation⟩, runPlan⟩, run⟩,
    inputId⟩,
    hash⟩, created⟩, _⟩, versioned⟩, ⟨started, effect⟩, result⟩ := valid
  have next : 1 ≤ page.aggregateVersion + 1 := by omega
  have evidence : 2 ≤ page.aggregateVersion + 1 := by omega
  have identity : pageIdentityIsValid (pageMoved page state) = true := by
    simp only [pageIdentityIsValid, Bool.and_eq_true]
    exact ⟨⟨⟨⟨⟨⟨⟨⟨⟨⟨⟨sequence, decide_eq_true positive⟩, cursor⟩, workspace⟩, generation⟩, runPlan⟩,
      run⟩, inputId⟩, hash⟩, created⟩, safe⟩, decide_eq_true next⟩
  have kept : pageEvidenceIsValid (pageMoved page state) = true := by
    have checked : (decide (2 ≤ page.aggregateVersion + 1) && pageEffectEvidenceIsPresent page &&
        pageResultEvidenceIsAbsent page) = true := by simp [evidence, effect, result]
    rcases leaving with rfl | rfl <;> exact checked
  simp only [pageIsValid, identity, kept, Bool.and_self]

/-- What a commit adds to an executing page: counts that agree, a coherent cursor, and
bounded evidence within the reservation. -/
structure CommitFits (page : DatasetGenerationPage) (input : CommitDatasetGenerationPageInput) :
    Prop where
  version : isSafeInteger (page.aggregateVersion + 1) = true
  acceptedCount : nonNegativeSafeInteger input.acceptedCount = true
  duplicateCount : nonNegativeSafeInteger input.duplicateCount = true
  rejectedCount : nonNegativeSafeInteger input.rejectedCount = true
  returnedCount : nonNegativeSafeInteger input.returnedCount = true
  counts : input.returnedCount = input.acceptedCount + input.duplicateCount + input.rejectedCount
  cursor : cursorIsCoherent input.hasMore input.nextCursor input.sourcePartitionCompleted = true
  artifactContentHash : contentHashIsValid input.artifactContentHash = true
  artifactId : boundedText input.artifactId 512 = true
  checkpointHash : contentHashIsValid input.checkpointHash = true
  clock : instantIsValid input.committedAt = true
  createdAt : page.createdAt ≤ input.committedAt
  cost : isAmount input.costAmount = true
  reservation : ∀ reserved, page.reservedAmount = some reserved →
    amountExceeds input.costAmount reserved = false
  resultManifestHash : contentHashIsValid input.resultManifestHash = true
  resultManifestId : boundedText input.resultManifestId 512 = true
  usageEntryId : boundedText input.usageEntryId 512 = true

/-- An executing page can be committed exactly when what is added fits. -/
theorem commitDatasetGenerationPage_iff {page : DatasetGenerationPage}
    {input : CommitDatasetGenerationPageInput} (valid : pageIsValid page = true)
    (executing : page.state = .executing) :
    (∃ next, commitDatasetGenerationPage page input = .ok next) ↔ CommitFits page input := by
  have checked := valid
  simp only [pageIsValid, pageIdentityIsValid, pageEvidenceIsValid, executing, Bool.and_eq_true,
    decide_eq_true_eq] at checked
  obtain ⟨⟨⟨⟨⟨⟨⟨⟨⟨⟨⟨⟨sequence, positive⟩, cursor⟩, workspace⟩, generation⟩, runPlan⟩, run⟩,
    inputId⟩,
    hash⟩, created⟩, _⟩, versioned⟩, ⟨started, effect⟩, _⟩ := checked
  have identity : pageIdentityIsValid (pageCommitted page input) = true ↔
      isSafeInteger (page.aggregateVersion + 1) = true := by
    have next : 1 ≤ page.aggregateVersion + 1 := by omega
    simp only [pageIdentityIsValid, Bool.and_eq_true]
    constructor
    · intro identified
      exact identified.1.2
    · intro safe
      exact ⟨⟨⟨⟨⟨⟨⟨⟨⟨⟨⟨sequence, decide_eq_true positive⟩, cursor⟩, workspace⟩, generation⟩,
        runPlan⟩,
        run⟩, inputId⟩, hash⟩, created⟩, safe⟩, decide_eq_true next⟩
  obtain ⟨reserved, reservation⟩ : ∃ reserved, page.reservedAmount = some reserved := by
    simp only [pageEffectEvidenceIsPresent, Bool.and_eq_true] at effect
    cases known : page.reservedAmount with
    | none => simp [known] at effect
    | some reserved => exact ⟨reserved, rfl⟩
  have evidence : pageEvidenceIsValid (pageCommitted page input) = true ↔
      pageResultEvidenceIsPresent (pageCommitted page input) = true := by
    have versioned : 3 ≤ page.aggregateVersion + 1 := by omega
    change (decide (3 ≤ page.aggregateVersion + 1) && pageEffectEvidenceIsPresent page &&
      pageResultEvidenceIsPresent (pageCommitted page input)) = true ↔ _
    simp [versioned, effect]
  have committed : (∃ next, commitDatasetGenerationPage page input = .ok next) ↔
      pageIsValid (pageCommitted page input) = true := by
    constructor
    · rintro ⟨next, accepted⟩
      exact (pageTransition_ok.mp accepted).2.2.2
    · intro nextValid
      exact ⟨_, pageTransition_ok.mpr ⟨rfl, valid, executing, nextValid⟩⟩
  rw [committed, pageIsValid, Bool.and_eq_true, identity, evidence]
  simp only [pageResultEvidenceIsPresent, pageCommitted, reservation, Bool.and_eq_true,
    decide_eq_true_eq, beq_iff_eq, Bool.not_eq_true', Option.any_some]
  constructor
  · rintro ⟨version, ⟨⟨⟨⟨⟨⟨⟨⟨⟨⟨⟨⟨⟨⟨⟨accepted, duplicate⟩, rejected⟩, returned⟩, counts⟩, cursor⟩,
      artifactHash⟩, artifactId⟩, checkpointHash⟩, clock⟩, createdAt⟩, cost⟩, afforded⟩,
      manifestHash⟩, manifestId⟩, usageEntryId⟩⟩
    refine ⟨version, accepted, duplicate, rejected, returned, counts, cursor, artifactHash,
      artifactId, checkpointHash, clock, createdAt, cost, ?_, manifestHash, manifestId,
      usageEntryId⟩
    intro known same
    rw [reservation] at same
    cases same
    exact afforded
  · intro fits
    exact ⟨fits.version, ⟨⟨⟨⟨⟨⟨⟨⟨⟨⟨⟨⟨⟨⟨⟨fits.acceptedCount, fits.duplicateCount⟩,
      fits.rejectedCount⟩, fits.returnedCount⟩, fits.counts⟩, fits.cursor⟩,
      fits.artifactContentHash⟩, fits.artifactId⟩, fits.checkpointHash⟩, fits.clock⟩,
      fits.createdAt⟩, fits.cost⟩, fits.reservation reserved reservation⟩,
      fits.resultManifestHash⟩, fits.resultManifestId⟩, fits.usageEntryId⟩⟩

end Kurobara.Kernel
