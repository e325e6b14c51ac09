import Kurobara.Application.CheckpointProof

/-! # Checkpointing a generation page

`checkpointInUnitOfWork`: the checkpoint of the page that the generation's page
counter names. It projects the proof of the page Run onto page and generation: an
ambiguous Run makes both ambiguous, a failed Run fails the generation or ends its
stop, and a successful Run commits the page with its records.
-/

namespace Kurobara.Application

open Kernel Persistence

inductive CheckpointFailureCode where
  | artifactInvalid
  | checkpointConflict
  | generationPlanNotFound
  | generationProofInvalid
  | pageNotFound
  | runProofInvalid
  deriving DecidableEq, Repr

structure CheckpointFailure where
  code : CheckpointFailureCode
  message : String
  domainCode : Option String
  deriving DecidableEq, Repr

inductive CheckpointStatus where
  | ambiguous
  | cancelled
  | checkpointed
  | failed
  | pending
  | unchanged
  deriving DecidableEq, Repr

structure CheckpointSuccess where
  page : DatasetGenerationPage
  status : CheckpointStatus
  deriving DecidableEq, Repr

abbrev CheckpointResult := Except CheckpointFailure CheckpointSuccess

/-- A generated record with its place in the page and in the dataset. -/
structure GeneratedRecord where
  candidatePosition : ℕ
  contentHash : ContentHash
  pageSequence : ℤ
  record : DatasetRecord
  recordOrdinal : ℤ
  deriving DecidableEq, Repr

/-- The evidence that one record came from. -/
structure GeneratedRecordLineage where
  artifactId : ArtifactId
  attemptId : AttemptId
  candidatePosition : ℕ
  operationKey : OperationKey
  pageSequence : ℤ
  providerIdentity : Option ContactProviderIdentity
  recordId : RecordId
  recordOrdinal : ℤ
  reservationId : CostReservationId
  resultManifestId : ResultManifestId
  routingDecisionId : RoutingDecisionId
  runId : RunId
  stepRunId : StepRunId
  usageEntryId : UsageEntryId
  source : Option PageArtifactSource
  deriving DecidableEq, Repr

/-- The rows of one generation with the records of its dataset. -/
structure CheckpointRows where
  generation : GenerationRows
  records : List GeneratedRecord
  lineage : List GeneratedRecordLineage

/-- The clock reading of the transaction and the content hash that the database
computes over the records of the dataset. -/
structure CheckpointEnvironment where
  now : Instant
  materializationContentHash : List GeneratedRecord → ContentHash

namespace CheckpointRows

private def findExistingContentHashes (rows : CheckpointRows) (hashes : List ContentHash) :
    List ContentHash :=
  (rows.records.map GeneratedRecord.contentHash).filter hashes.contains

/-- A record identity is stored once in a dataset. -/
def appendRecordsAndLineage (rows : CheckpointRows) (records : List GeneratedRecord)
    (lineage : List GeneratedRecordLineage) : Except PersistenceError CheckpointRows :=
  let identities := (rows.records ++ records).map fun known => known.record.recordId
  if identities.Nodup then
    .ok { rows with records := rows.records ++ records, lineage := rows.lineage ++ lineage }
  else .error .immutableRecordConflict

def updateGeneration (rows : CheckpointRows) (creation : DatasetGenerationCreation) :
    CheckpointRows :=
  { rows with generation := rows.generation.updateGeneration creation }

def updatePage (rows : CheckpointRows) (page : DatasetGenerationPage) : CheckpointRows :=
  { rows with generation := rows.generation.updatePage page }

end CheckpointRows

/-- What a checkpoint loads before any proof. -/
structure CheckpointContext where
  generation : DatasetGenerationCreation
  page : DatasetGenerationPage
  plan : DatasetGenerationPlan

def checkpointFailure (code : CheckpointFailureCode) (message : String)
    (domainCode : Option String) : CheckpointFailure :=
  ⟨code, message, domainCode⟩

/-- A transition of the generation that the kernel refused. -/
def generationProofInvalid (failure : DatasetGenerationCreationFailure) : CheckpointFailure :=
  checkpointFailure .generationProofInvalid failure.message (some failure.code.text)

/-- A transition of the page that the kernel refused. -/
def pageProofInvalid (failure : DatasetGenerationPageFailure) : CheckpointFailure :=
  checkpointFailure .generationProofInvalid failure.message (some failure.code.text)

/-- The plan, the valid generation and its current page. -/
def loadCheckpointContext (rows : GenerationRows) : Except CheckpointFailure CheckpointContext :=
  match rows.storedPlan with
  | none => .error (checkpointFailure .generationPlanNotFound
      "The immutable generation plan does not exist." none)
  | some plan =>
  match validateDatasetGenerationSnapshot rows.creation plan with
  | .error failure => .error (generationProofInvalid failure)
  | .ok _ =>
  match rows.loadPage rows.creation.generation.counters.pages with
  | none => .error (checkpointFailure .pageNotFound "The active page does not exist." none)
  | some page => .ok ⟨rows.creation, page, plan⟩

/-- The checkpoint works on the page at the page counter. -/
theorem loadCheckpointContext_loaded {rows : GenerationRows} {plan : DatasetGenerationPlan}
    {page : DatasetGenerationPage} (stored : rows.storedPlan = some plan)
    (valid : SnapshotValid rows.creation plan)
    (loaded : rows.loadPage rows.creation.generation.counters.pages = some page) :
    loadCheckpointContext rows = .ok ⟨rows.creation, page, plan⟩ := by
  simp [loadCheckpointContext, stored, valid.validate, loaded]

/-! ## Ambiguous and failed Runs -/

/-- An ambiguous page Run makes the page and the generation ambiguous. -/
def projectAmbiguousProof (rows : CheckpointRows) (context : CheckpointContext) :
    CheckpointResult × CheckpointRows :=
  if context.page.state == .committed then
    (.error (checkpointFailure .checkpointConflict "A committed page cannot become ambiguous."
      none), rows)
  else
    match markDatasetGenerationAmbiguous context.generation context.plan with
    | .error failure => (.error (generationProofInvalid failure), rows)
    | .ok marked =>
    match markDatasetGenerationPageAmbiguous context.page with
    | .error failure => (.error (pageProofInvalid failure), rows)
    | .ok markedPage =>
        (.ok ⟨markedPage, .ambiguous⟩, (rows.updateGeneration marked).updatePage markedPage)

/-- `reason.slice(0, 128) || "page-failed"`. -/
def failureCompletionReason (reason : String) : String :=
  let bounded := reason.take 128
  if bounded.isEmpty then "page-failed" else bounded.toString

/-- The generation after a certain failure of its page. -/
def generationAfterPageFailure (context : CheckpointContext) (now : Instant) (reason : String) :
    Except DatasetGenerationCreationFailure DatasetGenerationCreation :=
  if context.generation.generation.state == .stopping then
    cancelDatasetGenerationAfterStop context.generation context.plan now
  else
    failDatasetGeneration context.generation context.plan ⟨now, failureCompletionReason reason⟩

/-- A failed page Run ends its page, then the generation by its stop or as failed. -/
def projectFailedProof (environment : CheckpointEnvironment) (rows : CheckpointRows)
    (context : CheckpointContext) (reason : String) : CheckpointResult × CheckpointRows :=
  match generationAfterPageFailure context environment.now reason with
  | .error failure => (.error (generationProofInvalid failure), rows)
  | .ok failed =>
  match markDatasetGenerationPageFailed context.page with
  | .error failure => (.error (pageProofInvalid failure), rows)
  | .ok failedPage =>
      (.ok ⟨failedPage,
          if context.generation.generation.state == .stopping then .cancelled else .failed⟩,
        (rows.updateGeneration failed).updatePage failedPage)

/-! ## Successful Runs -/

section Success

variable {Value : Type} (contract : PageContract Value) (environment : CheckpointEnvironment)
  (rows : CheckpointRows) (context : CheckpointContext) (proof : SuccessfulPageRun Value)

/-- The failure of a proof that does not fit its page. -/
def proofFailure (page : DatasetGenerationPage) (code : CheckpointFailureCode)
    (committed fresh : String) : CheckpointFailure :=
  if page.state == .committed then checkpointFailure .checkpointConflict committed none
  else checkpointFailure code fresh none

/-- The artifact of a page is parsed before its Run is compared with the page. -/
def validateSuccessfulProof :
    Except CheckpointFailure (DatasetGenerationPageArtifact × ContentHash) :=
  match contract.parsePageArtifact proof.artifactValue context.plan with
  | none => .error (proofFailure context.page .artifactInvalid
      "The committed page diverges from its durable artifact."
      "The durable page artifact does not satisfy the exact page contract.")
  | some parsed =>
      if successfulProofIsExact contract context.page context.plan context.generation proof
        parsed then
        .ok (parsed, contract.checkpointHash parsed proof)
      else .error (proofFailure context.page .runProofInvalid
        "The committed page diverges from its canonical Run proof."
        ("The durable Run proof does not bind the page, artifact, route, usage, and " ++
          "manifest."))

/-- The items of a page that are not in the dataset yet. -/
def acceptedByPage (parsed : DatasetGenerationPageArtifact) : List (ℕ × PageArtifactItem) :=
  acceptedItems
    (rows.findExistingContentHashes (parsed.items.map PageArtifactItem.contentHash)) 1 parsed.items

/-- The counts and the cost of a page, as the generation takes them. -/
def checkpointInput (parsed : DatasetGenerationPageArtifact) :
    CheckpointDatasetGenerationPageProgressInput :=
  let accepted := acceptedByPage rows parsed
  { accepted := accepted.length
    costAmount := proof.usage.amount
    costUnit := proof.usage.unit
    duplicates := (parsed.items.length : ℤ) - accepted.length
    pageSequence := context.page.pageSequence
    providerKey := proof.routingDecision.effectAdapterKey
    rejected := 0
    returned := parsed.items.length }

/-- The generation right after the progress of a page. -/
def checkpointedGeneration (parsed : DatasetGenerationPageArtifact) : DatasetGenerationCreation :=
  pageProgressCheckpointed context.generation (checkpointInput rows context proof parsed)

/-- The new records, numbered behind those of the generation. -/
def recordWrites (parsed : DatasetGenerationPageArtifact) : List GeneratedRecord :=
  (acceptedByPage rows parsed).mapIdx fun index accepted => {
    candidatePosition := accepted.1
    contentHash := accepted.2.contentHash
    pageSequence := context.page.pageSequence
    record := accepted.2.record
    recordOrdinal := context.generation.generation.counters.accepted + index + 1 }

/-- Where each new record came from. -/
def lineageWrites (parsed : DatasetGenerationPageArtifact) : List GeneratedRecordLineage :=
  (acceptedByPage rows parsed).mapIdx fun index accepted => {
    artifactId := proof.artifact.artifactId
    attemptId := proof.attempt.attemptId
    candidatePosition := accepted.1
    operationKey := proof.attempt.operationKey
    pageSequence := context.page.pageSequence
    providerIdentity := accepted.2.providerIdentity
    recordId := accepted.2.record.recordId
    recordOrdinal := context.generation.generation.counters.accepted + index + 1
    reservationId := proof.usage.reservationId
    resultManifestId := proof.manifest.resultManifestId
    routingDecisionId := proof.routingDecision.routingDecisionId
    runId := proof.run.runId
    stepRunId := proof.stepRun.stepRunId
    usageEntryId := proof.usage.usageEntryId
    source := accepted.2.source }

/-- The evidence with which the page is committed. -/
def commitInput (parsed : DatasetGenerationPageArtifact) (checkpointHash : ContentHash) :
    CommitDatasetGenerationPageInput :=
  let accepted := acceptedByPage rows parsed
  { acceptedCount := accepted.length
    artifactContentHash := proof.artifact.contentHash
    artifactId := proof.artifact.artifactId
    checkpointHash := checkpointHash
    committedAt := environment.now
    costAmount := proof.usage.amount
    duplicateCount := (parsed.items.length : ℤ) - accepted.length
    hasMore := parsed.hasMore
    nextCursor := parsed.nextCursor
    rejectedCount := 0
    resultManifestHash := proof.manifest.manifestHash
    resultManifestId := proof.manifest.resultManifestId
    returnedCount := parsed.items.length
    sourcePartitionCompleted := parsed.sourcePartitionCompleted
    usageEntryId := proof.usage.usageEntryId }

/-- The checkpointed generation has used up one of its caps. -/
def capsReached (generation : DatasetGeneration) (plan : DatasetGenerationPlan) : Bool :=
  decide (plan.limits .maxPages ≤ generation.counters.pages) ||
    decide (plan.limits .maxCalls ≤ generation.counters.calls) ||
    decide (plan.limits .maxResults ≤ generation.counters.returned) ||
    decide (datasetGenerationAcceptedRecordLimit plan ≤ generation.counters.accepted) ||
    decide (plan.hardExecutionCap ≤ generation.cost.spent)

private def completionInput (capped : Bool) (contentHash : ContentHash) :
    CompleteDatasetGenerationInput where
  completedAt := environment.now
  completionReason := if capped then .capsReached else .sourceCompleted
  contentHash := contentHash
  coverageStatus := if capped then .bounded else .completeForDeclaredSource

/-- What follows the checkpoint of the generation: the end of its stop, its completion,
or another page. -/
def generationAfterCheckpoint (checkpoint : DatasetGenerationCreation) (hasMore : Bool)
    (contentHash : ContentHash) :
    Except DatasetGenerationCreationFailure DatasetGenerationCreation :=
  let capped := capsReached checkpoint.generation context.plan
  if checkpoint.generation.state == .stopping then
    cancelDatasetGenerationAfterStop checkpoint context.plan environment.now
  else if !hasMore || capped then
    completeDatasetGeneration checkpoint context.plan
      (completionInput environment capped contentHash)
  else .ok checkpoint

/-- The records are appended before the page is committed, and stay appended when a
later transition is refused. -/
def persistSuccessfulCheckpoint (parsed : DatasetGenerationPageArtifact)
    (checkpointHash : ContentHash) : Except PersistenceError (CheckpointResult × CheckpointRows) :=
  match checkpointDatasetGenerationPageProgress context.generation context.plan
    (checkpointInput rows context proof parsed) with
  | .error failure => .ok (.error (generationProofInvalid failure), rows)
  | .ok checkpoint =>
  match rows.appendRecordsAndLineage (recordWrites rows context parsed)
    (lineageWrites rows context proof parsed) with
  | .error failure => .error failure
  | .ok appended =>
  match commitDatasetGenerationPage context.page
    (commitInput environment rows proof parsed checkpointHash) with
  | .error failure => .ok (.error (pageProofInvalid failure), appended)
  | .ok committedPage =>
  match generationAfterCheckpoint environment context checkpoint parsed.hasMore
    (environment.materializationContentHash appended.records) with
  | .error failure => .ok (.error (generationProofInvalid failure), appended)
  | .ok generation =>
      .ok (.ok ⟨committedPage,
          if checkpoint.generation.state == .stopping then .cancelled else .checkpointed⟩,
        ((appended.updateGeneration checkpoint).updateGeneration generation).updatePage
          committedPage)

/-- A page that is committed already carries this very evidence. -/
def committedPageMatches (parsed : DatasetGenerationPageArtifact) (checkpointHash : ContentHash) :
    Bool :=
  let page := context.page
  page.state == .committed &&
    (page.acceptedCount.any fun accepted =>
      accepted + page.duplicateCount.getD 0 == (parsed.items.length : ℤ)) &&
    page.artifactId == some proof.artifact.artifactId &&
    page.artifactContentHash == some proof.artifact.contentHash &&
    page.attemptId == some proof.attempt.attemptId &&
    page.costAmount == some proof.usage.amount && page.costUnit == some proof.usage.unit &&
    page.checkpointHash == some checkpointHash && page.duplicateCount.isSome &&
    page.hasMore == some parsed.hasMore && page.nextCursor == some parsed.nextCursor &&
    page.operationKey == some proof.attempt.operationKey &&
    page.providerKey == some proof.routingDecision.effectAdapterKey &&
    page.reservationId == some proof.usage.reservationId &&
    page.reservedAmount == some proof.attempt.reservedAmount &&
    page.resultManifestId == some proof.manifest.resultManifestId &&
    page.resultManifestHash == some proof.manifest.manifestHash && page.rejectedCount == some 0 &&
    page.returnedCount == some (parsed.items.length : ℤ) &&
    page.routingDecisionId == some proof.routingDecision.routingDecisionId &&
    page.routeKey == some proof.routingDecision.routeKey &&
    page.routeSnapshotHash == some proof.routingDecision.routeSnapshotHash &&
    page.sourcePartitionCompleted == some parsed.sourcePartitionCompleted &&
    page.stepRunId == some proof.stepRun.stepRunId &&
    page.usageEntryId == some proof.usage.usageEntryId

/-- A committed page is reflected in its generation and materialization. -/
def committedGenerationMatches (parsed : DatasetGenerationPageArtifact) : Bool :=
  let generation := context.generation.generation
  let materialization := context.generation.materialization
  let page := context.page
  (generation.state == .running || generation.state == .completed ||
      generation.state == .cancelled) &&
    generation.lastPageSequence == some page.pageSequence &&
    generation.lockedProvider == some proof.routingDecision.effectAdapterKey &&
    decide (page.acceptedCount.getD 0 ≤ generation.counters.accepted) &&
    generation.counters.calls == page.pageSequence &&
    decide (page.duplicateCount.getD 0 ≤ generation.counters.duplicates) &&
    generation.counters.pages == page.pageSequence &&
    decide (page.rejectedCount.getD 0 ≤ generation.counters.rejected) &&
    decide ((parsed.items.length : ℤ) ≤ generation.counters.returned) &&
    generation.cost.reserved == 0 && decide (proof.usage.amount ≤ generation.cost.spent) &&
    generation.cost.unit == proof.usage.unit &&
    materialization.recordCount == generation.counters.accepted &&
    materialization.rejectedCount == generation.counters.rejected

private def replayCommittedPage (parsed : DatasetGenerationPageArtifact)
    (checkpointHash : ContentHash) :
    CheckpointResult :=
  if committedPageMatches context proof parsed checkpointHash &&
      committedGenerationMatches context proof parsed then .ok ⟨context.page, .unchanged⟩
  else .error (checkpointFailure .checkpointConflict
    "The durable checkpoint diverges from the canonical Run proof." none)

/-- A committed page is answered again; any other is checked and persisted. -/
def processSuccessfulProof : Except PersistenceError (CheckpointResult × CheckpointRows) :=
  match validateSuccessfulProof contract context proof with
  | .error failure => .ok (.error failure, rows)
  | .ok (parsed, checkpointHash) =>
      match context.page.state with
      | .committed => .ok (replayCommittedPage context proof parsed checkpointHash, rows)
      | .executing => persistSuccessfulCheckpoint environment rows context proof parsed
          checkpointHash
      | _ => .ok (.error (checkpointFailure .checkpointConflict
          "Only an executing page can consume a successful Run proof." none), rows)

variable {environment rows context proof} in
/-- A checkpoint that no transition refuses writes its rows. -/
theorem persistSuccessfulCheckpoint_persisted {parsed : DatasetGenerationPageArtifact}
    {checkpointHash : ContentHash} {checkpoint generation : DatasetGenerationCreation}
    {appended : CheckpointRows} {committedPage : DatasetGenerationPage}
    (progressed : checkpointDatasetGenerationPageProgress context.generation context.plan
      (checkpointInput rows context proof parsed) = .ok checkpoint)
    (recorded : rows.appendRecordsAndLineage (recordWrites rows context parsed)
      (lineageWrites rows context proof parsed) = .ok appended)
    (committed : commitDatasetGenerationPage context.page
      (commitInput environment rows proof parsed checkpointHash) = .ok committedPage)
    (ended : generationAfterCheckpoint environment context checkpoint parsed.hasMore
      (environment.materializationContentHash appended.records) = .ok generation) :
    persistSuccessfulCheckpoint environment rows context proof parsed checkpointHash =
      .ok (.ok ⟨committedPage,
          if checkpoint.generation.state == .stopping then .cancelled else .checkpointed⟩,
        ((appended.updateGeneration checkpoint).updateGeneration generation).updatePage
          committedPage) := by
  simp only [persistSuccessfulCheckpoint, progressed, recorded, committed, ended]

variable {environment rows context proof} in
theorem persistSuccessfulCheckpoint_generation {parsed : DatasetGenerationPageArtifact}
    {checkpointHash : ContentHash} {success : CheckpointSuccess} {after : CheckpointRows}
    (persisted : persistSuccessfulCheckpoint environment rows context proof parsed checkpointHash =
      .ok (.ok success, after)) :
    ∃ contentHash, generationAfterCheckpoint environment context
      (checkpointedGeneration rows context proof parsed) parsed.hasMore contentHash =
        .ok after.generation.creation := by
  unfold persistSuccessfulCheckpoint at persisted
  split at persisted
  · cases persisted
  rename_i checkpoint progressed
  obtain ⟨rfl, _⟩ := guardedTransition_ok.mp progressed
  split at persisted
  · cases persisted
  rename_i appended _
  split at persisted
  · cases persisted
  split at persisted
  · cases persisted
  rename_i generation generationEq
  cases persisted
  exact ⟨_, generationEq⟩

end Success

/-! ## The checkpoint -/

section Checkpoint

variable {Value : Type} (contract : PageContract Value) (environment : CheckpointEnvironment)
  (rows : CheckpointRows)
  (readRunProof : DatasetGenerationPage →
    Except PersistenceError (DatasetGenerationPageRunProof Value))

/-- Project the proof of the page Run onto the active page and its generation. -/
def projectRunProof (context : CheckpointContext) :
    DatasetGenerationPageRunProof Value →
      Except PersistenceError (CheckpointResult × CheckpointRows)
  | .pending =>
      if context.page.state == .committed then
        .ok (.error (checkpointFailure .checkpointConflict
          "A committed page lost its durable Run proof." none), rows)
      else .ok (.ok ⟨context.page, .pending⟩, rows)
  | .ambiguous => .ok (projectAmbiguousProof rows context)
  | .failed reason => .ok (projectFailedProof environment rows context reason)
  | .succeeded proof => processSuccessfulProof contract environment rows context proof

/-- One checkpoint of the page after the last committed one. -/
def checkpointInUnitOfWork : Except PersistenceError (CheckpointResult × CheckpointRows) :=
  match loadCheckpointContext rows.generation with
  | .error failure => .ok (.error failure, rows)
  | .ok context =>
  match context.page.state with
  | .ambiguous => .ok (.ok ⟨context.page, .ambiguous⟩, rows)
  | .failed => .ok (.ok ⟨context.page, .failed⟩, rows)
  | _ =>
  match readRunProof context.page with
  | .error failure => .error failure
  | .ok proof => projectRunProof contract environment rows context proof

variable {contract environment rows readRunProof} in
/-- The checkpoint of an executing page whose Run succeeded commits what its proof binds. -/
theorem checkpointInUnitOfWork_succeeded {context : CheckpointContext}
    {proof : SuccessfulPageRun Value} {parsed : DatasetGenerationPageArtifact}
    (loaded : loadCheckpointContext rows.generation = .ok context)
    (executing : context.page.state = .executing)
    (read : readRunProof context.page = .ok (.succeeded proof))
    (accepted : contract.parsePageArtifact proof.artifactValue context.plan = some parsed)
    (exact : successfulProofIsExact contract context.page context.plan context.generation proof
      parsed = true) :
    checkpointInUnitOfWork contract environment rows readRunProof =
      persistSuccessfulCheckpoint environment rows context proof parsed
        (contract.checkpointHash parsed proof) := by
  simp [checkpointInUnitOfWork, loaded, executing, read, projectRunProof, processSuccessfulProof,
    validateSuccessfulProof, accepted, exact]

end Checkpoint

end Kurobara.Application
