import Kurobara.Application.GenerationActivity
import Kurobara.Application.ParsePageArtifact
import Kurobara.Kernel.Generation.Ending

/-! # When a refused checkpoint leaves no row

`persistSuccessfulCheckpoint` appends the records of a page before the page is committed
and the generation is moved on. Of the checks that follow the append, the artifact and the
proof of the Run leave a few open: the length of the cursor, the clock, and bounds of
versions and identities. Exactly when these fit, a refused checkpoint leaves the rows as
they were.
-/

namespace Kurobara.Application

open Kernel Persistence

/-! ## What the parser guarantees -/

section Parser

variable {evidence : ContentEvidence NormalizedJsonValue} {plan : DatasetGenerationPlan}
  {value : NormalizedJsonValue} {parsed : DatasetGenerationPageArtifact}

private theorem parsePageArtifact_cursor
    (accepted : parsePageArtifact evidence plan value = some parsed) :
    artifactCursorIsCoherent parsed.hasMore parsed.nextCursor parsed.sourcePartitionCompleted =
      true := by
  unfold parsePageArtifact at accepted
  split at accepted
  · cases accepted
  simp only [Option.bind_eq_bind, Option.bind_eq_some_iff] at accepted
  obtain ⟨properties, _, version, _, hasMore, _, completed, _, nextCursor, _, entries, _,
    accepted⟩ := accepted
  split at accepted
  · cases accepted
  rename_i coherent
  simp only [Option.bind_eq_some_iff] at accepted
  obtain ⟨items, _, accepted⟩ := accepted
  split at accepted
  · cases accepted
    simp only [Bool.or_eq_true, not_or, Bool.not_eq_true', Bool.not_eq_false] at coherent
    exact coherent.2
  · cases accepted

/-- Of the cursor that a commit requires, the parser leaves its length open. -/
theorem cursorIsCoherent_iff {hasMore sourcePartitionCompleted : Bool}
    {nextCursor : Option String}
    (coherent : artifactCursorIsCoherent hasMore nextCursor sourcePartitionCompleted = true) :
    cursorIsCoherent hasMore nextCursor sourcePartitionCompleted = true ↔
      ∀ cursor, nextCursor = some cursor → codePointLength cursor ≤ 255 := by
  cases hasMore with
  | false =>
      simp only [artifactCursorIsCoherent, Bool.false_eq_true, if_false, Bool.and_eq_true,
        Option.isNone_iff_eq_none] at coherent
      simp [cursorIsCoherent, coherent.1, coherent.2]
  | true =>
      simp only [artifactCursorIsCoherent, if_true, Bool.and_eq_true] at coherent
      cases nextCursor with
      | none => simp at coherent
      | some cursor =>
          simp only [Option.any_some] at coherent
          simp [cursorIsCoherent, boundedText, coherent.1, coherent.2]

end Parser

/-! ## The canonical hashes -/

/-- How artifacts, manifests and records are hashed: each hash is a content hash. -/
structure CanonicalPageHashes where
  evidence : ContentEvidence NormalizedJsonValue
  authorityHash : AuthorityEnvelope → ContentHash
  runPlanHash : RunPlan → ContentHash
  manifestHash : ResultManifest → ContentHash
  checkpointHash : DatasetGenerationPageArtifact → SuccessfulPageRun NormalizedJsonValue →
    ContentHash
  materializationContentHash : List GeneratedRecord → ContentHash
  evidence_valid : ∀ value, contentHashIsValid (evidence.contentHash value) = true
  manifestHash_valid : ∀ manifest, contentHashIsValid (manifestHash manifest) = true
  checkpointHash_valid : ∀ parsed proof, contentHashIsValid (checkpointHash parsed proof) = true
  materializationContentHash_valid : ∀ records,
    contentHashIsValid (materializationContentHash records) = true

/-- The contract of a page with the parser of its artifact. -/
def CanonicalPageHashes.contract (hashes : CanonicalPageHashes) :
    PageContract NormalizedJsonValue where
  parsePageArtifact value plan := parsePageArtifact hashes.evidence plan value
  evidence := hashes.evidence
  authorityHash := hashes.authorityHash
  runPlanHash := hashes.runPlanHash
  manifestHash := hashes.manifestHash
  checkpointHash := hashes.checkpointHash

def CanonicalPageHashes.environment (hashes : CanonicalPageHashes) (now : Instant) :
    CheckpointEnvironment :=
  ⟨now, hashes.materializationContentHash⟩

/-! ## The stored state -/

section Atomicity

variable {hashes : CanonicalPageHashes} {now : Instant} {rows : CheckpointRows}
  {context : CheckpointContext} {proof : SuccessfulPageRun NormalizedJsonValue}
  {parsed : DatasetGenerationPageArtifact}

/-- A stored executing page, with a proof that its artifact and its Run are exact. -/
structure PageIsProven (hashes : CanonicalPageHashes) (rows : CheckpointRows)
    (context : CheckpointContext) (proof : SuccessfulPageRun NormalizedJsonValue)
    (parsed : DatasetGenerationPageArtifact) : Prop where
  loaded : loadCheckpointContext rows.generation = .ok context
  pageValid : pageIsValid context.page = true
  executing : context.page.state = .executing
  accepted : parsePageArtifact hashes.evidence context.plan proof.artifactValue = some parsed
  exact : successfulProofIsExact hashes.contract context.page context.plan context.generation proof
    parsed = true

/-- The writes of a proven page, under the hashes of this development. -/
def persistCheckpoint (hashes : CanonicalPageHashes) (now : Instant) (rows : CheckpointRows)
    (context : CheckpointContext) (proof : SuccessfulPageRun NormalizedJsonValue)
    (parsed : DatasetGenerationPageArtifact) :
    Except PersistenceError (CheckpointResult × CheckpointRows) :=
  persistSuccessfulCheckpoint (hashes.environment now) rows context proof parsed
    (hashes.checkpointHash parsed proof)

/-- The progress of the page is admitted, and its records can be appended. -/
structure PageIsRecordable (rows : CheckpointRows) (context : CheckpointContext)
    (proof : SuccessfulPageRun NormalizedJsonValue) (parsed : DatasetGenerationPageArtifact)
    (appended : CheckpointRows) : Prop where
  progressed : checkpointDatasetGenerationPageProgress context.generation context.plan
    (checkpointInput rows context proof parsed) =
      .ok (checkpointedGeneration rows context proof parsed)
  appended : rows.appendRecordsAndLineage (recordWrites rows context parsed)
    (lineageWrites rows context proof parsed) = .ok appended

/-- What the artifact and the proof leave open of the commit of their page. -/
structure PageCommitFits (now : Instant) (context : CheckpointContext)
    (proof : SuccessfulPageRun NormalizedJsonValue) (parsed : DatasetGenerationPageArtifact) :
    Prop where
  cursor : ∀ cursor, parsed.nextCursor = some cursor → codePointLength cursor ≤ 255
  clock : instantIsValid now = true
  createdAt : context.page.createdAt ≤ now
  version : isSafeInteger (context.page.aggregateVersion + 1) = true
  artifactId : boundedText proof.artifact.artifactId 512 = true
  resultManifestId : boundedText proof.manifest.resultManifestId 512 = true
  usageEntryId : boundedText proof.usage.usageEntryId 512 = true

/-- What is left open of the end of the generation, when its page is the last one, reaches a
cap or completes a stop. -/
structure EndingFits (now : Instant) (rows : CheckpointRows) (context : CheckpointContext)
    (proof : SuccessfulPageRun NormalizedJsonValue) (parsed : DatasetGenerationPageArtifact) :
    Prop where
  stopped : context.generation.generation.state = .stopping →
    ∀ stop, context.generation.generation.stop = some stop → stop.requestedAt ≤ now
  completed : context.generation.generation.state = .running →
    parsed.hasMore = false ∨
        capsReached (checkpointedGeneration rows context proof parsed).generation context.plan =
          true →
      context.generation.generation.createdAt ≤ now
  revision : context.generation.generation.state = .stopping ∨ parsed.hasMore = false ∨
      capsReached (checkpointedGeneration rows context proof parsed).generation context.plan =
        true →
    context.generation.materialization.revision + 1 < maxSafeInteger

/-- What is left open of a checkpoint, when there is a record to append. -/
def CheckpointFits (now : Instant) (rows : CheckpointRows) (context : CheckpointContext)
    (proof : SuccessfulPageRun NormalizedJsonValue) (parsed : DatasetGenerationPageArtifact) :
    Prop :=
  (∃ appended, PageIsRecordable rows context proof parsed appended) →
    acceptedByPage rows parsed = [] ∨
      PageCommitFits now context proof parsed ∧ EndingFits now rows context proof parsed

/-- A refused checkpoint, whose transaction commits, leaves the rows as they were. -/
def RefusedCheckpointLeavesRows (hashes : CanonicalPageHashes) (now : Instant)
    (rows : CheckpointRows) (context : CheckpointContext)
    (proof : SuccessfulPageRun NormalizedJsonValue) (parsed : DatasetGenerationPageArtifact) :
    Prop :=
  ∀ failure after, persistCheckpoint hashes now rows context proof parsed =
    .ok (.error failure, after) → after = rows

/-! ## The commit -/

section Recordable

variable {appended : CheckpointRows}

theorem PageIsRecordable.admitted
    (recordable : PageIsRecordable rows context proof parsed appended) :
    pageCheckpointIsAdmitted context.generation (checkpointInput rows context proof parsed) =
      true :=
  (guardedTransition_ok.mp recordable.progressed).2.2.1

theorem PageIsRecordable.checkpointed
    (recordable : PageIsRecordable rows context proof parsed appended) :
    IsCheckpointed context.plan (checkpointedGeneration rows context proof parsed) := by
  obtain ⟨_, _, admitted, valid⟩ := guardedTransition_ok.mp recordable.progressed
  refine ⟨valid, rfl, ?_⟩
  simp only [pageCheckpointIsAdmitted, Bool.and_eq_true, beq_iff_eq] at admitted
  have pages := admitted.1.1.1.1.1.1.1.1.1.1.1.1.1.1.2
  change some (checkpointInput rows context proof parsed).pageSequence =
    some context.generation.generation.counters.pages
  rw [pages]

private theorem PageIsProven.commit_iff (proven : PageIsProven hashes rows context proof parsed)
    (recordable : PageIsRecordable rows context proof parsed appended) :
    (∃ next, commitDatasetGenerationPage context.page (commitInput (hashes.environment now) rows
        proof parsed (hashes.checkpointHash parsed proof)) = .ok next) ↔
      PageCommitFits now context proof parsed := by
  have admitted := recordable.admitted
  simp only [pageCheckpointIsAdmitted, Bool.and_eq_true, beq_iff_eq] at admitted
  obtain ⟨⟨⟨⟨⟨⟨⟨_, cost⟩, _⟩, accepted⟩, duplicates⟩, rejected⟩, returned⟩, counts⟩ := admitted
  have exact := proven.exact
  simp only [successfulProofIsExact, Bool.and_eq_true] at exact
  obtain ⟨⟨⟨⟨⟨⟨⟨_, _⟩, _⟩, attempt⟩, artifact⟩, usage⟩, manifest⟩, _⟩ := exact
  have artifactHash : contentHashIsValid proof.artifact.contentHash = true := by
    simp only [pageArtifactIsExact, Bool.and_eq_true, beq_iff_eq] at artifact
    have same : proof.artifact.contentHash = hashes.evidence.contentHash proof.artifactValue :=
      artifact.1.1.2
    rw [same]
    exact hashes.evidence_valid _
  have manifestHash : contentHashIsValid proof.manifest.manifestHash = true := by
    simp only [pageManifestIsExact, Bool.and_eq_true, beq_iff_eq] at manifest
    have same : proof.manifest.manifestHash = hashes.manifestHash proof.manifest :=
      manifest.1.1.1.1.1.1.1.1.1.1
    rw [same]
    exact hashes.manifestHash_valid _
  have reservation : ∀ reserved, context.page.reservedAmount = some reserved →
      amountExceeds proof.usage.amount reserved = false := by
    intro reserved known
    simp only [pageAttemptIsExact, Bool.and_eq_true, beq_iff_eq] at attempt
    have same : context.page.reservedAmount = some proof.attempt.reservedAmount :=
      attempt.1.1.1.1.2
    simp only [pageUsageIsExact, amountDoesNotExceed, Bool.and_eq_true, Bool.or_eq_true,
      decide_eq_true_eq, amountsEqual_iff] at usage
    rw [known] at same
    rw [Option.some.inj same, amountExceeds_eq_false_iff]
    rcases usage.2 with less | equal
    · exact less.le
    · exact equal.2.le
  rw [commitDatasetGenerationPage_iff proven.pageValid proven.executing]
  have coherent := cursorIsCoherent_iff (parsePageArtifact_cursor proven.accepted)
  constructor
  · intro fits
    exact ⟨coherent.mp fits.cursor, fits.clock, fits.createdAt, fits.version, fits.artifactId,
      fits.resultManifestId, fits.usageEntryId⟩
  · intro fits
    exact ⟨fits.version, accepted, duplicates, rejected, returned, counts,
      coherent.mpr fits.cursor, artifactHash, fits.artifactId, hashes.checkpointHash_valid _ _,
      fits.clock, fits.createdAt, cost, reservation, manifestHash, fits.resultManifestId,
      fits.usageEntryId⟩

/-- The end of the generation, once its page is committed. -/
theorem PageIsRecordable.ending_iff
    (recordable : PageIsRecordable rows context proof parsed appended)
    (clock : instantIsValid now = true) {contentHash : ContentHash}
    (hash : contentHashIsValid contentHash = true) :
    (∃ next, generationAfterCheckpoint (hashes.environment now) context
        (checkpointedGeneration rows context proof parsed) parsed.hasMore contentHash = .ok next) ↔
      EndingFits now rows context proof parsed := by
  have checkpointed := recordable.checkpointed
  have admitted := recordable.admitted
  simp only [pageCheckpointIsAdmitted, Bool.and_eq_true, Bool.or_eq_true, beq_iff_eq] at admitted
  have active : context.generation.generation.state = .running ∨
      context.generation.generation.state = .stopping :=
    admitted.1.1.1.1.1.1.1.1.1.1.1.1.1.1.1
  have state : (checkpointedGeneration rows context proof parsed).generation.state =
      context.generation.generation.state := rfl
  unfold generationAfterCheckpoint
  dsimp only
  rcases active with running | stopping
  · rw [if_neg (by rw [state, running]; decide)]
    by_cases ends : parsed.hasMore = false ∨
        capsReached (checkpointedGeneration rows context proof parsed).generation context.plan =
          true
    · rw [if_pos (by simpa using ends), completeDatasetGeneration_iff checkpointed
        (state.trans running) (by cases capsReached _ context.plan <;> rfl)]
      constructor
      · intro fits
        refine ⟨?_, fun _ _ => fits.createdAt, fun _ => fits.revision⟩
        rw [running]
        intro stopping
        cases stopping
      · intro fits
        exact ⟨clock, fits.completed running ends, hash, fits.revision (.inr ends)⟩
    · rw [if_neg (by simpa using ends)]
      refine iff_of_true ⟨_, rfl⟩ ⟨?_, fun _ ended => absurd ended ends, ?_⟩
      · rw [running]
        intro stopping
        cases stopping
      · rintro (stopping | ended)
        · rw [running] at stopping
          cases stopping
        · exact absurd ended ends
  · rw [if_pos (by rw [state, stopping]; rfl),
      cancelDatasetGenerationAfterStop_iff checkpointed.valid (state.trans stopping)]
    constructor
    · intro fits
      refine ⟨fun _ => fits.requestedAt, ?_, fun _ => fits.revision⟩
      rw [stopping]
      intro running
      cases running
    · intro fits
      exact ⟨clock, fits.stopped stopping, fits.revision (.inl stopping)⟩

/-- What is appended is nothing exactly when the page has no new record. -/
theorem PageIsRecordable.appended_eq_iff
    (recordable : PageIsRecordable rows context proof parsed appended) :
    appended = rows ↔ acceptedByPage rows parsed = [] := by
  have appends := recordable.appended
  unfold CheckpointRows.appendRecordsAndLineage at appends
  dsimp only at appends
  split at appends
  · cases appends
    constructor
    · intro same
      have records : rows.records ++ recordWrites rows context parsed = rows.records :=
        congrArg CheckpointRows.records same
      have none : recordWrites rows context parsed = [] := by simpa using records
      simpa [recordWrites] using none
    · intro none
      simp [recordWrites, lineageWrites, none]
  · cases appends

end Recordable

/-! ## The equivalence -/

/-- A recordable checkpoint succeeds, or is refused with its records appended. -/
theorem PageIsProven.persistCheckpoint_recordable
    (proven : PageIsProven hashes rows context proof parsed) {appended : CheckpointRows}
    (recordable : PageIsRecordable rows context proof parsed appended) :
    ((PageCommitFits now context proof parsed ∧ EndingFits now rows context proof parsed) ∧
        ∃ success after, persistCheckpoint hashes now rows context proof parsed =
          .ok (.ok success, after)) ∨
      (¬ (PageCommitFits now context proof parsed ∧ EndingFits now rows context proof parsed) ∧
        ∃ failure, persistCheckpoint hashes now rows context proof parsed =
          .ok (.error failure, appended)) := by
  have commits := @PageIsProven.commit_iff _ now _ _ _ _ appended proven recordable
  unfold persistCheckpoint persistSuccessfulCheckpoint
  simp only [recordable.progressed, recordable.appended]
  cases committed : commitDatasetGenerationPage context.page (commitInput (hashes.environment now)
      rows proof parsed (hashes.checkpointHash parsed proof)) with
  | error failure =>
      rw [committed] at commits
      refine .inr ⟨fun fits => ?_, _, rfl⟩
      obtain ⟨page, same⟩ := commits.mpr fits.1
      cases same
  | ok page =>
      rw [committed] at commits
      have fits := commits.mp ⟨page, rfl⟩
      have ends := @PageIsRecordable.ending_iff hashes now _ _ _ _ _ recordable fits.clock _
        (hashes.materializationContentHash_valid appended.records)
      dsimp only
      cases ended : generationAfterCheckpoint (hashes.environment now) context
          (checkpointedGeneration rows context proof parsed) parsed.hasMore
          ((hashes.environment now).materializationContentHash appended.records) with
      | error failure =>
          refine .inr ⟨fun both => ?_, _, rfl⟩
          obtain ⟨next, same⟩ := ends.mpr both.2
          exact nomatch ended.symm.trans same
      | ok next => exact .inl ⟨⟨fits, ends.mp ⟨next, ended⟩⟩, _, _, rfl⟩

/-- A refused checkpoint that leaves other rows was recordable. -/
theorem persistCheckpoint_refused {failure : CheckpointFailure} {after : CheckpointRows}
    (refused : persistCheckpoint hashes now rows context proof parsed =
      .ok (.error failure, after)) :
    after = rows ∨ ∃ appended, PageIsRecordable rows context proof parsed appended := by
  unfold persistCheckpoint persistSuccessfulCheckpoint at refused
  split at refused
  · cases refused
    exact .inl rfl
  rename_i checkpoint progressed
  obtain ⟨rfl, _⟩ := guardedTransition_ok.mp progressed
  split at refused
  · cases refused
  rename_i appended appends
  exact .inr ⟨appended, progressed, appends⟩

/-- **A refused checkpoint leaves the rows exactly when what the artifact leaves open fits.** -/
theorem refusedCheckpoint_leavesRows_iff
    (proven : PageIsProven hashes rows context proof parsed) :
    RefusedCheckpointLeavesRows hashes now rows context proof parsed ↔
      CheckpointFits now rows context proof parsed := by
  constructor
  · intro leaves recordable
    obtain ⟨appended, recordable⟩ := recordable
    rcases @PageIsProven.persistCheckpoint_recordable _ now _ _ _ _ proven _ recordable with
      ⟨fits, _⟩ | ⟨_, failure, refused⟩
    · exact .inr fits
    · exact .inl (recordable.appended_eq_iff.mp (leaves failure appended refused))
  · intro fits failure after refused
    rcases persistCheckpoint_refused refused with same | ⟨appended, recordable⟩
    · exact same
    · rcases @PageIsProven.persistCheckpoint_recordable _ now _ _ _ _ proven _ recordable with
        ⟨_, success, left, succeeded⟩ | ⟨unfit, other, again⟩
      · rw [refused] at succeeded
        cases succeeded
      · rw [refused] at again
        cases again
        exact recordable.appended_eq_iff.mpr ((fits ⟨_, recordable⟩).resolve_right unfit)

end Atomicity

/-! ## The first page of the sample generation -/

/-- The artifact of the first page with this cursor. -/
def sampleCursorArtifact (cursor : String) : DatasetGenerationPageArtifact :=
  { samplePageArtifact with nextCursor := some cursor }

private def sampleCursorEntries : List NormalizedJsonValue :=
  [.object [("contentHash", .string sampleHash),
    ("record", .object [("datasetId", .string "dataset-1"), ("recordId", .string "record-1"),
      ("values", .array [.object [("fieldId", .string "field-1"),
        ("value", .string "a.example")]]),
      ("workspaceId", .string "workspace-1")])]]

private def sampleCursorValue (cursor : String) : NormalizedJsonValue :=
  .object [("hasMore", .boolean true), ("items", .array sampleCursorEntries),
    ("nextCursor", .string cursor), ("sourcePartitionCompleted", .boolean false),
    ("version", .string "1.0.0")]

def sampleCanonicalHashes : CanonicalPageHashes where
  evidence := ⟨fun _ => sampleHash, fun _ => 100⟩
  authorityHash _ := sampleHash
  runPlanHash _ := sampleHash
  manifestHash _ := sampleHash
  checkpointHash _ _ := sampleHash
  materializationContentHash _ := sampleHash
  evidence_valid _ := sampleHash_valid
  manifestHash_valid _ := sampleHash_valid
  checkpointHash_valid _ _ := sampleHash_valid
  materializationContentHash_valid _ := sampleHash_valid

def sampleExecutingRows : CheckpointRows :=
  ⟨sampleRows sampleFirstEffect [samplePageStartedPage], [], []⟩

def sampleExecutingContext : CheckpointContext :=
  ⟨sampleFirstEffect, samplePageStartedPage, samplePlan⟩

/-- The proof of the first page Run, whose artifact announces this cursor. -/
def sampleCursorProof (cursor : String) : SuccessfulPageRun NormalizedJsonValue where
  artifact := {
    artifactId := "artifact-1"
    attemptId := "attempt-1"
    contentHash := sampleHash
    contract := datasetGenerationPageOutputContract samplePlan
    finalizedAt := 2
    operationKey := "operation-1"
    runId := "run-1"
    sizeBytes := 100
    stepRunId := "step-1"
    validatedAt := 2
    validatorVersion := "1.0.0"
    workspaceId := "workspace-1" }
  artifactValue := sampleCursorValue cursor
  attempt := sampleSucceededAttempt
  manifest := samplePageManifest
  routingDecision := samplePageDecision
  run := sampleCompletedRun.run
  runPlan := samplePageRunPlan
  stepRun := samplePageStep .succeeded sampleSucceededAttempt
  usage := samplePageUsage

private theorem sampleCursorValue_accepted {cursor : String} (named : nonBlank cursor = true) :
    parsePageArtifact sampleCanonicalHashes.evidence samplePlan (sampleCursorValue cursor) =
      some (sampleCursorArtifact cursor) := by
  have items : sampleCursorEntries.mapM
      (parseArtifactItem sampleCanonicalHashes.evidence samplePlan) =
        some samplePageArtifact.items := by
    decide
  have keys : ["hasMore", "items", "nextCursor", "sourcePartitionCompleted", "version"].isPerm
      ["hasMore", "items", "nextCursor", "sourcePartitionCompleted", "version"] = true := by
    decide
  have single : (samplePageArtifact.items.map fun item => item.record.recordId).Nodup := by
    decide
  have small : ¬ maxArtifactBytes < sampleCanonicalHashes.evidence.byteSize
      (sampleCursorValue cursor) := by
    change ¬ 65536 < 100
    omega
  unfold parsePageArtifact
  rw [if_neg small]
  simp [sampleCursorValue, exactObject, JsonProperties.hasExactKeys, keys,
    JsonProperties.stringProperty, JsonProperties.booleanProperty, JsonProperties.arrayProperty,
    JsonProperties.property, parseNextCursor, artifactCursorIsCoherent, named, items, single,
    sampleCursorArtifact]
  exact ⟨rfl, rfl⟩

private theorem sampleCursor_proven {cursor : String} (named : nonBlank cursor = true) :
    PageIsProven sampleCanonicalHashes sampleExecutingRows sampleExecutingContext
      (sampleCursorProof cursor) (sampleCursorArtifact cursor) where
  loaded := by
    have stored : sampleExecutingRows.generation.storedPlan = some samplePlan := rfl
    have page : sampleExecutingRows.generation.loadPage
        sampleExecutingRows.generation.creation.generation.counters.pages =
          some samplePageStartedPage := by
      decide
    have valid : SnapshotValid sampleExecutingRows.generation.creation samplePlan :=
      sampleFirstEffect_valid
    unfold loadCheckpointContext
    simp only [stored, valid.validate, page]
    rfl
  pageValid := by decide
  executing := rfl
  accepted := sampleCursorValue_accepted named
  exact := by
    have same : successfulProofIsExact sampleCanonicalHashes.contract samplePageStartedPage
        samplePlan sampleFirstEffect (sampleCursorProof "cursor-1")
          (sampleCursorArtifact "cursor-1") = true := by
      with_unfolding_all decide
    exact same

/-- The rows with the record of the page. -/
def sampleAppendedRows : CheckpointRows :=
  { sampleExecutingRows with
    records := [sampleRecord]
    lineage := [sampleRecordLineage] }

/-- The record of the page is new, whatever its cursor. -/
theorem sampleCursor_recordable (cursor : String) :
    PageIsRecordable sampleExecutingRows sampleExecutingContext (sampleCursorProof cursor)
      (sampleCursorArtifact cursor) sampleAppendedRows where
  progressed := guardedTransition_ok.mpr ⟨rfl, sampleFirstEffect_valid, by
    have admitted : pageCheckpointIsAdmitted sampleFirstEffect (checkpointInput sampleExecutingRows
        sampleExecutingContext (sampleCursorProof "cursor-1") (sampleCursorArtifact "cursor-1")) =
          true := by
      with_unfolding_all decide
    exact admitted, sampleFirstCommitted_valid⟩
  appended := rfl

/-- The condition at an artifact with a short cursor: its checkpoint is not refused. -/
theorem refusedCheckpoint_leavesRows_short :
    RefusedCheckpointLeavesRows sampleCanonicalHashes 3 sampleExecutingRows sampleExecutingContext
      (sampleCursorProof "cursor-1") (sampleCursorArtifact "cursor-1") := by
  refine (refusedCheckpoint_leavesRows_iff (sampleCursor_proven (by decide))).mpr ?_
  intro _
  refine .inr ⟨⟨?_, rfl, by decide, rfl, by decide, by decide, by decide⟩,
    ⟨?_, ?_, ?_⟩⟩
  · intro cursor announced
    cases announced
    decide
  · intro stopping
    cases stopping
  · intro _ _
    decide
  · intro _
    decide

/-- A cursor of 256 characters, which the schema of page artifacts admits. -/
def sampleLongCursor : String :=
  String.ofList (List.replicate 256 'c')

private theorem codePointLength_replicate (count : ℕ) (character : Char) :
    codePointLength (String.ofList (List.replicate count character)) = count := by
  simp [codePointLength]

private theorem nonBlank_replicate {count : ℕ} (positive : 0 < count) {character : Char}
    (shown : isTrimmedCharacter character = false) :
    nonBlank (String.ofList (List.replicate count character)) = true := by
  cases count with
  | zero => omega
  | succ count =>
      have kept : (List.replicate (count + 1) character).dropWhile isTrimmedCharacter =
          List.replicate (count + 1) character := by
        simp [List.replicate_succ, shown]
      simp [nonBlank, trim, kept]

/-- The record of a refused page stays in the dataset, and the page stays executing. -/
theorem refusedCheckpoint_leavesRecord :
    PageIsProven sampleCanonicalHashes sampleExecutingRows sampleExecutingContext
        (sampleCursorProof sampleLongCursor) (sampleCursorArtifact sampleLongCursor) ∧
      sampleExecutingRows.records = [] ∧
      (∃ failure after, persistCheckpoint sampleCanonicalHashes 3 sampleExecutingRows
        sampleExecutingContext (sampleCursorProof sampleLongCursor)
          (sampleCursorArtifact sampleLongCursor) = .ok (.error failure, after) ∧
        after.records = [sampleRecord] ∧ after.generation = sampleExecutingRows.generation) ∧
      ¬ RefusedCheckpointLeavesRows sampleCanonicalHashes 3 sampleExecutingRows
        sampleExecutingContext (sampleCursorProof sampleLongCursor)
          (sampleCursorArtifact sampleLongCursor) := by
  have named : nonBlank sampleLongCursor = true := nonBlank_replicate (by omega) (by decide)
  have long : ¬ codePointLength sampleLongCursor ≤ 255 := by
    have length : codePointLength sampleLongCursor = 256 := codePointLength_replicate 256 'c'
    omega
  have proven := sampleCursor_proven named
  rcases @PageIsProven.persistCheckpoint_recordable _ 3 _ _ _ _ proven _
    (sampleCursor_recordable sampleLongCursor) with ⟨⟨fits, _⟩, _⟩ | ⟨_, failure, refused⟩
  · exact absurd (fits.cursor sampleLongCursor rfl) long
  · refine ⟨proven, rfl, ⟨failure, _, refused, rfl, rfl⟩, fun leaves => ?_⟩
    have same : sampleAppendedRows = sampleExecutingRows := leaves failure _ refused
    have records : [sampleRecord] = [] := congrArg CheckpointRows.records same
    cases records

end Kurobara.Application
