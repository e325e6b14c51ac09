import Kurobara.Application.CheckpointDatasetGenerationPage
import Kurobara.Persistence.ParentEffects

/-! # How a page moves with its generation

Whatever projects a page Run onto its generation moves at most one page: it crosses
the effect threshold together with the page counter, or it is concluded while the
counter stays. `PageMove` says so once, for the threshold, for ambiguity and for the
checkpoint.
-/

namespace Kurobara.Application

open Kernel Persistence

/-- The operations that conclude a page of a generation. -/
def concludesPage : DatasetGenerationOperation → Bool
  | .checkpointPageProgress _ | .complete _ | .fail _ | .markAmbiguous | .cancelAfterStop _ => true
  | .authorizePageEffect _ | .requestStop _ => false

/-- The page counter and the stop stay, and a stop is only concluded. -/
structure KeepsPageCounter (before after : DatasetGeneration) : Prop where
  pages : after.counters.pages = before.counters.pages
  stop : after.stop = before.stop
  plan : after.generationPlanId = before.generationPlanId
  stopped : after.state = .stopping ∨ after.state = .cancelled → before.state = .stopping

theorem KeepsPageCounter.trans {first middle last : DatasetGeneration}
    (left : KeepsPageCounter first middle) (right : KeepsPageCounter middle last) :
    KeepsPageCounter first last where
  pages := right.pages.trans left.pages
  stop := right.stop.trans left.stop
  plan := right.plan.trans left.plan
  stopped stops := left.stopped (.inl (right.stopped stops))

private theorem applyDatasetGenerationOperation_keepsPageCounter
    {creation result : DatasetGenerationCreation}
    {plan : DatasetGenerationPlan} (operation : DatasetGenerationOperation)
    (concludes : concludesPage operation = true)
    (accepted : applyDatasetGenerationOperation creation plan operation = .ok result) :
    KeepsPageCounter creation.generation result.generation := by
  obtain ⟨rfl, _, admitted, _⟩ := applyDatasetGenerationOperation_ok.mp accepted
  cases operation with
  | checkpointPageProgress input =>
      refine ⟨rfl, rfl, rfl, ?_⟩
      simp only [operationIsAdmitted, pageCheckpointIsAdmitted, Bool.and_eq_true, Bool.or_eq_true,
        beq_iff_eq] at admitted
      have active := admitted.1.1.1.1.1.1.1.1.1.1.1.1.1.1.1
      rintro (stopping | cancelled)
      · exact stopping
      · change creation.generation.state = .cancelled at cancelled
        rw [cancelled] at active
        simp at active
  | cancelAfterStop completedAt =>
      refine ⟨rfl, rfl, rfl, fun _ => ?_⟩
      simp only [operationIsAdmitted, cancellationIsAdmitted, Bool.and_eq_true,
        beq_iff_eq] at admitted
      exact admitted.1
  | complete input => exact ⟨rfl, rfl, rfl,
      fun stops => by rcases stops with stops | stops <;> cases stops⟩
  | fail input => exact ⟨rfl, rfl, rfl,
      fun stops => by rcases stops with stops | stops <;> cases stops⟩
  | markAmbiguous => exact ⟨rfl, rfl, rfl,
      fun stops => by rcases stops with stops | stops <;> cases stops⟩
  | authorizePageEffect input => cases concludes
  | requestStop input => cases concludes

/-- What a projection leaves of the rows of a generation. -/
inductive PageMove (before after : GenerationRows) : Prop where
  | unchanged (same : after = before)
  | started (page moved : DatasetGenerationPage) (plan : DatasetGenerationPlan)
      (input : AuthorizeDatasetGenerationPageEffectInput) (creation : DatasetGenerationCreation)
      (loaded : before.loadPage page.pageSequence = some page)
      (created : page.state = .runCreated) (sequence : moved.pageSequence = page.pageSequence)
      (executing : moved.state = .executing) (version : moved.aggregateVersion = 2)
      (runId : moved.runId = page.runId)
      (next : input.pageSequence = page.pageSequence) (stored : before.storedPlan = some plan)
      (authorized : authorizeDatasetGenerationPageEffect before.creation plan input = .ok creation)
      (left : after = (before.updateGeneration creation).updatePage moved)
  | concluded (page moved : DatasetGenerationPage) (creation : DatasetGenerationCreation)
      (loaded : before.loadPage page.pageSequence = some page)
      (executing : page.state = .executing) (sequence : moved.pageSequence = page.pageSequence)
      (runId : moved.runId = page.runId)
      (moves : moved.state = .committed ∨ moved.state = .failed ∨ moved.state = .ambiguous)
      (keeps : KeepsPageCounter before.creation.generation creation.generation)
      (left : after = (before.updateGeneration creation).updatePage moved)

theorem loadPage_sequence {rows : GenerationRows} {pageSequence : ℤ} {page : DatasetGenerationPage}
    (loaded : rows.loadPage pageSequence = some page) : page.pageSequence = pageSequence := by
  simpa using List.find?_some loaded

private theorem loadPage_self {rows : GenerationRows} {pageSequence : ℤ}
    {page : DatasetGenerationPage}
    (loaded : rows.loadPage pageSequence = some page) :
    rows.loadPage page.pageSequence = some page := by
  rw [loadPage_sequence loaded]
  exact loaded

private theorem startedPage_created {page expected : DatasetGenerationPage}
    {input : StepParentEffectInput}
    {evidence : EffectEvidence} (created : page.state = .runCreated)
    (started : startedPage page input evidence = .ok expected) :
    expected = pageStarted page (startPageInput input evidence) ∧ pageIsValid page = true := by
  unfold startedPage at started
  simp only [created, beq_self_eq_true, ↓reduceIte] at started
  obtain ⟨same, valid, _, _⟩ := pageTransition_ok.mp started
  exact ⟨same, valid⟩

/-- A valid page without effect evidence has its first version. -/
theorem pageIsValid_created {page : DatasetGenerationPage} (valid : pageIsValid page = true)
    (created : page.state = .runCreated) : page.aggregateVersion = 1 := by
  simp only [pageIsValid, pageEvidenceIsValid, created, Bool.and_eq_true, beq_iff_eq] at valid
  exact valid.2.1.1

/-- The effect threshold moves at most the page that it authorizes. -/
theorem authorizeParentEffect_move
    (routeSnapshotHash : RunPlanRouteSnapshot → ContentHash → RunId → StepRunId → ContentHash)
    (rows : GenerationRows) (ledger : CostLedger) (input : StepParentEffectInput) :
    PageMove rows (authorizeParentEffect routeSnapshotHash rows ledger input).2 := by
  unfold authorizeParentEffect
  split
  · exact .unchanged rfl
  split
  · exact .unchanged rfl
  rename_i pageSequence _ page loaded
  split
  · exact .unchanged rfl
  rename_i evidence _
  split
  · exact .unchanged rfl
  rename_i plan admitted
  obtain ⟨stored, matched⟩ := Option.filter_eq_some_iff.mp admitted
  split
  · exact .unchanged rfl
  rename_i expected started
  split
  · exact .unchanged rfl
  split
  · exact .unchanged rfl
  rename_i notExecuting
  split
  · exact .unchanged rfl
  rename_i authorized authorizedEq
  have created : page.state = .runCreated := by
    simp only [Bool.and_eq_true, Bool.or_eq_true, beq_iff_eq] at matched notExecuting
    exact matched.2.resolve_right notExecuting
  obtain ⟨rfl, valid⟩ := startedPage_created created started
  have version : page.aggregateVersion = 1 := pageIsValid_created valid created
  have second : (pageStarted page (startPageInput input evidence)).aggregateVersion = 2 := by
    simp [pageStarted, version]
  exact .started page (pageStarted page (startPageInput input evidence)) plan _ authorized
    (loadPage_self loaded) created rfl rfl second rfl rfl stored authorizedEq rfl

private theorem markDatasetGenerationPageAmbiguous_ok {page result : DatasetGenerationPage}
    (accepted : markDatasetGenerationPageAmbiguous page = .ok result) :
    result = pageMoved page .ambiguous ∧ page.state = .executing := by
  obtain ⟨same, _, executing, _⟩ := pageTransition_ok.mp accepted
  exact ⟨same, executing⟩

private theorem markDatasetGenerationPageFailed_ok {page result : DatasetGenerationPage}
    (accepted : markDatasetGenerationPageFailed page = .ok result) :
    result = pageMoved page .failed ∧ page.state = .executing := by
  obtain ⟨same, _, executing, _⟩ := pageTransition_ok.mp accepted
  exact ⟨same, executing⟩

private theorem commitDatasetGenerationPage_ok {page result : DatasetGenerationPage}
    {input : CommitDatasetGenerationPageInput}
    (accepted : commitDatasetGenerationPage page input = .ok result) :
    result = pageCommitted page input ∧ page.state = .executing := by
  obtain ⟨same, _, executing, _⟩ := pageTransition_ok.mp accepted
  exact ⟨same, executing⟩

private theorem markDatasetGenerationAmbiguous_keeps {creation result : DatasetGenerationCreation}
    {plan : DatasetGenerationPlan}
    (accepted : markDatasetGenerationAmbiguous creation plan = .ok result) :
    KeepsPageCounter creation.generation result.generation :=
  applyDatasetGenerationOperation_keepsPageCounter .markAmbiguous rfl accepted

/-- Recording an unknown effect moves at most the executing page. -/
theorem markParentEffectAmbiguous_move (rows : GenerationRows) (input : StepParentEffectInput) :
    PageMove rows (markParentEffectAmbiguous rows input).2 := by
  unfold markParentEffectAmbiguous
  split
  · exact .unchanged rfl
  split
  · exact .unchanged rfl
  rename_i page loaded
  split
  · exact .unchanged rfl
  split
  · exact .unchanged rfl
  split
  · exact .unchanged rfl
  split
  · exact .unchanged rfl
  rename_i ambiguous ambiguousEq
  split
  · exact .unchanged rfl
  rename_i ambiguousPage pageEq
  obtain ⟨rfl, executing⟩ := markDatasetGenerationPageAmbiguous_ok pageEq
  exact .concluded page (pageMoved page .ambiguous) ambiguous (loadPage_self loaded) executing rfl
    rfl (.inr (.inr rfl))
    (markDatasetGenerationAmbiguous_keeps ambiguousEq) rfl

/-! ## The checkpoint -/

private theorem loadCheckpointContext_ok {rows : GenerationRows} {context : CheckpointContext}
    (loaded : loadCheckpointContext rows = .ok context) :
    context.generation = rows.creation ∧ rows.storedPlan = some context.plan ∧
      SnapshotValid rows.creation context.plan ∧
        rows.loadPage rows.creation.generation.counters.pages = some context.page := by
  unfold loadCheckpointContext at loaded
  split at loaded
  · cases loaded
  rename_i plan stored
  split at loaded
  · cases loaded
  rename_i validated valid
  split at loaded
  · cases loaded
  rename_i page pageEq
  cases loaded
  exact ⟨rfl, stored, (validateDatasetGenerationSnapshot_ok.mp valid).2, pageEq⟩

private theorem generationAfterPageFailure_keeps {context : CheckpointContext} {now : Instant}
    {reason : String} {failed : DatasetGenerationCreation}
    (accepted : generationAfterPageFailure context now reason = .ok failed) :
    KeepsPageCounter context.generation.generation failed.generation := by
  unfold generationAfterPageFailure at accepted
  split at accepted
  · exact applyDatasetGenerationOperation_keepsPageCounter (.cancelAfterStop _) rfl accepted
  · exact applyDatasetGenerationOperation_keepsPageCounter (.fail _) rfl accepted

private theorem generationAfterCheckpoint_keeps {environment : CheckpointEnvironment}
    {context : CheckpointContext} {checkpoint generation : DatasetGenerationCreation}
    {hasMore : Bool} {contentHash : ContentHash}
    (advanced : KeepsPageCounter context.generation.generation checkpoint.generation)
    (accepted : generationAfterCheckpoint environment context checkpoint hasMore contentHash =
      .ok generation) :
    KeepsPageCounter context.generation.generation generation.generation := by
  unfold generationAfterCheckpoint at accepted
  dsimp only at accepted
  split at accepted
  · exact advanced.trans
      (applyDatasetGenerationOperation_keepsPageCounter (.cancelAfterStop _) rfl accepted)
  split at accepted
  · exact advanced.trans
      (applyDatasetGenerationOperation_keepsPageCounter (.complete _) rfl accepted)
  · cases accepted
    exact advanced

section Checkpoint

variable {Value : Type} {contract : PageContract Value} {environment : CheckpointEnvironment}
  {rows after : CheckpointRows} {context : CheckpointContext} {result : CheckpointResult}

private theorem projectAmbiguousProof_move
    (loaded : loadCheckpointContext rows.generation = .ok context) :
    PageMove rows.generation (projectAmbiguousProof rows context).2.generation := by
  obtain ⟨same, _, _, pageEq⟩ := loadCheckpointContext_ok loaded
  unfold projectAmbiguousProof
  split
  · exact .unchanged rfl
  split
  · exact .unchanged rfl
  rename_i marked markedEq
  split
  · exact .unchanged rfl
  rename_i markedPage markedPageEq
  obtain ⟨rfl, executing⟩ := markDatasetGenerationPageAmbiguous_ok markedPageEq
  exact .concluded context.page (pageMoved context.page .ambiguous) marked (loadPage_self pageEq)
    executing rfl rfl (.inr (.inr rfl)) (same ▸ markDatasetGenerationAmbiguous_keeps markedEq) rfl

private theorem projectFailedProof_move {reason : String}
    (loaded : loadCheckpointContext rows.generation = .ok context) :
    PageMove rows.generation (projectFailedProof environment rows context reason).2.generation := by
  obtain ⟨same, _, _, pageEq⟩ := loadCheckpointContext_ok loaded
  unfold projectFailedProof
  split
  · exact .unchanged rfl
  rename_i failed failedEq
  split
  · exact .unchanged rfl
  rename_i failedPage failedPageEq
  obtain ⟨rfl, executing⟩ := markDatasetGenerationPageFailed_ok failedPageEq
  exact .concluded context.page (pageMoved context.page .failed) failed (loadPage_self pageEq)
    executing rfl rfl (.inr (.inl rfl)) (same ▸ generationAfterPageFailure_keeps failedEq) rfl

private theorem appendRecordsAndLineage_generation {appended : CheckpointRows}
    {records : List GeneratedRecord} {lineage : List GeneratedRecordLineage}
    (accepted : rows.appendRecordsAndLineage records lineage = .ok appended) :
    appended.generation = rows.generation := by
  unfold CheckpointRows.appendRecordsAndLineage at accepted
  dsimp only at accepted
  split at accepted
  · cases accepted
    rfl
  · cases accepted

private theorem persistSuccessfulCheckpoint_move {proof : SuccessfulPageRun Value}
    {parsed : DatasetGenerationPageArtifact} {checkpointHash : ContentHash}
    (loaded : loadCheckpointContext rows.generation = .ok context)
    (persisted : persistSuccessfulCheckpoint environment rows context proof parsed checkpointHash =
      .ok (result, after)) : PageMove rows.generation after.generation := by
  obtain ⟨same, _, _, pageEq⟩ := loadCheckpointContext_ok loaded
  unfold persistSuccessfulCheckpoint at persisted
  split at persisted
  · cases persisted
    exact .unchanged rfl
  rename_i checkpoint checkpointEq
  split at persisted
  · cases persisted
  rename_i appended appendedEq
  have generationEq := appendRecordsAndLineage_generation appendedEq
  split at persisted
  · cases persisted
    exact .unchanged generationEq
  rename_i committedPage committedEq
  split at persisted
  · cases persisted
    exact .unchanged generationEq
  rename_i generation advanced
  cases persisted
  obtain ⟨rfl, executing⟩ := commitDatasetGenerationPage_ok committedEq
  have counter := generationAfterCheckpoint_keeps
    (applyDatasetGenerationOperation_keepsPageCounter (.checkpointPageProgress _) rfl checkpointEq)
    advanced
  refine .concluded context.page
    (pageCommitted context.page (commitInput environment rows proof parsed checkpointHash))
    generation (loadPage_self pageEq) executing rfl rfl (.inl rfl) (same ▸ counter) ?_
  simp only [CheckpointRows.updateGeneration, CheckpointRows.updatePage, generationEq]
  rfl

private theorem processSuccessfulProof_move {proof : SuccessfulPageRun Value}
    (loaded : loadCheckpointContext rows.generation = .ok context)
    (processed : processSuccessfulProof contract environment rows context proof =
      .ok (result, after)) : PageMove rows.generation after.generation := by
  unfold processSuccessfulProof at processed
  split at processed
  · cases processed
    exact .unchanged rfl
  split at processed
  · cases processed
    exact .unchanged rfl
  · exact persistSuccessfulCheckpoint_move loaded processed
  · cases processed
    exact .unchanged rfl

/-- The checkpoint moves at most the page that the counter names, and concludes it. -/
theorem checkpointInUnitOfWork_move
    {readRunProof : DatasetGenerationPage →
      Except PersistenceError (DatasetGenerationPageRunProof Value)}
    (checkpointed : checkpointInUnitOfWork contract environment rows readRunProof =
      .ok (result, after)) : PageMove rows.generation after.generation := by
  unfold checkpointInUnitOfWork at checkpointed
  split at checkpointed
  · cases checkpointed
    exact .unchanged rfl
  rename_i context loaded
  split at checkpointed
  · cases checkpointed
    exact .unchanged rfl
  · cases checkpointed
    exact .unchanged rfl
  split at checkpointed
  · cases checkpointed
  rename_i proof _
  unfold projectRunProof at checkpointed
  split at checkpointed
  · split at checkpointed
    all_goals
      cases checkpointed
      exact .unchanged rfl
  · have left : _ = after := congrArg Prod.snd (Except.ok.inj checkpointed)
    exact left ▸ projectAmbiguousProof_move loaded
  · have left : _ = after := congrArg Prod.snd (Except.ok.inj checkpointed)
    exact left ▸ projectFailedProof_move loaded
  · exact processSuccessfulProof_move loaded checkpointed

end Checkpoint

end Kurobara.Application
