import Kurobara.Application.AuthorizeDatasetGenerationPage
import Kurobara.Application.CancelDatasetGeneration
import Kurobara.Application.PageMoves
import Kurobara.Foundation.Fallible

/-! # The activity of a generation

One generation with its pages, their Runs and the evidence of these Runs, moved by
page authorizations, effect thresholds, unknown effects, checkpoints, Run commands and
cancellations, each a serializable transaction, in any order. The evidence of the page
Runs changes arbitrarily between them.
-/

namespace Kurobara.Application

open Foundation Kernel Persistence

/-- The rows of one generation, its Runs and what they left as evidence. -/
structure GenerationWorld (Value : Type) where
  checkpoint : CheckpointRows
  runs : RunRows
  evidence : RunId → Option (PageRunEvidence Value)
  journal : List DatasetGenerationCancellationJournalEntry

namespace GenerationWorld

variable {Value : Type}

def generation (world : GenerationWorld Value) : GenerationRows :=
  world.checkpoint.generation

def pageRows (world : GenerationWorld Value) : PageRows :=
  ⟨world.generation, world.runs⟩

def cancellationRows (world : GenerationWorld Value) : CancellationRows :=
  ⟨world.generation, world.runs, world.journal⟩

def withGeneration (world : GenerationWorld Value) (rows : GenerationRows) :
    GenerationWorld Value :=
  { world with checkpoint := { world.checkpoint with generation := rows } }

private def withPageRows (world : GenerationWorld Value) (rows : PageRows) :
    GenerationWorld Value :=
  { world.withGeneration rows.generation with runs := rows.runs }

def withCancellationRows (world : GenerationWorld Value) (rows : CancellationRows) :
    GenerationWorld Value :=
  { world.withGeneration rows.generation with runs := rows.runs, journal := rows.journal }

/-- The proof of a page Run, as the checkpoint reads it. -/
def readRunProof (world : GenerationWorld Value) (contract : PageContract Value)
    (page : DatasetGenerationPage) :
    Except PersistenceError (DatasetGenerationPageRunProof Value) :=
  Persistence.readRunProof contract.evidence world.runs world.evidence page

end GenerationWorld

/-- What a transaction did, with its answer. -/
inductive GenerationLabel where
  | authorizePage (request : AuthorizePageRequest) (result : AuthorizePageResult)
  | authorizeEffect (input : StepParentEffectInput) (result : StepParentEffectResult)
  | markAmbiguous (input : StepParentEffectInput) (result : StepParentEffectResult)
  | checkpoint (result : CheckpointResult)
  | runCommand (run : Run) (command : RunCommand)
  | cancel (request : CancelDatasetGenerationRequest) (result : CancelDatasetGenerationResult)
  | evidence

/-- The functions that the activity is parametric in. -/
structure GenerationFunctions (Value : Type) where
  preparePageRun : PageRunPreparation
  routeSnapshotHash : RunPlanRouteSnapshot → ContentHash → RunId → StepRunId → ContentHash
  contract : PageContract Value

/-- The journal entry of a Run command. -/
def runCommandProof (run : Run) (command : RunCommand) (identity : RunCommandIdentity) :
    RunCommandReplayProof :=
  ⟨run.runId, run.workspaceId, identity, command.type⟩

/-- A command on a stored Run, replayed from the journal or recorded in it. -/
def runCommandRows (runs : RunRows) (run : Run) (command : RunCommand)
    (identity : RunCommandIdentity) (transition : RunTransition) : RunRows :=
  if transition.replayed then runs
  else runs.recordRunTransition transition (runCommandProof run command identity)

/-- What anyone does to a generation, in any order. -/
inductive GenerationStep {Value : Type} (functions : GenerationFunctions Value)
    (before : GenerationWorld Value) : GenerationLabel → GenerationWorld Value → Prop where
  | authorizePage (request : AuthorizePageRequest) (now : Instant)
      (named : request.generationId = before.generation.creation.generation.generationId) :
      GenerationStep functions before
        (.authorizePage request (authorizeInUnitOfWork functions.preparePageRun before.pageRows
          request now).1)
        (before.withPageRows (authorizeInUnitOfWork functions.preparePageRun before.pageRows
          request now).2)
  | authorizeEffect (ledger : CostLedger) (input : StepParentEffectInput) :
      GenerationStep functions before
        (.authorizeEffect input (authorizeParentEffect functions.routeSnapshotHash
          before.generation ledger input).1)
        (before.withGeneration (authorizeParentEffect functions.routeSnapshotHash
          before.generation ledger input).2)
  | markAmbiguous (input : StepParentEffectInput) :
      GenerationStep functions before
        (.markAmbiguous input (markParentEffectAmbiguous before.generation input).1)
        (before.withGeneration (markParentEffectAmbiguous before.generation input).2)
  | checkpoint (environment : CheckpointEnvironment) (result : CheckpointResult)
      (after : CheckpointRows)
      (checkpointed : checkpointInUnitOfWork functions.contract environment before.checkpoint
        (before.readRunProof functions.contract) = .ok (result, after)) :
      GenerationStep functions before (.checkpoint result) { before with checkpoint := after }
  | runCommand (run : Run) (command : RunCommand) (context : RunCommandContext)
      (transition : RunTransition) (found : before.runs.findRun run.runId = some run)
      (journal : context.replayProof =
        before.runs.findCommand run.runId context.commandIdentity.idempotencyKey)
      (accepted : applyRunCommand run command context = .ok transition) :
      GenerationStep functions before (.runCommand run command)
        { before with
          runs := runCommandRows before.runs run command context.commandIdentity transition }
  | cancel (environment : CancellationEnvironment) (request : CancelDatasetGenerationRequest) :
      GenerationStep functions before
        (.cancel request (cancelInUnitOfWork environment before.cancellationRows request).1)
        (before.withCancellationRows
          (cancelInUnitOfWork environment before.cancellationRows request).2)
  | evidence (evidence : RunId → Option (PageRunEvidence Value)) :
      GenerationStep functions before .evidence { before with evidence := evidence }

/-- A generation of a plan starts without pages, and no command was accepted on any Run
that is stored already. -/
def GenerationStarts {Value : Type} (world : GenerationWorld Value) : Prop :=
  (∃ input, createDatasetGeneration input = some (.ok world.generation.creation) ∧
      world.generation.storedPlan = some input.plan) ∧
    world.generation.pages = [] ∧ world.checkpoint.records = [] ∧ world.checkpoint.lineage = [] ∧
      world.runs.commandJournal = []

def generationActivity {Value : Type} (functions : GenerationFunctions Value) :
    TransitionSystem (GenerationWorld Value) GenerationLabel where
  initial := GenerationStarts
  step := GenerationStep functions

/-! ## The invariant of the pages -/

/-- Page sequences are distinct, and a page without effect is the one after the page
counter. -/
structure PagesInvariant (rows : GenerationRows) : Prop where
  distinct : (rows.pages.map DatasetGenerationPage.pageSequence).Nodup
  next : ∀ page ∈ rows.pages, page.state = .runCreated →
    page.pageSequence = rows.creation.generation.counters.pages + 1

theorem loadPage_mem {rows : GenerationRows} {pageSequence : ℤ} {page : DatasetGenerationPage}
    (loaded : rows.loadPage pageSequence = some page) : page ∈ rows.pages :=
  List.mem_of_find?_eq_some loaded

theorem PagesInvariant.loadPage {rows : GenerationRows} (invariant : PagesInvariant rows)
    {page : DatasetGenerationPage} (member : page ∈ rows.pages) :
    rows.loadPage page.pageSequence = some page := by
  cases found : rows.loadPage page.pageSequence with
  | none => exact absurd (List.find?_eq_none.mp found page member) (by simp)
  | some known =>
      have same := List.inj_on_of_nodup_map invariant.distinct (loadPage_mem found) member
        (loadPage_sequence found)
      rw [same]

theorem updatePage_sequences (rows : GenerationRows) (page : DatasetGenerationPage) :
    (rows.updatePage page).pages.map DatasetGenerationPage.pageSequence =
      rows.pages.map DatasetGenerationPage.pageSequence := by
  unfold GenerationRows.updatePage
  simp only [List.map_map]
  apply List.map_congr_left
  intro known _
  simp only [Function.comp_apply]
  split
  · rename_i same
    exact (beq_iff_eq.mp same).symm
  · rfl

/-- A page of the updated rows is the new page, or a page of another sequence. -/
theorem mem_updatePage {rows : GenerationRows} {page known : DatasetGenerationPage}
    (member : known ∈ (rows.updatePage page).pages) :
    known = page ∨ known ∈ rows.pages ∧ known.pageSequence ≠ page.pageSequence := by
  obtain ⟨previous, previousMember, rfl⟩ := List.mem_map.mp member
  by_cases same : previous.pageSequence = page.pageSequence
  · exact .inl (if_pos (by simpa using same))
  · have kept : (if previous.pageSequence == page.pageSequence then page else previous) =
      previous :=
      if_neg (by simpa using same)
    rw [kept]
    exact .inr ⟨previousMember, same⟩

theorem authorizeDatasetGenerationPageEffect_ok {creation result : DatasetGenerationCreation}
    {plan : DatasetGenerationPlan} {input : AuthorizeDatasetGenerationPageEffectInput}
    (accepted : authorizeDatasetGenerationPageEffect creation plan input = .ok result) :
    result = pageEffectAuthorized creation input ∧
      input.pageSequence = creation.generation.counters.pages + 1 := by
  obtain ⟨same, _, admitted, _⟩ := guardedTransition_ok.mp accepted
  simp only [pageEffectIsAdmitted, Bool.and_eq_true, beq_iff_eq] at admitted
  exact ⟨same, admitted.1.1.1.1.1.1.1.1.1.1.1.1.1.2⟩

theorem PagesInvariant.move {before after : GenerationRows} (invariant : PagesInvariant before)
    (move : PageMove before after) : PagesInvariant after := by
  cases move with
  | unchanged same => exact same ▸ invariant
  | started page moved plan input creation loaded created sequence executing _ _ inputSequence _
      authorized left =>
      obtain ⟨rfl, counted⟩ := authorizeDatasetGenerationPageEffect_ok authorized
      refine left ▸ ⟨?_, ?_⟩
      · rw [updatePage_sequences]
        exact invariant.distinct
      · intro known member state
        rcases mem_updatePage member with rfl | ⟨kept, other⟩
        · rw [executing] at state
          cases state
        · have sequenceEq := invariant.next known kept state
          exact absurd (sequenceEq.trans (counted.symm.trans (inputSequence.trans sequence.symm)))
            other
  | concluded page moved creation loaded executing sequence _ moves keeps left =>
      refine left ▸ ⟨?_, ?_⟩
      · rw [updatePage_sequences]
        exact invariant.distinct
      · intro known member state
        rcases mem_updatePage member with rfl | ⟨kept, _⟩
        · rw [state] at moves
          simp at moves
        · exact (invariant.next known kept state).trans (by rw [← keeps.pages]; rfl)

theorem PagesInvariant.authorized {before after : PageRows}
    (invariant : PagesInvariant before.generation)
    (effect : AuthorizationEffect before after) : PagesInvariant after.generation := by
  cases effect with
  | unchanged same => exact same ▸ invariant
  | refused run left => exact left ▸ invariant
  | created page run _ fresh sequence _ _ left =>
      refine left ▸ ⟨?_, ?_⟩
      · have absent : ∀ known ∈ before.generation.pages,
          known.pageSequence ≠ page.pageSequence := by
          intro known member same
          exact List.find?_eq_none.mp fresh known member (by simpa using same)
        simp only [GenerationRows.insertPage, List.map_append, List.map_cons, List.map_nil]
        refine List.Nodup.append invariant.distinct (List.nodup_singleton _) ?_
        intro known member same
        obtain ⟨other, otherMember, rfl⟩ := List.mem_map.mp member
        exact absent other otherMember (List.mem_singleton.mp same)
      · intro known member state
        rcases List.mem_append.mp member with kept | added
        · exact invariant.next known kept state
        · rw [List.mem_singleton.mp added]
          exact sequence

theorem AuthorizationEffect.plans {before after : PageRows}
    (effect : AuthorizationEffect before after) :
    after.generation.plans = before.generation.plans := by
  cases effect with
  | unchanged same => rw [same]
  | refused run left => rw [left]
  | created page run _ _ _ _ _ left =>
      rw [left]
      rfl

/-- A requested stop leaves the page counter. -/
theorem requestDatasetGenerationStop_pages {creation stopped : DatasetGenerationCreation}
    {plan : DatasetGenerationPlan} {input : RequestDatasetGenerationStopInput}
    (requested : requestDatasetGenerationStop creation plan input = .ok stopped) :
    stopped.generation.counters = creation.generation.counters := by
  obtain ⟨rfl, _⟩ := guardedTransition_ok.mp requested
  split <;> rfl

/-! ## A sample generation -/

/-- The canonical Run of a page of the sample generation. -/
def samplePageRun (pageSequence : ℤ) : Run where
  runId := if pageSequence = 1 then "run-1" else "run-2"
  runPlanId := if pageSequence = 1 then "run-plan-1" else "run-plan-2"
  workspaceId := "workspace-1"
  state := .queued
  aggregateVersion := 1
  eventSequence := 1
  resultCompleteness := .none
  createdAt := 1
  idempotencyKey := creationKey "generation-1" pageSequence
  intentionHash := sampleHash
  pendingStopReason := none
  resultManifest := none

/-- An artifact of one record that announces another page. -/
def samplePageArtifact : DatasetGenerationPageArtifact where
  hasMore := true
  items := [⟨sampleHash, none,
    ⟨"dataset-1", "record-1", [⟨"field-1", .string "a.example"⟩], "workspace-1"⟩, none⟩]
  nextCursor := some "cursor-1"
  sourcePartitionCompleted := false

private def samplePageContract : PageContract String where
  parsePageArtifact value _ := if value = "page-1" then some samplePageArtifact else none
  evidence := ⟨fun _ => sampleHash, fun _ => 100⟩
  authorityHash _ := sampleHash
  runPlanHash _ := sampleHash
  manifestHash _ := sampleHash
  checkpointHash _ _ := sampleHash

def sampleFunctions : GenerationFunctions String where
  preparePageRun _ _ _ _ pageSequence _ _ := .ok ⟨samplePageRun pageSequence, sampleHash, "input-1"⟩
  routeSnapshotHash _ _ _ _ := sampleHash
  contract := samplePageContract

private def sampleWorld : GenerationWorld String where
  checkpoint := ⟨⟨[samplePlan], sampleCreation, []⟩, [], []⟩
  runs := ⟨[], [], [], []⟩
  evidence _ := none
  journal := []

def samplePageRequest : AuthorizePageRequest where
  actorId := "actor-1"
  actorPermissions := ["steps:execute"]
  authenticationMode := "api-key"
  correlationId := "correlation-1"
  generationId := "generation-1"
  workspaceId := "workspace-1"

def samplePageRunPlan : RunPlan where
  runPlanId := "run-plan-1"
  workspaceId := "workspace-1"
  planHash := sampleHash
  normalizedInputHash := sampleHash
  catalogVersion := "1.0.0"
  catalogFingerprint := sampleHash
  compiledWorkflow := sampleRunPlan.compiledWorkflow
  inputContract := datasetGenerationPageInputContract samplePlan
  outputContract := datasetGenerationPageOutputContract samplePlan
  policyVersion := "1.0.0"
  policyFactsHash := sampleHash
  retryPolicy := ⟨1⟩
  routeSnapshots := some [⟨⟨"organizations.discover", "1.0.0"⟩, "provider-1", sampleHash, "page",
    "1.0.0", 4, "credit", "route-1"⟩]
  quote := ⟨"quote-1", .hard, "credit", some 10, "1.0.0", 1000⟩
  budget := ⟨"credit", 10, 0, 0⟩
  deadline := 1000
  authority := samplePlan.authority

private def samplePageOutput : ValidatedOutputRef where
  artifact := ⟨"artifact-1", sampleHash⟩
  contract := datasetGenerationPageOutputContract samplePlan
  validatedAt := 2
  validatorVersion := "1.0.0"

private def samplePageAttempt : Attempt where
  attemptId := "attempt-1"
  attemptNumber := 1
  authorityEnvelopeId := "authority-1"
  claimedAt := 1
  costReservationId := "reservation-1"
  effectAdapterKey := "provider-1"
  operationKey := "operation-1"
  preparedAt := 1
  reason := .initial
  reservedAmount := 4
  reservationUnit := "credit"
  routeKey := "route-1"
  routeSnapshotHash := sampleHash
  routingDecisionId := "decision-1"
  state := .claimed
  stepRunId := "step-1"
  effectStartedAt := none
  ambiguityObservedAt := none
  finishedAt := none
  output := none

def samplePageStep (state : StepRunState) (attempt : Attempt) : StepRun where
  activeAttemptId := none
  aggregateVersion := 3
  attempts := [attempt]
  createdAt := 1
  dependsOn := []
  eventSequence := 4
  nodeKey := "page"
  runId := "run-1"
  state := state
  stepRunId := "step-1"
  workspaceId := "workspace-1"

private def sampleReservation (state : CostReservationState) : CostReservation where
  amount := 4
  attemptId := "attempt-1"
  createdAt := 1
  operationKey := "operation-1"
  reservationId := "reservation-1"
  runId := "run-1"
  stepRunId := "step-1"
  unit := "credit"
  workspaceId := "workspace-1"
  state := state

def samplePageDecision : RoutingDecision where
  capability := ⟨"organizations.discover", "1.0.0"⟩
  decidedAt := 1
  effectAdapterKey := "provider-1"
  policyFactsHash := sampleHash
  policyVersion := "1.0.0"
  pricingVersion := "1.0.0"
  reservedAmount := 4
  reservationUnit := "credit"
  routeKey := "route-1"
  routeSnapshotHash := sampleHash
  routingDecisionId := "decision-1"
  runId := "run-1"
  stepRunId := "step-1"
  workspaceId := "workspace-1"

def samplePageUsage : UsageEntry where
  amount := 3
  attemptId := "attempt-1"
  operationKey := "operation-1"
  recordedAt := 2
  reservationId := "reservation-1"
  runId := "run-1"
  unit := "credit"
  usageEntryId := "usage-1"
  workspaceId := "workspace-1"
  reconciliationProofId := none

/-- The first effect of the sample generation, at its threshold. -/
def sampleEffectInput : StepParentEffectInput where
  attempt := samplePageAttempt
  now := 1
  plan := samplePageRunPlan
  run := samplePageRun 1
  stepRun := samplePageStep .active samplePageAttempt

private def samplePageLedger : CostLedger :=
  ⟨⟨4, 0, "credit"⟩, [sampleReservation .reserved], [], [samplePageDecision]⟩

/-- The attempt of the first page after it succeeded. -/
def sampleSucceededAttempt : Attempt :=
  { samplePageAttempt with
    state := .succeeded
    effectStartedAt := some 1
    finishedAt := some 2
    output := some samplePageOutput }

def samplePageManifest : ResultManifest where
  attemptSettlements := [⟨"attempt-1", .settled, "operation-1", 1, "reservation-1", "credit",
    some 3, some "usage-1"⟩]
  compiledWorkflowFingerprint := sampleHash
  conclusion := .completed
  cost := ⟨0, 3, "credit"⟩
  createdAt := 2
  entries := [⟨"page", .accepted samplePageOutput, .succeeded, 3, 4, "step-1", none,
    some "attempt-1"⟩]
  output := .accepted samplePageOutput
  outputContract := datasetGenerationPageOutputContract samplePlan
  planHash := sampleHash
  resultCompleteness := .complete
  runId := "run-1"
  runPlanId := "run-plan-1"
  sourceRunAggregateVersion := 2
  workspaceId := "workspace-1"
  manifestHash := sampleHash
  resultManifestId := "manifest-1"

/-- The rows of the first page Run after its success. -/
def sampleSuccessEvidence : PageRunEvidence String where
  runPlan := samplePageRunPlan
  stepRun := some (samplePageStep .succeeded sampleSucceededAttempt)
  ledger := ⟨⟨0, 3, "credit"⟩, [sampleReservation (.settled 3 1 2 "usage-1")], [samplePageUsage],
    [samplePageDecision]⟩
  artifacts := [({
    artifactId := "artifact-1"
    attemptId := "attempt-1"
    contentHash := sampleHash
    contract := datasetGenerationPageOutputContract samplePlan
    finalizedAt := 2
    operationKey := "operation-1"
    runId := "run-1"
    sizeBytes := 100
    stepRunId := "step-1"
    validatedAt := 2
    validatorVersion := "1.0.0"
    workspaceId := "workspace-1" }, "page-1")]
  manifest := some samplePageManifest

/-- A fresh command on a stored Run of the sample generation. -/
def sampleRunContext (expectedAggregateVersion : ℕ) (idempotencyKey : IdempotencyKey)
    (eventIds : List EventId) : RunCommandContext where
  commandIdentity := ⟨idempotencyKey, sampleHash⟩
  expectedAggregateVersion := expectedAggregateVersion
  eventIds := eventIds
  occurredAt := 2
  actorId := "actor-1"
  correlationId := "correlation-1"
  replayProof := none

/-- The first page Run, claimed and completed. -/
def sampleClaimedRun : RunTransition :=
  freshRunTransition (samplePageRun 1) ⟨.running, .none, none, none, [.runStarted]⟩
    (sampleRunContext 1 "claim-run-1" ["event-1"])

private def sampleRunCompletion : RunTransitionPlan where
  state := .completed
  resultCompleteness := .complete
  pendingStopReason := none
  resultManifest := some ⟨sampleHash, "manifest-1"⟩
  eventDetails := [runResultManifestRecorded samplePageManifest .completed, .runCompleted .complete]

def sampleCompletedRun : RunTransition :=
  freshRunTransition sampleClaimedRun.run sampleRunCompletion
    (sampleRunContext 2 "complete-run-1" ["event-2", "event-3"])

/-- A page of the sample generation as it is created. -/
def samplePage (pageSequence : ℤ) (inputCursor : Option String) : DatasetGenerationPage :=
  newPage samplePageRequest 1 ⟨samplePageRun pageSequence, sampleHash, "input-1"⟩ pageSequence
    inputCursor

def samplePageStartedPage : DatasetGenerationPage :=
  pageStarted (samplePage 1 none) (startPageInput sampleEffectInput
    ⟨samplePageDecision, sampleReservation .reserved⟩)

def samplePageCommittedPage : DatasetGenerationPage :=
  pageCommitted samplePageStartedPage {
    acceptedCount := 1
    artifactContentHash := sampleHash
    artifactId := "artifact-1"
    checkpointHash := sampleHash
    committedAt := 3
    costAmount := 3
    duplicateCount := 0
    hasMore := true
    nextCursor := some "cursor-1"
    rejectedCount := 0
    resultManifestHash := sampleHash
    resultManifestId := "manifest-1"
    returnedCount := 1
    sourcePartitionCompleted := false
    usageEntryId := "usage-1" }

/-- The rows of the sample generation with these pages. -/
def sampleRows (creation : DatasetGenerationCreation) (pages : List DatasetGenerationPage) :
    GenerationRows :=
  ⟨[samplePlan], creation, pages⟩

def sampleRunRows (runs : List Run) : RunRows :=
  ⟨runs, [], [], []⟩

/-- The world with its first page created. -/
def sampleFirstCreated : GenerationWorld String where
  checkpoint := ⟨sampleRows sampleCreation [samplePage 1 none], [], []⟩
  runs := sampleRunRows [samplePageRun 1]
  evidence _ := none
  journal := []

/-- The sample generation after the effect of its first page, and after its checkpoint. -/
def sampleFirstEffect : DatasetGenerationCreation :=
  operationResult sampleCreation (.authorizePageEffect ⟨1, 1, 4, "credit"⟩)

private def sampleFirstCommitted : DatasetGenerationCreation :=
  operationResult sampleFirstEffect
    (.checkpointPageProgress ⟨1, 3, "credit", 0, 1, "provider-1", 0, 1⟩)

/-- The world with the effect of its first page authorized. -/
def sampleFirstStarted : GenerationWorld String :=
  sampleFirstCreated.withGeneration (sampleRows sampleFirstEffect [samplePageStartedPage])

/-- The world after the Run of the first page was claimed, and after it completed. -/
def sampleFirstClaimed : GenerationWorld String :=
  { sampleFirstStarted with
    runs := runCommandRows sampleFirstStarted.runs (samplePageRun 1) .claimRun
      ⟨"claim-run-1", sampleHash⟩ sampleClaimedRun }

private def sampleFirstCompleted : GenerationWorld String :=
  { sampleFirstClaimed with
    runs := runCommandRows sampleFirstClaimed.runs sampleClaimedRun.run
      (.completeRun samplePageManifest) ⟨"complete-run-1", sampleHash⟩ sampleCompletedRun }

private def sampleFirstSucceeded : GenerationWorld String :=
  { sampleFirstCompleted with
    evidence := fun runId => if runId = "run-1" then some sampleSuccessEvidence else none }

private def sampleEnvironment : CheckpointEnvironment := ⟨3, fun _ => sampleHash⟩

/-- The record of the first page, with its lineage. -/
def sampleRecord : GeneratedRecord :=
  ⟨1, sampleHash, 1, ⟨"dataset-1", "record-1", [⟨"field-1", .string "a.example"⟩], "workspace-1"⟩,
    1⟩

def sampleRecordLineage : GeneratedRecordLineage where
  artifactId := "artifact-1"
  attemptId := "attempt-1"
  candidatePosition := 1
  operationKey := "operation-1"
  pageSequence := 1
  providerIdentity := none
  recordId := "record-1"
  recordOrdinal := 1
  reservationId := "reservation-1"
  resultManifestId := "manifest-1"
  routingDecisionId := "decision-1"
  runId := "run-1"
  stepRunId := "step-1"
  usageEntryId := "usage-1"
  source := none

/-- The world with its first page committed. -/
def sampleFirstCheckpointed : GenerationWorld String :=
  { sampleFirstSucceeded with
    checkpoint := ⟨sampleRows sampleFirstCommitted [samplePageCommittedPage], [sampleRecord],
      [sampleRecordLineage]⟩ }

/-- The world with its second page created. -/
def sampleSecondCreated : GenerationWorld String :=
  { sampleFirstCheckpointed with
    checkpoint := ⟨sampleRows sampleFirstCommitted
      [samplePageCommittedPage, samplePage 2 (some "cursor-1")], [sampleRecord],
        [sampleRecordLineage]⟩
    runs := sampleFirstCheckpointed.runs.insertRun (samplePageRun 2) }

/-- The effect leaves the materialization as it is. -/
theorem sampleFirstEffect_valid : SnapshotValid sampleFirstEffect samplePlan where
  planValid := samplePlan_valid
  materializationValid := sampleCreation_valid.materializationValid
  binding := by decide
  progress := by with_unfolding_all decide
  planned := by decide

theorem sampleFirstCommitted_valid : SnapshotValid sampleFirstCommitted samplePlan where
  planValid := samplePlan_valid
  materializationValid := sampleCheckpointed_valid.materializationValid
  binding := by decide
  progress := by with_unfolding_all decide
  planned := by decide

theorem samplePage_valid : pageIsValid (samplePage 1 none) = true := by
  have hash : contentHashIsValid (samplePage 1 none).inputContentHash = true := sampleHash_valid
  unfold pageIsValid pageIdentityIsValid
  rw [hash]
  decide

private theorem samplePageStartedPage_effect : pageEffectEvidenceIsPresent samplePageStartedPage =
    true := by
  have route : samplePageStartedPage.routeSnapshotHash = some sampleHash := rfl
  have hash : samplePageStartedPage.routeSnapshotHash.any contentHashIsValid = true := by
    rw [route, Option.any_some, sampleHash_valid]
  unfold pageEffectEvidenceIsPresent
  rw [hash]
  decide

private theorem samplePageStartedPage_valid : pageIsValid samplePageStartedPage = true := by
  unfold samplePageStartedPage
  exact pageStarted_valid samplePage_valid rfl samplePageStartedPage_effect

private theorem sampleWorld_reachable :
    (generationActivity sampleFunctions).Reachable sampleWorld :=
  .initial ⟨⟨⟨0, "generation-1", samplePlan⟩, sampleCreation_valid.created (by decide)
    (by decide) (by decide), rfl⟩, rfl, rfl, rfl, rfl⟩

private theorem samplePageRequest_authorized :
    validateCallerAuthorization samplePageRequest samplePlan =
    .ok () := by
  decide

/-- A page authorization of the sample generation that leaves these rows. -/
theorem samplePageAuthorized_step {before : GenerationWorld String} {rows : PageRows}
    (named : before.generation.creation.generation.generationId = "generation-1")
    (plans : rows.generation.plans = before.generation.plans)
    (stored : before.generation.storedPlan = some samplePlan)
    (valid : SnapshotValid before.generation.creation samplePlan)
    (active : generationIsTerminal before.generation.creation.generation.state = false)
    (fresh : before.generation.loadPage
      (before.generation.creation.generation.counters.pages + 1) = none)
    (next : (fun after : PageRows => (after.generation.creation, after.generation.pages,
        after.runs)) (authorizeNextPage sampleFunctions.preparePageRun before.pageRows
          samplePageRequest 1 samplePlan
          (before.generation.creation.generation.counters.pages + 1)).2 =
            (rows.generation.creation, rows.generation.pages, rows.runs)) :
    ∃ label, (generationActivity sampleFunctions).step before label (before.withPageRows rows) := by
  have left : (fun after : PageRows => (after.generation.creation, after.generation.pages,
      after.runs)) (authorizeInUnitOfWork sampleFunctions.preparePageRun before.pageRows
        samplePageRequest 1).2 = (rows.generation.creation, rows.generation.pages, rows.runs) := by
    rw [authorizeInUnitOfWork_next stored valid samplePageRequest_authorized active fresh]
    exact next
  have kept := (authorizeInUnitOfWork_effect sampleFunctions.preparePageRun before.pageRows
    samplePageRequest 1).plans
  have step : (generationActivity sampleFunctions).step before _ _ :=
    GenerationStep.authorizePage samplePageRequest 1 named.symm
  generalize (authorizeInUnitOfWork sampleFunctions.preparePageRun before.pageRows
    samplePageRequest 1).2 = after at kept left step
  have same : after = rows := by
    rcases after with ⟨⟨afterPlans, creation, pages⟩, runs⟩
    rcases rows with ⟨⟨rowPlans, rowCreation, rowPages⟩, rowRuns⟩
    have planned : afterPlans = rowPlans := kept.trans plans.symm
    simp only [Prod.mk.injEq] at left
    rw [planned, left.1, left.2.1, left.2.2]
  exact ⟨_, same ▸ step⟩

theorem sampleFirstCreated_reachable :
    (generationActivity sampleFunctions).Reachable sampleFirstCreated := by
  obtain ⟨label, step⟩ := @samplePageAuthorized_step sampleWorld
    ⟨sampleRows sampleCreation [samplePage 1 none], sampleRunRows [samplePageRun 1]⟩ rfl rfl
      rfl sampleCreation_valid rfl rfl (by with_unfolding_all decide)
  exact sampleWorld_reachable.step step

private theorem sampleFirstStarted_reachable :
    (generationActivity sampleFunctions).Reachable sampleFirstStarted := by
  have step : (generationActivity sampleFunctions).step sampleFirstCreated _ _ :=
    GenerationStep.authorizeEffect samplePageLedger sampleEffectInput
  have left : authorizeParentEffect sampleFunctions.routeSnapshotHash
      sampleFirstCreated.generation samplePageLedger sampleEffectInput =
        writeProjection sampleFirstCreated.generation sampleFirstEffect samplePageStartedPage := by
    have loaded : sampleFirstCreated.generation.loadPage 1 = some (samplePage 1 none) := rfl
    have recorded : loadDecisionAndReservation samplePageLedger sampleEffectInput =
        some ⟨samplePageDecision, sampleReservation .reserved⟩ := rfl
    exact authorizeParentEffect_authorized (by decide) loaded recorded rfl
      (by decide) rfl
      (pageTransition_ok.mpr ⟨rfl, samplePage_valid, rfl, samplePageStartedPage_valid⟩)
      (by decide)
      (guardedTransition_ok.mpr ⟨rfl, sampleCreation_valid, by with_unfolding_all decide,
        sampleFirstEffect_valid⟩)
  rw [left] at step
  exact sampleFirstCreated_reachable.step step

private theorem sampleFirstSucceeded_reachable :
    (generationActivity sampleFunctions).Reachable sampleFirstSucceeded := by
  have claimed : (generationActivity sampleFunctions).step sampleFirstStarted _
      sampleFirstClaimed :=
    GenerationStep.runCommand (samplePageRun 1) .claimRun
      (sampleRunContext 1 "claim-run-1" ["event-1"]) sampleClaimedRun
      (by decide) (by decide) (by decide)
  have completed : (generationActivity sampleFunctions).step sampleFirstClaimed _
      sampleFirstCompleted :=
    GenerationStep.runCommand sampleClaimedRun.run (.completeRun samplePageManifest)
      (sampleRunContext 2 "complete-run-1" ["event-2", "event-3"]) sampleCompletedRun
      (by decide) (by decide) (by decide)
  have succeeded : (generationActivity sampleFunctions).step sampleFirstCompleted _
      sampleFirstSucceeded := GenerationStep.evidence _
  exact ((sampleFirstStarted_reachable.step claimed).step completed).step succeeded

/-- The commit of the first page, and the proof that it rests on. -/
def sampleFirstCommit : CommitDatasetGenerationPageInput where
  acceptedCount := 1
  artifactContentHash := sampleHash
  artifactId := "artifact-1"
  checkpointHash := sampleHash
  committedAt := 3
  costAmount := 3
  duplicateCount := 0
  hasMore := true
  nextCursor := some "cursor-1"
  rejectedCount := 0
  resultManifestHash := sampleHash
  resultManifestId := "manifest-1"
  returnedCount := 1
  sourcePartitionCompleted := false
  usageEntryId := "usage-1"

private def sampleFirstProof : SuccessfulPageRun String where
  artifact := {
    artifactId := "artifact-1"
    attemptId := "attempt-1"
    contentHash := sampleHash
    contract := datasetGenerationPageOutputContract samplePlan
    finalizedAt := 2
    operationKey := "operation-1"
    runId := "run-1"
    sizeBytes := 100
    stepRunId := "step-1"
    validatedAt := 2
    validatorVersion := "1.0.0"
    workspaceId := "workspace-1" }
  artifactValue := "page-1"
  attempt := sampleSucceededAttempt
  manifest := samplePageManifest
  routingDecision := samplePageDecision
  run := sampleCompletedRun.run
  runPlan := samplePageRunPlan
  stepRun := samplePageStep .succeeded sampleSucceededAttempt
  usage := samplePageUsage

/-- What the commit adds fits every page that can afford it. -/
theorem sampleFirstCommit_fits {page : DatasetGenerationPage} {amount : Amount}
    (version : isSafeInteger (page.aggregateVersion + 1) = true) (createdAt : page.createdAt ≤ 3)
    (cost : isAmount amount = true)
    (reservation : ∀ reserved, page.reservedAmount = some reserved →
      amountExceeds amount reserved = false) :
    CommitFits page { sampleFirstCommit with costAmount := amount } := by
  have one : nonNegativeSafeInteger 1 = true := by decide
  have zero : nonNegativeSafeInteger 0 = true := by decide
  have cursor : cursorIsCoherent true (some "cursor-1") false = true := by decide
  have clock : instantIsValid 3 = true := by decide
  have artifactId : boundedText "artifact-1" 512 = true := by decide
  have resultManifestId : boundedText "manifest-1" 512 = true := by decide
  have usageEntryId : boundedText "usage-1" 512 = true := by decide
  exact ⟨version, one, zero, zero, one, rfl, cursor, sampleHash_valid, artifactId,
    sampleHash_valid, clock, createdAt, cost, reservation, sampleHash_valid, resultManifestId,
    usageEntryId⟩

private theorem samplePageCommittedPage_valid : pageIsValid samplePageCommittedPage = true := by
  have fits : CommitFits samplePageStartedPage sampleFirstCommit :=
    sampleFirstCommit_fits (by decide) (by decide) (by decide) (by
      rintro reserved ⟨⟩
      decide)
  obtain ⟨next, committed⟩ :=
    (commitDatasetGenerationPage_iff samplePageStartedPage_valid rfl).mpr fits
  exact (pageTransition_ok.mp committed).2.2.2

private theorem sampleFirstProof_read : sampleFirstSucceeded.readRunProof sampleFunctions.contract
    samplePageStartedPage = .ok (.succeeded sampleFirstProof) := by
  have found : sampleFirstSucceeded.runs.findRun samplePageStartedPage.runId =
      some sampleCompletedRun.run := by
    decide
  have recorded : sampleFirstSucceeded.evidence samplePageStartedPage.runId =
      some sampleSuccessEvidence := rfl
  have collected : collectSuccess sampleSuccessEvidence sampleCompletedRun.run
      (samplePageStep .succeeded sampleSucceededAttempt) samplePageStartedPage =
        some (sampleReservation (.settled 3 1 2 "usage-1"), sampleFirstProof) := rfl
  exact readRunProof_succeeded found recorded rfl rfl rfl rfl rfl rfl collected (by decide)

private theorem sampleFirstProof_exact :
    successfulProofIsExact samplePageContract samplePageStartedPage
    samplePlan sampleFirstEffect sampleFirstProof samplePageArtifact = true := by
  with_unfolding_all decide

private theorem sampleFirstCheckpointed_reachable :
    (generationActivity sampleFunctions).Reachable sampleFirstCheckpointed := by
  let context : CheckpointContext := ⟨sampleFirstEffect, samplePageStartedPage, samplePlan⟩
  have parsed : samplePageContract.parsePageArtifact sampleFirstProof.artifactValue samplePlan =
      some samplePageArtifact := by
    decide
  have checkpointed : checkpointInUnitOfWork sampleFunctions.contract sampleEnvironment
      sampleFirstSucceeded.checkpoint (sampleFirstSucceeded.readRunProof sampleFunctions.contract) =
        persistSuccessfulCheckpoint sampleEnvironment sampleFirstSucceeded.checkpoint context
          sampleFirstProof samplePageArtifact sampleHash :=
    checkpointInUnitOfWork_succeeded
      (loadCheckpointContext_loaded rfl sampleFirstEffect_valid rfl) rfl sampleFirstProof_read
      parsed sampleFirstProof_exact
  have progressed : checkpointDatasetGenerationPageProgress sampleFirstEffect samplePlan
      (checkpointInput sampleFirstSucceeded.checkpoint context sampleFirstProof
        samplePageArtifact) = .ok sampleFirstCommitted :=
    guardedTransition_ok.mpr ⟨rfl, sampleFirstEffect_valid, by with_unfolding_all decide,
      sampleFirstCommitted_valid⟩
  have committed : commitDatasetGenerationPage samplePageStartedPage (commitInput sampleEnvironment
      sampleFirstSucceeded.checkpoint sampleFirstProof samplePageArtifact sampleHash) =
        .ok samplePageCommittedPage :=
    pageTransition_ok.mpr ⟨rfl, samplePageStartedPage_valid, rfl, samplePageCommittedPage_valid⟩
  have running : (sampleFirstCommitted.generation.state == .stopping) = false := rfl
  have uncapped : capsReached sampleFirstCommitted.generation samplePlan = false := by
    with_unfolding_all decide
  have ended : generationAfterCheckpoint sampleEnvironment context sampleFirstCommitted true
      sampleHash = .ok sampleFirstCommitted := by
    simp [generationAfterCheckpoint, running, uncapped, context]
  have recorded : sampleFirstSucceeded.checkpoint.appendRecordsAndLineage
      (recordWrites sampleFirstSucceeded.checkpoint context samplePageArtifact)
      (lineageWrites sampleFirstSucceeded.checkpoint context sampleFirstProof samplePageArtifact) =
        .ok ⟨sampleRows sampleFirstEffect [samplePageStartedPage], [sampleRecord],
          [sampleRecordLineage]⟩ := rfl
  have persisted := @persistSuccessfulCheckpoint_persisted String sampleEnvironment
    sampleFirstSucceeded.checkpoint context sampleFirstProof samplePageArtifact sampleHash
    sampleFirstCommitted sampleFirstCommitted _ samplePageCommittedPage progressed recorded
    committed ended
  have sequence : samplePageStartedPage.pageSequence = samplePageCommittedPage.pageSequence := rfl
  have updated : sampleFirstCheckpointed.checkpoint =
      (((CheckpointRows.mk (sampleRows sampleFirstEffect [samplePageStartedPage]) [sampleRecord]
        [sampleRecordLineage]).updateGeneration sampleFirstCommitted).updateGeneration
          sampleFirstCommitted).updatePage samplePageCommittedPage := by
    simp [CheckpointRows.updatePage, CheckpointRows.updateGeneration, GenerationRows.updatePage,
      GenerationRows.updateGeneration, sampleRows, sequence, sampleFirstCheckpointed]
  rw [persisted, ← updated] at checkpointed
  exact sampleFirstSucceeded_reachable.step
    (GenerationStep.checkpoint sampleEnvironment _ _ checkpointed)

theorem sampleSecondCreated_reachable :
    (generationActivity sampleFunctions).Reachable sampleSecondCreated := by
  obtain ⟨label, step⟩ := @samplePageAuthorized_step sampleFirstCheckpointed
    ⟨sampleRows sampleFirstCommitted [samplePageCommittedPage, samplePage 2 (some "cursor-1")],
      sampleFirstCheckpointed.runs.insertRun (samplePageRun 2)⟩ rfl rfl
      rfl sampleFirstCommitted_valid rfl rfl (by with_unfolding_all decide)
  exact sampleFirstCheckpointed_reachable.step step

end Kurobara.Application
