import Kurobara.Persistence.GenerationRows
import Kurobara.Persistence.RunRows

/-! # Authorizing a generation page

`authorizeInUnitOfWork`: the page after the generation's page counter is returned as it
is stored, or created with its Run when the generation admits another page. The plan
of the page Run, its input and its creation are a parameter of the model.
-/

namespace Kurobara.Application

open Kernel Persistence

structure AuthorizePageRequest where
  actorId : ActorId
  actorPermissions : List String
  authenticationMode : String
  correlationId : CorrelationId
  generationId : DatasetGenerationId
  workspaceId : WorkspaceId
  deriving DecidableEq, Repr

inductive AuthorizePageFailureCode where
  | authorityPermissionMissing
  | budgetExhausted
  | deadlineElapsed
  | generationNotPlanned
  | generationPlanNotFound
  | generationProofInvalid
  | idempotencyConflict
  | inputTooLarge
  | limitExhausted
  | runCreationRejected
  | runPlanRejected
  | workspaceMismatch
  deriving DecidableEq, Repr

structure AuthorizePageFailure where
  code : AuthorizePageFailureCode
  message : String
  domainCode : Option String
  deriving DecidableEq, Repr

structure AuthorizePageSuccess where
  page : DatasetGenerationPage
  replayed : Bool
  deriving DecidableEq, Repr

abbrev AuthorizePageResult := Except AuthorizePageFailure AuthorizePageSuccess

/-- The canonical Run of a page and the identity of its input. -/
structure PreparedPageRun where
  run : Run
  inputContentHash : ContentHash
  inputId : String
  deriving DecidableEq, Repr

/-- How a page Run is planned and created from the generation, the page sequence and the
cursor, or why it is not. -/
abbrev PageRunPreparation :=
  AuthorizePageRequest → Instant → DatasetGenerationPlan → DatasetGenerationCreation → ℤ →
    Option String → RunRows → Except AuthorizePageFailure PreparedPageRun

/-- The idempotency key of the Run of a page. -/
def creationKey (generationId : DatasetGenerationId) (pageSequence : ℤ) : IdempotencyKey :=
  s!"dataset-generation-page:{generationId}:{pageSequence}"

/-! ## Admission -/

/-- The scope of the caller and the permission to execute steps. -/
def validateCallerAuthorization (request : AuthorizePageRequest) (plan : DatasetGenerationPlan) :
    Except AuthorizePageFailure Unit :=
  if request.workspaceId != plan.workspaceId ||
      request.actorId != plan.authority.subjectActorId then
    .error ⟨.workspaceMismatch,
      "The actor, generation plan, and request must share one scope.", none⟩
  else if !(request.actorPermissions.contains datasetGenerationExecutionPermission &&
      plan.authority.permissions.contains datasetGenerationExecutionPermission) then
    .error ⟨.authorityPermissionMissing,
      s!"The first page Run requires {datasetGenerationExecutionPermission}.", none⟩
  else .ok ()

/-- What every new page needs beside its caller: time, cardinality and budget. -/
def validateAuthorization (request : AuthorizePageRequest) (plan : DatasetGenerationPlan)
    (creation : DatasetGenerationCreation) (now : Instant) : Except AuthorizePageFailure Unit :=
  let counters := creation.generation.counters
  let spent := creation.generation.cost.spent
  match validateCallerAuthorization request plan with
  | .error failure => .error failure
  | .ok _ =>
      if plan.deadline ≤ now || plan.authority.deadline ≤ now || plan.quote.expiresAt ≤ now then
        .error ⟨.deadlineElapsed,
          "The generation deadline or immutable quote has elapsed.", none⟩
      else if plan.limits .maxPages ≤ counters.pages || plan.limits .maxCalls ≤ counters.calls ||
          plan.limits .maxResults ≤ counters.returned ||
          datasetGenerationAcceptedRecordLimit plan ≤ counters.accepted then
        .error ⟨.limitExhausted,
          "The immutable cardinality caps do not authorize another page.", none⟩
      else if plan.hardExecutionCap ≤ spent || availableBudget plan.budget ≤ spent ||
          availableBudget plan.authority.budgetLimit ≤ spent then
        .error ⟨.budgetExhausted,
          "The immutable budget cannot reserve another page effect.", none⟩
      else .ok ()

/-! ## Pages -/

/-- A newly created page of a prepared Run, without effect or result evidence. -/
def newPage (request : AuthorizePageRequest) (now : Instant) (prepared : PreparedPageRun)
    (pageSequence : ℤ) (inputCursor : Option String) : DatasetGenerationPage where
  acceptedCount := none
  aggregateVersion := 1
  artifactContentHash := none
  artifactId := none
  attemptId := none
  committedAt := none
  checkpointHash := none
  costAmount := none
  costUnit := none
  createdAt := now
  generationId := request.generationId
  hasMore := none
  inputContentHash := prepared.inputContentHash
  inputCursor := inputCursor
  inputId := prepared.inputId
  nextCursor := none
  operationKey := none
  pageSequence := pageSequence
  providerKey := none
  duplicateCount := none
  rejectedCount := none
  reservationId := none
  reservedAmount := none
  resultManifestId := none
  resultManifestHash := none
  routeKey := none
  routeSnapshotHash := none
  returnedCount := none
  routingDecisionId := none
  runId := prepared.run.runId
  runPlanId := prepared.run.runPlanId
  sourcePartitionCompleted := none
  state := .runCreated
  stepRunId := none
  usageEntryId := none
  workspaceId := request.workspaceId

/-- The rows that page authorization reads and writes. -/
structure PageRows where
  generation : GenerationRows
  runs : RunRows

/-- A stored page answers when its Run is the one of its key. -/
def replayPriorPage (rows : PageRows) (request : AuthorizePageRequest)
    (prior : DatasetGenerationPage) : AuthorizePageResult :=
  let runCreation :=
    rows.runs.findByIdempotencyKey (creationKey request.generationId prior.pageSequence)
  if prior.workspaceId == request.workspaceId && prior.generationId == request.generationId &&
      decide (0 < prior.pageSequence) && runCreation.any fun run =>
        run.runId == prior.runId && run.runPlanId == prior.runPlanId then
    .ok ⟨prior, true⟩
  else .error ⟨.idempotencyConflict,
    "The durable first-page binding diverges from its canonical Run.", none⟩

/-- A Run that is stored already is kept as it is. -/
def storePageRun (runs : RunRows) (run : Run) : RunRows :=
  if (runs.findRun run.runId).isSome then runs else runs.insertRun run

section Authorization

variable (preparePageRun : PageRunPreparation) (rows : PageRows) (request : AuthorizePageRequest)
  (now : Instant)

/-- The Run stays stored when the page is refused afterwards. -/
def persistFreshPage (plan : DatasetGenerationPlan) (pageSequence : ℤ)
    (inputCursor : Option String) : AuthorizePageResult × PageRows :=
  match validateAuthorization request plan rows.generation.creation now with
  | .error failure => (.error failure, rows)
  | .ok _ =>
  match preparePageRun request now plan rows.generation.creation pageSequence inputCursor
    rows.runs with
  | .error failure => (.error failure, rows)
  | .ok prepared =>
      let runs := storePageRun rows.runs prepared.run
      let page := newPage request now prepared pageSequence inputCursor
      match validateDatasetGenerationPageSnapshot page with
      | .error failure => (.error ⟨.generationProofInvalid, failure.message,
          some failure.code.text⟩, { rows with runs := runs })
      | .ok page => (.ok ⟨page, false⟩, ⟨rows.generation.insertPage page, runs⟩)

def generationNotPlanned (message : String) : AuthorizePageFailure :=
  ⟨.generationNotPlanned, message, none⟩

/-- The cursor that a committed predecessor leaves for the next page. -/
def predecessorCursor (pageSequence : ℤ) : Option String :=
  match rows.generation.loadPage (pageSequence - 1) with
  | none => none
  | some previous =>
      if previous.state == .committed && previous.hasMore == some true then
        previous.nextCursor.join
      else none

def generationIsTerminal : DatasetGenerationState → Bool
  | .completed | .failed | .cancelled | .ambiguous => true
  | _ => false

/-- The first page of a planned generation, or the page after a committed one. -/
def authorizeNextPage (plan : DatasetGenerationPlan) (nextSequence : ℤ) :
    AuthorizePageResult × PageRows :=
  if nextSequence = 1 then
    if rows.generation.creation.generation.state == .planned then
      persistFreshPage preparePageRun rows request now plan 1 none
    else (.error (generationNotPlanned
      "Only a zero-progress planned generation can create its first page."), rows)
  else
    match predecessorCursor rows nextSequence with
    | some cursor =>
        if rows.generation.creation.generation.state == .running then
          persistFreshPage preparePageRun rows request now plan nextSequence (some cursor)
        else (.error (generationNotPlanned
          "Another page requires an exact committed predecessor cursor."), rows)
    | none => (.error (generationNotPlanned
        "Another page requires an exact committed predecessor cursor."), rows)

/-- The plan, the snapshot and the caller are checked before the page is looked up. -/
def authorizeInUnitOfWork : AuthorizePageResult × PageRows :=
  match rows.generation.storedPlan with
  | none => (.error ⟨.generationPlanNotFound,
      "The immutable generation plan does not exist.", none⟩, rows)
  | some plan =>
  match validateDatasetGenerationSnapshot rows.generation.creation plan with
  | .error failure => (.error ⟨.generationProofInvalid, failure.message,
      some failure.code.text⟩, rows)
  | .ok _ =>
  match validateCallerAuthorization request plan with
  | .error failure => (.error failure, rows)
  | .ok _ =>
      if generationIsTerminal rows.generation.creation.generation.state then
        (.error (generationNotPlanned "A terminal generation cannot authorize another page."),
          rows)
      else
        let nextSequence := rows.generation.creation.generation.counters.pages + 1
        match rows.generation.loadPage nextSequence with
        | some prior => (replayPriorPage rows request prior, rows)
        | none => authorizeNextPage preparePageRun rows request now plan nextSequence

variable {preparePageRun rows request now} in
/-- An admitted caller of an active generation gets to the page after its counter. -/
theorem authorizeInUnitOfWork_next {plan : DatasetGenerationPlan}
    (stored : rows.generation.storedPlan = some plan)
    (valid : SnapshotValid rows.generation.creation plan)
    (caller : validateCallerAuthorization request plan = .ok ())
    (active : generationIsTerminal rows.generation.creation.generation.state = false)
    (fresh : rows.generation.loadPage
      (rows.generation.creation.generation.counters.pages + 1) = none) :
    authorizeInUnitOfWork preparePageRun rows request now =
      authorizeNextPage preparePageRun rows request now plan
        (rows.generation.creation.generation.counters.pages + 1) := by
  unfold authorizeInUnitOfWork
  simp only [stored, valid.validate, caller, active, Bool.false_eq_true, if_false, fresh]

end Authorization

/-! ## What authorization does -/

/-- What a page authorization leaves of the rows: everything as it was, at most with a
Run more, or a new page after the page counter of an active generation. -/
inductive AuthorizationEffect (before after : PageRows) : Prop where
  | unchanged (same : after = before)
  | refused (run : Run) (left : after = { before with runs := storePageRun before.runs run })
  | created (page : DatasetGenerationPage) (run : Run)
      (active : before.generation.creation.generation.state = .planned ∨
        before.generation.creation.generation.state = .running)
      (fresh : before.generation.loadPage page.pageSequence = none)
      (sequence : page.pageSequence = before.generation.creation.generation.counters.pages + 1)
      (state : page.state = .runCreated) (runId : page.runId = run.runId)
      (left : after = ⟨before.generation.insertPage page, storePageRun before.runs run⟩)

private theorem persistFreshPage_effect {preparePageRun : PageRunPreparation} {rows : PageRows}
    {request : AuthorizePageRequest} {now : Instant} {plan : DatasetGenerationPlan}
    {pageSequence : ℤ} {inputCursor : Option String}
    (active : rows.generation.creation.generation.state = .planned ∨
      rows.generation.creation.generation.state = .running)
    (fresh : rows.generation.loadPage pageSequence = none)
    (sequence : pageSequence = rows.generation.creation.generation.counters.pages + 1) :
    AuthorizationEffect rows
      (persistFreshPage preparePageRun rows request now plan pageSequence inputCursor).2 := by
  unfold persistFreshPage
  split
  · exact .unchanged rfl
  · split
    · exact .unchanged rfl
    · rename_i prepared _
      dsimp only
      split
      · exact .refused prepared.run rfl
      · rename_i page pageEq
        obtain ⟨rfl, _⟩ := validateDatasetGenerationPageSnapshot_ok.mp pageEq
        exact .created _ prepared.run active fresh sequence rfl rfl rfl

theorem authorizeInUnitOfWork_effect (preparePageRun : PageRunPreparation) (rows : PageRows)
    (request : AuthorizePageRequest) (now : Instant) :
    AuthorizationEffect rows (authorizeInUnitOfWork preparePageRun rows request now).2 := by
  unfold authorizeInUnitOfWork
  split
  · exact .unchanged rfl
  split
  · exact .unchanged rfl
  split
  · exact .unchanged rfl
  split
  · exact .unchanged rfl
  dsimp only
  split
  · exact .unchanged rfl
  rename_i absent
  unfold authorizeNextPage
  split
  · rename_i first
    split
    · rename_i planned
      exact persistFreshPage_effect (.inl (by simpa using planned)) (first ▸ absent) first.symm
    · exact .unchanged rfl
  · split
    · split
      · rename_i running
        exact persistFreshPage_effect (.inr (by simpa using running)) absent rfl
      · exact .unchanged rfl
    · exact .unchanged rfl

end Kurobara.Application
