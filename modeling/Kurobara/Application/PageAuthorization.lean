import Kurobara.Application.PageRunPlanning

/-! # Page authorization over all its rows

`authorizeInUnitOfWork` with the rows that it writes: the Run plan of the page, its
input, the Run with its event and message, and the page. The transaction commits
whenever the callback returns, also when it returns a failure.
-/

namespace Kurobara.Application

open Engine Kernel Persistence

/-- The rows a page authorization reads and writes: the generation's and those of Run creation. -/
structure PageCreationRows (Value : Type) where
  generation : GenerationRows
  creation : RunCreationRows Value

def PageCreationRows.pageRows {Value : Type} (rows : PageCreationRows Value) : PageRows :=
  ⟨rows.generation, rows.creation.runs⟩

/-- What the unit of work takes from outside: the canonical forms, the fresh identifiers and the
clock. -/
structure PageAuthorizationEnvironment (Value : Type) where
  canonical : PageCanonicalization Value
  identifiers : RunIdentifiers
  now : Instant

def mapRunFailure (failure : CreateRunUseCaseFailure) : AuthorizePageFailure where
  code := if failure.code = .authorityPermissionMissing then .authorityPermissionMissing
    else .runCreationRejected
  message := failure.message
  domainCode := some (failure.domainCode.getD failure.code.text)

section Authorization

variable {Value : Type} (environment : PageAuthorizationEnvironment Value)
  (rows : PageCreationRows Value) (request : AuthorizePageRequest)

/-- `preparePageRun` over the stored generation. -/
def planPageRun (plan : DatasetGenerationPlan) (pageSequence : ℤ) (inputCursor : Option String) :
    Except AuthorizePageFailure (PlannedPageRun Value) :=
  preparePageRun environment.canonical request.generationId plan rows.generation.creation
    pageSequence inputCursor request.actorPermissions environment.now

/-- The creation of the page Run, under the key of the page and the hash of its plan. -/
def pageRunCreation (pageSequence : ℤ) (planned : PlannedPageRun Value) :
    CreateRunInUnitOfWorkInput where
  command := {
    workspaceId := request.workspaceId
    actorId := request.actorId
    actorPermissions := request.actorPermissions
    authenticationMode := request.authenticationMode
    correlationId := request.correlationId
    idempotencyKey := creationKey request.generationId pageSequence
    intentionHash := planned.runPlan.planHash
    runPlanId := planned.runPlan.runPlanId }
  identifiers := environment.identifiers
  requiredPermission := datasetGenerationExecutionPermission
  expectedPlanBinding := some {
    normalizedInputHash := planned.validatedInput.contentHash
    workflowContentHash := planned.workflow.contentHash
    workflowRevision := planned.workflow.revision
    workflowSpecId := planned.workflow.workflowSpecId }
  now := environment.now

/-- The page that is created for a Run. -/
def createdPage (pageSequence : ℤ) (inputCursor : Option String) (planned : PlannedPageRun Value)
    (run : Run) : DatasetGenerationPage :=
  { newPage request environment.now ⟨run, planned.validatedInput.contentHash,
      planned.validatedInput.inputId⟩ pageSequence inputCursor with
    runPlanId := planned.runPlan.runPlanId }

/-- The page with its Run, from a plan and an input that are stored. -/
def persistPageRun (pageSequence : ℤ) (inputCursor : Option String)
    (planned : PlannedPageRun Value) (stored : RunCreationRows Value) :
    Except PersistenceError (AuthorizePageResult × PageCreationRows Value) :=
  match createRunInUnitOfWork stored (pageRunCreation environment request pageSequence planned) with
  | .error failure => .error failure
  | .ok (.error failure, creation) =>
      .ok (.error (mapRunFailure failure), ⟨rows.generation, creation⟩)
  | .ok (.ok success, creation) =>
      match validateDatasetGenerationPageSnapshot
        (createdPage environment request pageSequence inputCursor planned success.run) with
      | .error failure => .ok (.error ⟨.generationProofInvalid, failure.message,
          some failure.code.text⟩, ⟨rows.generation, creation⟩)
      | .ok page => .ok (.ok ⟨page, false⟩, ⟨rows.generation.insertPage page, creation⟩)

/-- The plan and the input are stored before the Run is created. -/
def storePlannedRun [DecidableEq Value] (creation : RunCreationRows Value)
    (planned : PlannedPageRun Value) : Except PersistenceError (RunCreationRows Value) :=
  match creation.insertRunPlan planned.runPlan with
  | .error failure => .error failure
  | .ok inserted => inserted.insertRunInput planned.runPlan planned.validatedInput

/-- Stores the planned Run and its plan, then the page that names them. -/
def persistFreshPageRun [DecidableEq Value] (plan : DatasetGenerationPlan) (pageSequence : ℤ)
    (inputCursor : Option String) :
    Except PersistenceError (AuthorizePageResult × PageCreationRows Value) :=
  match validateAuthorization request plan rows.generation.creation environment.now with
  | .error failure => .ok (.error failure, rows)
  | .ok _ =>
  match planPageRun environment rows request plan pageSequence inputCursor with
  | .error failure => .ok (.error failure, rows)
  | .ok planned =>
  match storePlannedRun rows.creation planned with
  | .error failure => .error failure
  | .ok stored => persistPageRun environment rows request pageSequence inputCursor planned stored

private def anotherPageNeedsCursor : AuthorizePageFailure :=
  generationNotPlanned "Another page requires an exact committed predecessor cursor."

/-- What an authorization creates, when it creates a page: the first page of a planned
generation, or the page after a committed one of a running generation. -/
def freshPage (nextSequence : ℤ) : Except AuthorizePageFailure (Option String) :=
  let state := rows.generation.creation.generation.state
  if nextSequence = 1 then
    if state == .planned then .ok none
    else .error (generationNotPlanned
      "Only a zero-progress planned generation can create its first page.")
  else
    match predecessorCursor rows.pageRows nextSequence with
    | some cursor => if state == .running then .ok (some cursor) else .error anotherPageNeedsCursor
    | none => .error anotherPageNeedsCursor

/-- The plan under which a request may authorize a page of the stored generation. -/
def authorizingPlan : Except AuthorizePageFailure DatasetGenerationPlan :=
  match rows.generation.storedPlan with
  | none => .error ⟨.generationPlanNotFound,
      "The immutable generation plan does not exist.", none⟩
  | some plan =>
  match validateDatasetGenerationSnapshot rows.generation.creation plan with
  | .error failure => .error ⟨.generationProofInvalid, failure.message, some failure.code.text⟩
  | .ok _ =>
  match validateCallerAuthorization request plan with
  | .error failure => .error failure
  | .ok _ =>
      if generationIsTerminal rows.generation.creation.generation.state then
        .error (generationNotPlanned "A terminal generation cannot authorize another page.")
      else .ok plan

/-- The sequence of the page that an authorization of these rows opens. -/
def nextPageSequence : ℤ :=
  rows.generation.creation.generation.counters.pages + 1

/-- `authorizePage`: replays the stored page of the next sequence, or plans, stores and binds a
fresh page Run. -/
def authorizePage [DecidableEq Value] :
    Except PersistenceError (AuthorizePageResult × PageCreationRows Value) :=
  match authorizingPlan rows request with
  | .error failure => .ok (.error failure, rows)
  | .ok plan =>
  match rows.generation.loadPage (nextPageSequence rows) with
  | some prior => .ok (replayPriorPage rows.pageRows request prior, rows)
  | none =>
  match freshPage rows (nextPageSequence rows) with
  | .error failure => .ok (.error failure, rows)
  | .ok inputCursor =>
      persistFreshPageRun environment rows request plan (nextPageSequence rows) inputCursor

end Authorization

end Kurobara.Application
