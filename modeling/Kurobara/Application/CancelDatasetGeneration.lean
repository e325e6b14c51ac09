import Kurobara.Persistence.GenerationRows
import Kurobara.Persistence.RunRows

/-! # Cancelling a Run and a dataset generation

`cancelRunInUnitOfWork` requests the stop of one Run. `cancelInUnitOfWork` requests the
stop of a generation and, in the same transaction, of the Run of the page that the
generation's page counter names, or of the first page while the counter is zero.
-/

namespace Kurobara.Application

open Kernel Persistence

/-- `CANCEL_RUN_COMMAND_HASH`. -/
def cancelRunCommandHash : ContentHash :=
  "sha256:ea28a7e32707b83c7b15be078d3f6cec2b35a7bcf872ec0528090e8f2a749407"

/-- `CANCEL_DATASET_GENERATION_COMMAND_HASH`. -/
def cancelDatasetGenerationCommandHash : ContentHash :=
  "sha256:3b9d16e8ca745d5882f45fe3e21405a276d13aeb6f5272e8808903415bab253f"

/-- The clock reading and the event identities that a cancellation draws. -/
structure CancellationEnvironment where
  now : Instant
  eventIds : ℕ → EventId

/-! ## Runs -/

inductive CancelRunFailureCode where
  | domainRejected
  | idempotencyKeyReused
  | runNotFound
  deriving DecidableEq, Repr

def CancelRunFailureCode.text : CancelRunFailureCode → String
  | .domainRejected => "domain-rejected"
  | .idempotencyKeyReused => "idempotency-key-reused"
  | .runNotFound => "run-not-found"

structure CancelRunFailure where
  code : CancelRunFailureCode
  domainCode : Option String
  message : String
  deriving DecidableEq, Repr

structure CancelRunSuccess where
  replayed : Bool
  run : Run
  deriving DecidableEq, Repr

structure CancelRunRequest where
  actorId : ActorId
  correlationId : CorrelationId
  idempotencyKey : IdempotencyKey
  deriving DecidableEq, Repr

/-- The events that the cancellation of a Run appends. -/
def requiredEventCount (run : Run) : ℕ :=
  match run.state with
  | .queued | .running | .waiting => 2
  | .ambiguous => 1
  | _ => 0

def cancelRunIdentity (request : CancelRunRequest) : RunCommandIdentity :=
  ⟨request.idempotencyKey, cancelRunCommandHash⟩

def cancelRunContext (environment : CancellationEnvironment) (run : Run)
    (replayProof : Option RunCommandReplayProof) (request : CancelRunRequest) :
    RunCommandContext where
  commandIdentity := cancelRunIdentity request
  expectedAggregateVersion := run.aggregateVersion
  eventIds :=
    if replayProof.isNone then (List.range (requiredEventCount run)).map environment.eventIds
    else []
  occurredAt := environment.now
  actorId := request.actorId
  correlationId := request.correlationId
  replayProof := replayProof

/-- A replay writes nothing. -/
def persistFreshCancellation (rows : RunRows) (previousRun : Run) (transition : RunTransition)
    (request : CancelRunRequest) : RunRows :=
  if transition.replayed then rows
  else
    let recorded := rows.recordRunTransition transition {
      runId := previousRun.runId
      workspaceId := previousRun.workspaceId
      identity := cancelRunIdentity request
      commandType := .requestStop }
    if transition.run.state == .cancelling then
      { recorded with dagScheduleRequests :=
        recorded.dagScheduleRequests ++ [transition.run.runId] }
    else recorded

private def cancelRunFailure (failure : RunTransitionFailure) : CancelRunFailure :=
  if failure.code == .idempotencyKeyReused then ⟨.idempotencyKeyReused, none, failure.message⟩
  else ⟨.domainRejected, some failure.code.text, failure.message⟩

/-- `CancelRun` on a stored Run: replayed from the journal, or applied and recorded. -/
def cancelRunInUnitOfWork (environment : CancellationEnvironment) (rows : RunRows)
    (selectedRunId : RunId) (request : CancelRunRequest) :
    Except CancelRunFailure (CancelRunSuccess × RunRows) :=
  match rows.findRun selectedRunId with
  | none => .error ⟨.runNotFound, none, "The run does not exist in this workspace."⟩
  | some run =>
      let replayProof := rows.findCommand selectedRunId request.idempotencyKey
      match applyRunCommand run (.requestStop .requested)
        (cancelRunContext environment run replayProof request) with
      | .error failure => .error (cancelRunFailure failure)
      | .ok transition =>
          .ok (⟨transition.replayed, transition.run⟩,
            persistFreshCancellation rows run transition request)

/-! ## Generations -/

/-- One accepted cancellation command of the workspace. -/
structure DatasetGenerationCancellationJournalEntry where
  commandHash : ContentHash
  generationId : DatasetGenerationId
  idempotencyKey : IdempotencyKey
  requestedAt : Instant
  deriving DecidableEq, Repr

structure CancelDatasetGenerationRequest where
  actorId : ActorId
  correlationId : CorrelationId
  generationId : DatasetGenerationId
  idempotencyKey : IdempotencyKey
  deriving DecidableEq, Repr

inductive CancelDatasetGenerationFailureCode where
  | authorityPermissionMissing
  | datasetGenerationNotFound
  | domainRejected
  | idempotencyKeyReused
  deriving DecidableEq, Repr

structure CancelDatasetGenerationFailure where
  code : CancelDatasetGenerationFailureCode
  domainCode : Option String
  message : String
  deriving DecidableEq, Repr

structure CancelDatasetGenerationSuccess where
  generation : DatasetGenerationCreation
  replayed : Bool

abbrev CancelDatasetGenerationResult :=
  Except CancelDatasetGenerationFailure CancelDatasetGenerationSuccess

/-- The rows that a cancellation reads and writes: one generation with its pages, the
Runs of the workspace, and the cancellation commands of the workspace. -/
structure CancellationRows where
  generation : GenerationRows
  runs : RunRows
  journal : List DatasetGenerationCancellationJournalEntry

def rejected (code : CancelDatasetGenerationFailureCode) (message : String)
    (domainCode : Option String := none) : CancelDatasetGenerationResult :=
  .error ⟨code, domainCode, message⟩

private def journalEntry (request : CancelDatasetGenerationRequest) (requestedAt : Instant) :
    DatasetGenerationCancellationJournalEntry :=
  ⟨cancelDatasetGenerationCommandHash, request.generationId, request.idempotencyKey, requestedAt⟩

/-- The sequence that the cancellation looks for the page to stop at. -/
def activeSequence (generation : DatasetGeneration) : ℤ :=
  if generation.counters.pages = 0 then 1 else generation.counters.pages

def pageCancelRequest (request : CancelDatasetGenerationRequest) : CancelRunRequest :=
  ⟨request.actorId, request.correlationId, request.idempotencyKey⟩

/-- The Run rows after the stop of the active page, or why its Run cannot be stopped. -/
def cancelActivePage (environment : CancellationEnvironment) (rows : CancellationRows)
    (request : CancelDatasetGenerationRequest) : Except CancelRunFailure RunRows :=
  match rows.generation.loadPage (activeSequence rows.generation.creation.generation) with
  | none => .ok rows.runs
  | some page =>
      if page.state == .runCreated then
        (cancelRunInUnitOfWork environment rows.runs page.runId (pageCancelRequest request)).map
          Prod.snd
      else .ok rows.runs

/-- A cancellation whose key is known is replayed for exactly the same command. -/
def replayCancellation (rows : CancellationRows) (request : CancelDatasetGenerationRequest)
    (prior : DatasetGenerationCancellationJournalEntry) : CancelDatasetGenerationResult :=
  if prior.generationId == request.generationId &&
      prior.commandHash == cancelDatasetGenerationCommandHash then
    .ok ⟨rows.generation.creation, true⟩
  else rejected .idempotencyKeyReused
    "The dataset generation cancellation key is already bound to another command."

/-- The stop that an active generation already carries. -/
def recordedStop (generation : DatasetGeneration) : Option DatasetGenerationStop :=
  if generation.state == .stopping || generation.state == .cancelled ||
      generation.state == .ambiguous then generation.stop
  else none

private def generationStateText : DatasetGenerationState → String
  | .planned => "planned"
  | .running => "running"
  | .stopping => "stopping"
  | .completed => "completed"
  | .failed => "failed"
  | .cancelled => "cancelled"
  | .ambiguous => "ambiguous"

private def cancellationIsImpossible : DatasetGenerationState → Bool
  | .ambiguous | .completed | .failed => true
  | _ => false

/-- The stop of a generation that carries none. -/
def requestStopInUnitOfWork (environment : CancellationEnvironment) (rows : CancellationRows)
    (plan : DatasetGenerationPlan) (request : CancelDatasetGenerationRequest) :
    CancelDatasetGenerationResult × CancellationRows :=
  match requestDatasetGenerationStop rows.generation.creation plan
    ⟨"requested", environment.now⟩ with
  | .error failure => (rejected .domainRejected failure.message (some failure.code.text), rows)
  | .ok stopped =>
  match cancelActivePage environment rows request with
  | .error failure => (rejected .domainRejected
      "The canonical page Run could not be cancelled before its effect threshold."
      (some (failure.domainCode.getD failure.code.text)), rows)
  | .ok runs => (.ok ⟨stopped, false⟩, {
      generation := rows.generation.updateGeneration stopped
      runs := runs
      journal := rows.journal ++ [journalEntry request environment.now] })

/-- The stop of a generation, and of the Run of the page that is looked up. -/
def cancelInUnitOfWork (environment : CancellationEnvironment) (rows : CancellationRows)
    (request : CancelDatasetGenerationRequest) :
    CancelDatasetGenerationResult × CancellationRows :=
  let generation := rows.generation.creation.generation
  if request.generationId != generation.generationId then
    (rejected .datasetGenerationNotFound
      "The dataset generation does not exist in this workspace.", rows)
  else
    match rows.journal.find? fun entry => entry.idempotencyKey == request.idempotencyKey with
    | some prior => (replayCancellation rows request prior, rows)
    | none =>
    match rows.generation.storedPlan with
    | none => (rejected .domainRejected "The immutable dataset generation plan is missing."
        (some "generation-plan-not-found"), rows)
    | some plan =>
      if plan.authority.subjectActorId != request.actorId then
        (rejected .authorityPermissionMissing
          "Only the generation authority subject can cancel this dataset generation.", rows)
      else
        match recordedStop generation with
        | some stop => (.ok ⟨rows.generation.creation, true⟩,
            { rows with journal := rows.journal ++ [journalEntry request stop.requestedAt] })
        | none =>
            if cancellationIsImpossible generation.state then
              (rejected .domainRejected
                "A terminal or independently ambiguous generation cannot be cancelled."
                (some s!"generation-{generationStateText generation.state}"), rows)
            else requestStopInUnitOfWork environment rows plan request

/-! ## What a cancellation does -/

/-- What a cancellation leaves of the rows: generation, pages and Runs as they were, or
the stop of the generation with the stop of its active page. -/
inductive CancellationEffect (environment : CancellationEnvironment) (before : CancellationRows)
    (request : CancelDatasetGenerationRequest) :
    CancelDatasetGenerationResult → CancellationRows → Prop where
  | refused (failure : CancelDatasetGenerationFailure) :
      CancellationEffect environment before request (.error failure) before
  | replayed (success : CancelDatasetGenerationSuccess)
      (journal : List DatasetGenerationCancellationJournalEntry)
      (again : success.replayed = true) :
      CancellationEffect environment before request (.ok success) { before with journal := journal }
  | stopped (plan : DatasetGenerationPlan) (stopped : DatasetGenerationCreation) (runs : RunRows)
      (stored : before.generation.storedPlan = some plan)
      (requested : requestDatasetGenerationStop before.generation.creation plan
        ⟨"requested", environment.now⟩ = .ok stopped)
      (cancelled : cancelActivePage environment before request = .ok runs) :
      CancellationEffect environment before request (.ok ⟨stopped, false⟩) {
        generation := before.generation.updateGeneration stopped
        runs := runs
        journal := before.journal ++ [journalEntry request environment.now] }

private theorem requestStopInUnitOfWork_effect {environment : CancellationEnvironment}
    {rows : CancellationRows} {plan : DatasetGenerationPlan}
    {request : CancelDatasetGenerationRequest} (stored : rows.generation.storedPlan = some plan) :
    CancellationEffect environment rows request
      (requestStopInUnitOfWork environment rows plan request).1
      (requestStopInUnitOfWork environment rows plan request).2 := by
  unfold requestStopInUnitOfWork
  split
  · exact .refused _
  · rename_i stopped requested
    split
    · exact .refused _
    · rename_i runs cancelled
      exact .stopped plan stopped runs stored requested cancelled

theorem cancelInUnitOfWork_effect (environment : CancellationEnvironment) (rows : CancellationRows)
    (request : CancelDatasetGenerationRequest) :
    CancellationEffect environment rows request (cancelInUnitOfWork environment rows request).1
      (cancelInUnitOfWork environment rows request).2 := by
  unfold cancelInUnitOfWork
  dsimp only
  split
  · exact .refused _
  split
  · unfold replayCancellation
    split
    · exact .replayed _ rows.journal rfl
    · exact .refused _
  split
  · exact .refused _
  rename_i plan stored
  split
  · exact .refused _
  split
  · exact .replayed _ _ rfl
  split
  · exact .refused _
  · exact requestStopInUnitOfWork_effect stored

end Kurobara.Application
