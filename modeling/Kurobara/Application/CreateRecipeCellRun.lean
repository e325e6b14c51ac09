import Kurobara.Application.CreateRunFromPlan
import Kurobara.Application.VerifiedApiKey
import Kurobara.Persistence.RecipeCellRows

/-! # Runs of recipe cells

`prepareRecipeCell` and `createRecipeCellRun`: a cell of a recipe application is bound to a
valid cached result of its exact input, or to one in flight, or a Run is created for it. The
part that holds the lock of the cache slot is a definition of its own: another transaction can
bind the cell after `applicationCells.get` found it unbound.
-/

namespace Kurobara.Application

open Foundation Kernel Persistence

structure CreateRecipeCellRunRequest where
  actor : VerifiedApiKey
  input : ExactRecipeCellInput
  inputId : String
  runPlanId : RunPlanId

inductive CreateRecipeCellRunFailureCode where
  | authorityPermissionMissing
  | cacheIdentityMismatch
  | inputIdRequired
  | recipeApplicationCellConflict
  | recipeCellInputNotFound
  | runCreationRejected
  | runPlanInputMismatch
  | runPlanWorkflowMismatch
  deriving DecidableEq, Repr

def CreateRecipeCellRunFailureCode.text : CreateRecipeCellRunFailureCode → String
  | .authorityPermissionMissing => "authority-permission-missing"
  | .cacheIdentityMismatch => "cache-identity-mismatch"
  | .inputIdRequired => "input-id-required"
  | .recipeApplicationCellConflict => "recipe-application-cell-conflict"
  | .recipeCellInputNotFound => "recipe-cell-input-not-found"
  | .runCreationRejected => "run-creation-rejected"
  | .runPlanInputMismatch => "run-plan-input-mismatch"
  | .runPlanWorkflowMismatch => "run-plan-workflow-mismatch"

structure CreateRecipeCellRunFailure where
  code : CreateRecipeCellRunFailureCode
  message : String
  domainCode : Option String
  deriving DecidableEq, Repr

inductive CreateRecipeCellRunSuccess where
  | created (cellResultId : CellResultId) (replayed : Bool) (run : Run)
  | active (cellResultId : CellResultId)
  | cached (cellResultId : CellResultId)
  | bound (cellResultId : CellResultId) (status : CellResultStatus)
  deriving DecidableEq, Repr

abbrev CreateRecipeCellRunResult := Except CreateRecipeCellRunFailure CreateRecipeCellRunSuccess

/-- What a transaction reads besides the rows: the database clock at its two reads and the
answer of `createRunInUnitOfWork` to the command and the expected binding of an input. -/
structure RecipeCellRunEnvironment where
  canonical : RecipeCanonicalization
  evidence : RecipeEvidence
  requiredPermission : String
  pinnedAt : Instant
  claimedAt : Instant
  createRun : ExactRecipeCellInput → CreateRunResult

/-- The evidence that the identifier of the result of a cell is derived from. -/
def cellResultIdJson (cacheKey : ContentHash) (applicationId : RecipeApplicationId)
    (recordId : RecordId) : NormalizedJsonValue :=
  .object [("cacheKey", .string cacheKey), ("recipeApplicationId", .string applicationId),
    ("recordId", .string recordId)]

/-- The digest is what follows `sha256:` in the content hash. -/
def deterministicCellResultId (canonical : RecipeCanonicalization)
    (input : ExactRecipeCellInput) : CellResultId :=
  "cell_" ++ canonical.digest (cellResultIdJson input.cacheKey input.recipeApplicationId
    input.recordId)

/-- The answer from the cell that the application already binds, if any. -/
def resolveExistingApplicationCell (evidence : RecipeEvidence) (scope : WorkspaceId)
    (rows : RecipeCellRows) (input : ExactRecipeCellInput) :
    Except RecipeAdapterError (Option CreateRecipeCellRunResult) :=
  (getApplicationCell evidence scope rows input.recipeApplicationId input.recordId).map
    fun prior => prior.map fun priorBinding =>
      if priorBinding.recordContentHash != input.recordContentHash ||
          priorBinding.cellResult.enrichmentRecipeId != input.recipeId ||
          priorBinding.cellResult.recipeRevision != input.recipeRevision ||
          priorBinding.cellResult.fieldId != input.targetFieldId then
        .error ⟨.recipeApplicationCellConflict,
          "The immutable application cell is already bound to another exact result.", none⟩
      else .ok (.bound priorBinding.cellResult.cellResultId priorBinding.cellResult.status)

section

variable (environment : RecipeCellRunEnvironment) (scope : WorkspaceId)

/-- The valid result of a slot and when it expires. -/
def validResult (cache : RecipeCellCacheSnapshot) : Option CellResultId :=
  cache.validUntil.bind fun _ => cache.validCellResultId

/-- A valid result is pinned unless it expired. -/
def pinValid (rows : RecipeCellRows) (input : ExactRecipeCellInput)
    (cache : RecipeCellCacheSnapshot) :
    Except RecipeAdapterError (Option CellResultId × RecipeCellRows) :=
  match validResult cache with
  | none => .ok (none, rows)
  | some cellResultId =>
      (pinCached environment.canonical environment.evidence scope rows input cellResultId
        environment.pinnedAt).map fun (pinned, after) =>
          if pinned then (some cellResultId, after) else (none, after)

/-- The binding of a cell to a result that its slot names, if it names one. -/
def resolveCachedApplicationCell (rows : RecipeCellRows) (input : ExactRecipeCellInput)
    (cache : Option RecipeCellCacheSnapshot) :
    Except RecipeAdapterError (Option CreateRecipeCellRunResult × RecipeCellRows) :=
  match cache with
  | none => .ok (none, rows)
  | some cache =>
      if cache.cacheKey != input.cacheKey ||
          !cacheIdentityMatches cache.cacheIdentity input.toRecipeCellCacheIdentity then
        .ok (some (.error ⟨.cacheIdentityMismatch,
          "The recipe cache slot does not match the exact cell input identity.", none⟩), rows)
      else
        (pinValid environment scope rows input cache).bind fun
          | (some cellResultId, after) => .ok (some (.ok (.cached cellResultId)), after)
          | (none, after) =>
              match cache.activeCellResultId with
              | none => .ok (none, after)
              | some cellResultId =>
                  (pinActive environment.canonical environment.evidence scope after input
                    cellResultId).map fun pinned => (some (.ok (.active cellResultId)), pinned)

private def runCreationFailure (failure : CreateRunUseCaseFailure) : CreateRecipeCellRunFailure :=
  match failure.domainCode with
  | some "run-plan-input-mismatch" => ⟨.runPlanInputMismatch, failure.message, none⟩
  | some "run-plan-workflow-mismatch" => ⟨.runPlanWorkflowMismatch, failure.message, none⟩
  | domainCode =>
      ⟨.runCreationRejected, failure.message, some (domainCode.getD failure.code.text)⟩

/-- The result that waits for a new Run, with a deterministic identity. -/
def pendingCell (canonical : RecipeCanonicalization) (input : ExactRecipeCellInput)
    (runId : RunId) : CellResult where
  cellResultId := deterministicCellResultId canonical input
  datasetId := input.datasetId
  enrichmentRecipeId := input.recipeId
  fieldId := input.targetFieldId
  recipeRevision := input.recipeRevision
  recordId := input.recordId
  runId := runId
  status := .pending
  workspaceId := input.workspaceId
  confidence := none
  cost := none
  freshness := none
  provenance := none
  reason := none
  value := none

/-- The Run, its pending result and the binding of the cell, in one transaction. -/
def createAndBindRecipeCellRun (rows : RecipeCellRows) (request : CreateRecipeCellRunRequest)
    (input : ExactRecipeCellInput) :
    Except RecipeAdapterError (CreateRecipeCellRunResult × RecipeCellRows) :=
  match environment.createRun input with
  | .error failure => .ok (.error (runCreationFailure failure), rows)
  | .ok creation =>
      let pending := pendingCell environment.canonical input creation.run.runId
      (bindPending environment.canonical environment.evidence scope rows
        ⟨pending, input, request.inputId, request.runPlanId⟩ environment.claimedAt).map
          fun after =>
            (.ok (.created pending.cellResultId creation.replayed creation.run), after)

/-- The part of the transaction from the lock of the cache slot on. -/
def createUnderCacheLock (rows : RecipeCellRows) (request : CreateRecipeCellRunRequest)
    (input : ExactRecipeCellInput) :
    Except RecipeAdapterError (CreateRecipeCellRunResult × RecipeCellRows) :=
  (loadCache environment.canonical rows input.cacheKey).bind fun cache =>
    (resolveCachedApplicationCell environment scope rows input cache).bind fun
      | (some result, after) => .ok (result, after)
      | (none, after) => createAndBindRecipeCellRun environment scope after request input

/-- The checks of a request before its input is read. -/
def validateRecipeCellRequest (request : CreateRecipeCellRunRequest) :
    Except CreateRecipeCellRunFailure Unit :=
  if !hasPermission request.actor environment.requiredPermission then
    .error ⟨.authorityPermissionMissing,
      "The authenticated actor lacks permission to create recipe-cell runs.", none⟩
  else if !nonBlank request.inputId then
    .error ⟨.inputIdRequired,
      "A recipe-cell run requires an exact persisted input identity.", none⟩
  else if request.input.workspaceId != request.actor.workspaceId ||
      scope != request.actor.workspaceId then
    .error ⟨.recipeCellInputNotFound,
      "The exact recipe cell input does not exist in this workspace.", none⟩
  else .ok ()

/-- The stored input that a request names exactly. -/
def requestedInput (request : CreateRecipeCellRunRequest) :
    Except RecipeAdapterError (Option ExactRecipeCellInput) :=
  (resolveExactInput environment.canonical environment.evidence
    request.input.recipeApplicationId request.input.recordId).map fun stored =>
      stored.filter fun storedInput =>
        exactInputMatches storedInput request.input

/-- An existing cell answers first, then the cache under its lock. -/
def createRecipeCellRunInUnitOfWork (rows : RecipeCellRows)
    (request : CreateRecipeCellRunRequest) :
    Except RecipeAdapterError (CreateRecipeCellRunResult × RecipeCellRows) :=
  match validateRecipeCellRequest environment scope request with
  | .error failure => .ok (.error failure, rows)
  | .ok _ =>
      (requestedInput environment request).bind fun
        | none => .ok (.error ⟨.recipeCellInputNotFound,
            "The requested cell does not match the exact stored recipe input.", none⟩, rows)
        | some storedInput =>
            (resolveExistingApplicationCell environment.evidence scope rows storedInput).bind fun
              | some result => .ok (result, rows)
              | none => createUnderCacheLock environment scope rows request storedInput

end

/-! ## Preparation -/

structure PrepareRecipeCellRequest where
  actor : VerifiedApiKey
  recipeApplicationId : RecipeApplicationId
  recordId : RecordId
  deriving DecidableEq, Repr

inductive PrepareRecipeCellFailureCode where
  | authorityPermissionMissing
  | cacheIdentityMismatch
  | recipeCellInputNotFound
  deriving DecidableEq, Repr

structure PrepareRecipeCellFailure where
  code : PrepareRecipeCellFailureCode
  message : String
  deriving DecidableEq, Repr

/-- What stands at a cell before any Run is planned for it. -/
inductive PrepareRecipeCellSuccess where
  | bound (projection : ExactRecipeProjectionRow)
  | active (cellResultId : CellResultId) (input : ExactRecipeCellInput)
  | cached (cellResultId : CellResultId) (input : ExactRecipeCellInput)
  | ready (input : ExactRecipeCellInput)

abbrev PrepareRecipeCellResult := Except PrepareRecipeCellFailure PrepareRecipeCellSuccess

section

variable (environment : RecipeCellRunEnvironment) (scope : WorkspaceId)

/-- The part of the transaction from the lock of the cache slot on. The comparison of the
identities is by their fields here. -/
def prepareFromCache (rows : RecipeCellRows) (input : ExactRecipeCellInput) :
    Except RecipeAdapterError (PrepareRecipeCellResult × RecipeCellRows) :=
  (loadCache environment.canonical rows input.cacheKey).bind fun
    | none => .ok (.ok (.ready input), rows)
    | some cache =>
        if cache.cacheKey != input.cacheKey ||
            cache.cacheIdentity != input.toRecipeCellCacheIdentity then
          .ok (.error ⟨.cacheIdentityMismatch,
            "The recipe cache slot does not match the exact cell input identity."⟩, rows)
        else
          (pinValid environment scope rows input cache).bind fun
            | (some cellResultId, after) => .ok (.ok (.cached cellResultId input), after)
            | (none, after) =>
                match cache.activeCellResultId with
                | none => .ok (.ok (.ready input), after)
                | some cellResultId =>
                    (pinActive environment.canonical environment.evidence scope after input
                      cellResultId).map fun pinned => (.ok (.active cellResultId input), pinned)

/-- A preparation reads, and binds the cell to a valid cached result. -/
def prepareRecipeCellInUnitOfWork (rows : RecipeCellRows) (request : PrepareRecipeCellRequest) :
    Except RecipeAdapterError (PrepareRecipeCellResult × RecipeCellRows) :=
  (getApplicationCell environment.evidence scope rows request.recipeApplicationId
    request.recordId).bind fun
    | some existing => .ok (.ok (.bound existing), rows)
    | none =>
        (resolveExactInput environment.canonical environment.evidence
          request.recipeApplicationId request.recordId).bind fun exactInput =>
            match exactInput.filter fun input => input.workspaceId == scope with
            | none => .ok (.error ⟨.recipeCellInputNotFound,
                "The exact recipe cell input does not exist in this workspace."⟩, rows)
            | some input => prepareFromCache environment scope rows input

end

def prepareRecipeCell (environment : RecipeCellRunEnvironment) (rows : RecipeCellRows)
    (request : PrepareRecipeCellRequest) :
    Except RecipeAdapterError (PrepareRecipeCellResult × RecipeCellRows) :=
  if !hasPermission request.actor environment.requiredPermission then
    .ok (.error ⟨.authorityPermissionMissing,
      "The authenticated actor lacks permission to prepare recipe cells."⟩, rows)
  else prepareRecipeCellInUnitOfWork environment request.actor.workspaceId rows request

/-! ## Claims -/

/-- `markBoundCellRunning`, of the Run that a claim started: its bound cell starts running. A
rejected transition is a failure of the claim, which writes nothing. -/
def markBoundCellRunning (evidence : RecipeEvidence) (rows : RecipeCellRows) (runId : RunId) :
    Except RecipeAdapterError (Except CellResultTransitionFailure RecipeCellRows) :=
  (loadCellByRun evidence rows runId).bind fun
    | none => .ok (.ok rows)
    | some current =>
        match transitionCellResult current.cellResult
            { current.cellResult with status := .running } with
        | .error failure => .ok (.error failure)
        | .ok transition =>
            if transition.replayed then .ok (.ok rows)
            else (markRunning evidence rows runId transition.cellResult).map .ok

end Kurobara.Application
