import Kurobara.Foundation.Fallible
import Kurobara.Foundation.Keyed
import Kurobara.Kernel.NormalizedJson
import Kurobara.Kernel.Run.Lifecycle
import Kurobara.Persistence.RecipePersistence

/-! # Recipe cell rows

The cell results of a workspace, the cache slot of every exact recipe input, and the cells
that applications are bound to, as the recipe adapter reads and writes them. A slot names the
result that is being computed for its input and the last one that is valid for some time.
-/

namespace Kurobara.Persistence

open Foundation Kernel

/-! ## Exact inputs -/

/-- The value of an input field, or that there is none. -/
inductive RecipeCellInputValue where
  | absent (fieldId : FieldId)
  | present (fieldId : FieldId) (value : ScalarValue)
  deriving DecidableEq, Repr

/-- What a cached result is for. -/
structure RecipeCellCacheIdentity where
  datasetId : DatasetId
  inputHash : ContentHash
  recipeId : EnrichmentRecipeId
  recipeRevision : String
  recordContentHash : ContentHash
  recordId : RecordId
  targetFieldId : FieldId
  workflowContentHash : ContentHash
  workflowRevision : String
  workflowSpecId : String
  workspaceId : WorkspaceId
  deriving DecidableEq, Repr

/-- `cacheIdentityFromInput` and `cacheIdentityFor` of an input are its first fields. -/
structure ExactRecipeCellInput extends RecipeCellCacheIdentity where
  cacheKey : ContentHash
  inputValues : List RecipeCellInputValue
  normalizedInput : NormalizedJsonValue
  recipeApplicationId : RecipeApplicationId

/-- The digest of the canonical text of a value. -/
structure RecipeCanonicalization where
  digest : NormalizedJsonValue → String

section Hashes

variable (canonical : RecipeCanonicalization)

private def recipeCanonicalHash (value : NormalizedJsonValue) : ContentHash :=
  "sha256:" ++ canonical.digest value

/-- The identity as it is hashed. -/
def RecipeCellCacheIdentity.json (identity : RecipeCellCacheIdentity) : JsonProperties :=
  [("datasetId", .string identity.datasetId), ("inputHash", .string identity.inputHash),
    ("recipeId", .string identity.recipeId), ("recipeRevision", .string identity.recipeRevision),
    ("recordContentHash", .string identity.recordContentHash),
    ("recordId", .string identity.recordId), ("targetFieldId", .string identity.targetFieldId),
    ("workflowContentHash", .string identity.workflowContentHash),
    ("workflowRevision", .string identity.workflowRevision),
    ("workflowSpecId", .string identity.workflowSpecId),
    ("workspaceId", .string identity.workspaceId)]

/-- The cache key of an identity. -/
def recipeCellCacheKey (identity : RecipeCellCacheIdentity) : ContentHash :=
  recipeCanonicalHash canonical (.object identity.json)

/-- The input value as it is hashed. -/
def RecipeCellInputValue.json : RecipeCellInputValue → NormalizedJsonValue
  | .absent fieldId => .object [("fieldId", .string fieldId), ("present", .boolean false)]
  | .present fieldId value => .object [("fieldId", .string fieldId), ("present", .boolean true),
      ("value", scalarJson value)]

end Hashes

/-! ## Equality of JSON

The adapter's `jsonMatches` compares the hashes of canonical texts. It stands as the equality of
the values; records with the same properties are equal when their fields are. -/

/-- The two inputs are the same in every part. -/
def exactInputMatches (expected actual : ExactRecipeCellInput) : Bool :=
  expected.toRecipeCellCacheIdentity == actual.toRecipeCellCacheIdentity &&
    expected.cacheKey == actual.cacheKey && expected.inputValues == actual.inputValues &&
    jsonMatches expected.normalizedInput actual.normalizedInput &&
    expected.recipeApplicationId == actual.recipeApplicationId

def cacheIdentityMatches (left right : RecipeCellCacheIdentity) : Bool :=
  left == right

/-! ## Errors -/

inductive RecipeAdapterErrorCode where
  | cellResultEvidenceInvalid
  | cellResultEvidenceMissing
  | cellResultMissing
  | cellResultTransitionConflict
  | databaseIdentityMismatch
  | databasePayloadInvalid
  | immutableRecordConflict
  | recipeActiveBindingInvalid
  | recipeApplicationCellInvalid
  | recipeCacheActiveConflict
  | recipeCacheBindingInvalid
  | recipeCacheConflict
  | recipeCacheIdentityConflict
  | recipeCacheInvalid
  | recipeCacheReadbackMismatch
  | recipeCacheValidConflict
  | recipeInputMismatch
  | recipeInputMissing
  | workspaceScopeMismatch
  deriving DecidableEq, Repr

def RecipeAdapterErrorCode.text : RecipeAdapterErrorCode → String
  | .cellResultEvidenceInvalid => "cell-result-evidence-invalid"
  | .cellResultEvidenceMissing => "cell-result-evidence-missing"
  | .cellResultMissing => "cell-result-missing"
  | .cellResultTransitionConflict => "cell-result-transition-conflict"
  | .databaseIdentityMismatch => "database-identity-mismatch"
  | .databasePayloadInvalid => "database-payload-invalid"
  | .immutableRecordConflict => "immutable-record-conflict"
  | .recipeActiveBindingInvalid => "recipe-active-binding-invalid"
  | .recipeApplicationCellInvalid => "recipe-application-cell-invalid"
  | .recipeCacheActiveConflict => "recipe-cache-active-conflict"
  | .recipeCacheBindingInvalid => "recipe-cache-binding-invalid"
  | .recipeCacheConflict => "recipe-cache-conflict"
  | .recipeCacheIdentityConflict => "recipe-cache-identity-conflict"
  | .recipeCacheInvalid => "recipe-cache-invalid"
  | .recipeCacheReadbackMismatch => "recipe-cache-readback-mismatch"
  | .recipeCacheValidConflict => "recipe-cache-valid-conflict"
  | .recipeInputMismatch => "recipe-input-mismatch"
  | .recipeInputMissing => "recipe-input-missing"
  | .workspaceScopeMismatch => "workspace-scope-mismatch"

/-- A transaction that throws one of these is rolled back. -/
structure RecipeAdapterError where
  code : RecipeAdapterErrorCode
  message : String
  deriving DecidableEq, Repr

def rejected {Value : Type} (code : RecipeAdapterErrorCode) (message : String) :
    Except RecipeAdapterError Value :=
  .error ⟨code, message⟩

/-- `ImmutableRecordConflictError`. -/
def immutableConflict {Value : Type} (record : String) : Except RecipeAdapterError Value :=
  rejected .immutableRecordConflict
    s!"The stored {record} conflicts with the immutable input."

/-! ## Immutable evidence -/

/-- A dataset with its fields. -/
structure DatasetContext where
  dataset : Dataset
  fields : List Field
  deriving DecidableEq, Repr

/-- A record with its content hash. -/
structure StoredRecord where
  contentHash : ContentHash
  record : DatasetRecord
  deriving DecidableEq, Repr

/-- The datasets, records, recipes and applications of a workspace, which never change. -/
structure RecipeEvidence where
  datasets : List DatasetContext
  records : List StoredRecord
  recipes : List EnrichmentRecipe
  applications : List RecipeApplication
  deriving DecidableEq, Repr

namespace RecipeEvidence

/-- The application of an identifier. -/
def loadApplication (evidence : RecipeEvidence) (applicationId : RecipeApplicationId) :
    Option RecipeApplication :=
  evidence.applications.find? fun application =>
    application.recipeApplicationId == applicationId

/-- The dataset and its fields. -/
def loadDatasetContext (evidence : RecipeEvidence) (datasetId : DatasetId) :
    Option DatasetContext :=
  evidence.datasets.find? fun context => context.dataset.datasetId == datasetId

def loadRecipe (evidence : RecipeEvidence) (datasetId : DatasetId)
    (recipeId : EnrichmentRecipeId) (revision : String) : Option EnrichmentRecipe :=
  evidence.recipes.find? fun recipe => recipe.datasetId == datasetId &&
    recipe.enrichmentRecipeId == recipeId && recipe.recipeRevision == revision

/-- The record of a dataset, with its hash. -/
def loadRecord (evidence : RecipeEvidence) (context : DatasetContext) (recordId : RecordId) :
    Option StoredRecord :=
  evidence.records.find? fun stored =>
    stored.record.datasetId == context.dataset.datasetId && stored.record.recordId == recordId

end RecipeEvidence

/-- `values.get` of the values of a record by their fields: the last one counts. -/
def recordValueOf (record : DatasetRecord) (fieldId : FieldId) : Option ScalarValue :=
  (record.values.reverse.find? fun entry => entry.fieldId == fieldId).map RecordValue.value

private def inputValuesFor (recipe : EnrichmentRecipe) (record : DatasetRecord) :
    List RecipeCellInputValue :=
  recipe.inputFieldIds.map fun inputFieldId =>
    match recordValueOf record inputFieldId with
    | none => .absent inputFieldId
    | some value => .present inputFieldId value

private def inputEvidence (dataset : Dataset) (recipe : EnrichmentRecipe) (record : DatasetRecord)
    (recordContentHash : ContentHash) (inputValues : List RecipeCellInputValue) :
    NormalizedJsonValue :=
  .object [("datasetId", .string dataset.datasetId),
    ("inputValues", .array (inputValues.map RecipeCellInputValue.json)),
    ("recipeId", .string recipe.enrichmentRecipeId),
    ("recipeRevision", .string recipe.recipeRevision),
    ("recordContentHash", .string recordContentHash), ("recordId", .string record.recordId),
    ("targetFieldId", .string recipe.targetFieldId),
    ("workflowContentHash", .string recipe.workflowContentHash),
    ("workflowRevision", .string recipe.workflowRevision),
    ("workflowSpecId", .string recipe.workflowSpecId),
    ("workspaceId", .string dataset.workspaceId)]

section Inputs

variable (canonical : RecipeCanonicalization)

private def exactInputIdentity (dataset : Dataset) (recipe : EnrichmentRecipe)
    (record : DatasetRecord)
    (recordContentHash inputHash : ContentHash) : RecipeCellCacheIdentity where
  datasetId := dataset.datasetId
  inputHash := inputHash
  recipeId := recipe.enrichmentRecipeId
  recipeRevision := recipe.recipeRevision
  recordContentHash := recordContentHash
  recordId := record.recordId
  targetFieldId := recipe.targetFieldId
  workflowContentHash := recipe.workflowContentHash
  workflowRevision := recipe.workflowRevision
  workflowSpecId := recipe.workflowSpecId
  workspaceId := dataset.workspaceId

/-- The input that the identity checks of `resolveExactRecipeCellInput` let through. -/
def exactRecipeCellInput (application : RecipeApplication) (dataset : Dataset)
    (recipe : EnrichmentRecipe) (record : DatasetRecord) (recordContentHash : ContentHash) :
    ExactRecipeCellInput :=
  let inputValues := inputValuesFor recipe record
  let normalizedInput := inputEvidence dataset recipe record recordContentHash inputValues
  let identity := exactInputIdentity dataset recipe record recordContentHash
    (recipeCanonicalHash canonical normalizedInput)
  ⟨identity, recipeCellCacheKey canonical identity, inputValues, normalizedInput,
    application.recipeApplicationId⟩

/-- `resolveExactRecipeCellInput`: the input of a cell with every hash its cache key is made of. -/
def resolveExactRecipeCellInput (application : RecipeApplication) (dataset : Dataset)
    (recipe : EnrichmentRecipe) (record : DatasetRecord) (recordContentHash : ContentHash) :
    Except RecipeAdapterError ExactRecipeCellInput :=
  if application.workspaceId != dataset.workspaceId ||
      application.datasetId != dataset.datasetId ||
      application.recipeId != recipe.enrichmentRecipeId ||
      application.recipeRevision != recipe.recipeRevision ||
      application.targetFieldId != recipe.targetFieldId ||
      record.workspaceId != dataset.workspaceId || record.datasetId != dataset.datasetId ||
      !application.graph.recordIds.contains record.recordId then
    rejected .databasePayloadInvalid
      "Recipe application, recipe, dataset, and record identities disagree."
  else .ok (exactRecipeCellInput canonical application dataset recipe record recordContentHash)

def resolveExactInput (evidence : RecipeEvidence) (applicationId : RecipeApplicationId)
    (recordId : RecordId) : Except RecipeAdapterError (Option ExactRecipeCellInput) :=
  match evidence.loadApplication applicationId with
  | none => .ok none
  | some application =>
      if !application.graph.recordIds.contains recordId then .ok none
      else
        match evidence.loadDatasetContext application.datasetId with
        | none => rejected .databaseIdentityMismatch
            "The recipe application references a missing dataset."
        | some context =>
            match evidence.loadRecipe application.datasetId application.recipeId
                application.recipeRevision, evidence.loadRecord context recordId with
            | some recipe, some stored =>
                (resolveExactRecipeCellInput canonical application context.dataset recipe
                  stored.record stored.contentHash).map some
            | _, _ => rejected .databaseIdentityMismatch
                "The recipe application references missing immutable evidence."

end Inputs

/-! ## Rows -/

/-- The columns of a terminal cell that name the Run evidence it rests on. -/
structure CellEvidenceColumns where
  resultManifestId : Option ResultManifestId
  manifestHash : Option ContentHash
  artifactId : Option ArtifactId
  artifactContentHash : Option ContentHash
  sourceRunAggregateVersion : Option ℤ
  deriving DecidableEq, Repr

/-- A row of `cell_results`. Its identity columns are those of its input; the columns that
repeat the result are checked to agree with it. -/
structure CellRow where
  recipeApplicationId : RecipeApplicationId
  identity : RecipeCellCacheIdentity
  cacheKey : ContentHash
  inputId : String
  runPlanId : RunPlanId
  cellResult : CellResult
  evidence : CellEvidenceColumns
  deriving DecidableEq, Repr

/-- The columns that the cell of an application shares with the row of its result. -/
structure ExactCellColumns where
  datasetId : DatasetId
  recordId : RecordId
  recordContentHash : ContentHash
  fieldId : FieldId
  enrichmentRecipeId : EnrichmentRecipeId
  recipeRevision : String
  inputHash : ContentHash
  deriving DecidableEq, Repr

def RecipeCellCacheIdentity.columns (identity : RecipeCellCacheIdentity) : ExactCellColumns where
  datasetId := identity.datasetId
  recordId := identity.recordId
  recordContentHash := identity.recordContentHash
  fieldId := identity.targetFieldId
  enrichmentRecipeId := identity.recipeId
  recipeRevision := identity.recipeRevision
  inputHash := identity.inputHash

/-- A row of `recipe_application_cells`. -/
structure ApplicationCellRow where
  recipeApplicationId : RecipeApplicationId
  columns : ExactCellColumns
  ordinal : ℕ
  cacheKey : ContentHash
  cellResultId : CellResultId
  binding : RecipeCellBinding
  deriving DecidableEq, Repr

/-- A slot of the cache, which is a row of `recipe_cell_cache`. -/
structure RecipeCellCacheSnapshot where
  activeCellResultId : Option CellResultId
  cacheIdentity : RecipeCellCacheIdentity
  cacheKey : ContentHash
  revision : ℤ
  validCellResultId : Option CellResultId
  validUntil : Option Instant
  deriving DecidableEq, Repr

/-- The rows of recipe cells: the cells, the cache slots and the bindings of the applications. -/
structure RecipeCellRows where
  cells : List CellRow
  cache : List RecipeCellCacheSnapshot
  applicationCells : List ApplicationCellRow
  deriving DecidableEq, Repr

namespace RecipeCellRows

/-- The cell of an identifier. -/
def findCell (rows : RecipeCellRows) (cellResultId : CellResultId) : Option CellRow :=
  rows.cells.find? fun row => row.cellResult.cellResultId == cellResultId

/-- The cell of a Run. -/
def findCellByRun (rows : RecipeCellRows) (runId : RunId) : Option CellRow :=
  rows.cells.find? fun row => row.cellResult.runId == runId

/-- The slot of a cache key. -/
def findSlot (rows : RecipeCellRows) (cacheKey : ContentHash) : Option RecipeCellCacheSnapshot :=
  rows.cache.find? fun slot => slot.cacheKey == cacheKey

/-- The primary key of `recipe_application_cells`. -/
def findApplicationCell (rows : RecipeCellRows) (applicationId : RecipeApplicationId)
    (recordId : RecordId) : Option ApplicationCellRow :=
  rows.applicationCells.find? fun row =>
    row.recipeApplicationId == applicationId && row.columns.recordId == recordId

end RecipeCellRows

/-! ## Cell results -/

/-- The identities that a stored payload repeats. -/
structure CellResultPayloadIdentity where
  cellResultId : CellResultId
  datasetId : DatasetId
  enrichmentRecipeId : EnrichmentRecipeId
  fieldId : FieldId
  recipeRevision : String
  recordId : RecordId
  runId : RunId
  status : CellResultStatus
  workspaceId : WorkspaceId
  deriving DecidableEq, Repr

def payloadIdentity (cell : CellResult) : CellResultPayloadIdentity where
  cellResultId := cell.cellResultId
  datasetId := cell.datasetId
  enrichmentRecipeId := cell.enrichmentRecipeId
  fieldId := cell.fieldId
  recipeRevision := cell.recipeRevision
  recordId := cell.recordId
  runId := cell.runId
  status := cell.status
  workspaceId := cell.workspaceId

/-- The identity that the columns of a row give to its result, in a status. -/
def CellRow.expectedIdentity (row : CellRow) (status : CellResultStatus) :
    CellResultPayloadIdentity where
  cellResultId := row.cellResult.cellResultId
  datasetId := row.identity.datasetId
  enrichmentRecipeId := row.identity.recipeId
  fieldId := row.identity.targetFieldId
  recipeRevision := row.identity.recipeRevision
  recordId := row.identity.recordId
  runId := row.cellResult.runId
  status := status
  workspaceId := row.identity.workspaceId

/-- `parseCellResultPayload`: the payload of a row, checked against its columns. -/
def parseCellResultPayload (context : DatasetContext) (record : DatasetRecord)
    (recipe : EnrichmentRecipe) (expected : CellResultPayloadIdentity) (cell : CellResult) :
    Except RecipeAdapterError CellResult :=
  match createCellResult context.dataset context.fields record recipe cell with
  | .error _ => rejected .databasePayloadInvalid
      "The stored cell result violates product invariants."
  | .ok cellResult =>
      if payloadIdentity cellResult != expected then
        rejected .databasePayloadInvalid
          "The stored cell result identity does not match its relational evidence."
      else .ok cellResult

/-- The recipe and the record of a row agree with its columns. -/
def rowEvidenceMatches (row : CellRow) (recipe : EnrichmentRecipe) (stored : StoredRecord) :
    Bool :=
  stored.contentHash == row.identity.recordContentHash &&
    recipe.targetFieldId == row.identity.targetFieldId &&
    recipe.workflowSpecId == row.identity.workflowSpecId &&
    recipe.workflowRevision == row.identity.workflowRevision &&
    recipe.workflowContentHash == row.identity.workflowContentHash

private def rowRecipe (evidence : RecipeEvidence) (row : CellRow) : Option EnrichmentRecipe :=
  evidence.loadRecipe row.identity.datasetId row.identity.recipeId row.identity.recipeRevision

/-- The cell of a row, refused where the row contradicts itself. -/
def parseCellRow (evidence : RecipeEvidence) (row : CellRow) :
    Except RecipeAdapterError CellResult :=
  match evidence.loadDatasetContext row.identity.datasetId with
  | none => rejected .databaseIdentityMismatch
      "The cell result references a missing dataset."
  | some context =>
      match rowRecipe evidence row, evidence.loadRecord context row.identity.recordId with
      | some recipe, some stored =>
          if !rowEvidenceMatches row recipe stored then
            rejected .databaseIdentityMismatch
              "The cell result does not match its immutable recipe evidence."
          else
            parseCellResultPayload context stored.record recipe
              (row.expectedIdentity row.cellResult.status) row.cellResult
      | _, _ => rejected .databaseIdentityMismatch
          "The cell result does not match its immutable recipe evidence."

/-- A row that a query found, with its result parsed. -/
def parsedRow (evidence : RecipeEvidence) :
    Option CellRow → Except RecipeAdapterError (Option CellRow)
  | none => .ok none
  | some row => (parseCellRow evidence row).map fun cellResult =>
      some { row with cellResult := cellResult }

/-- The parsed cell of an identifier. -/
def loadCellById (evidence : RecipeEvidence) (rows : RecipeCellRows)
    (cellResultId : CellResultId) : Except RecipeAdapterError (Option CellRow) :=
  parsedRow evidence (rows.findCell cellResultId)

/-- The parsed cell of a Run. -/
def loadCellByRun (evidence : RecipeEvidence) (rows : RecipeCellRows) (runId : RunId) :
    Except RecipeAdapterError (Option CellRow) :=
  parsedRow evidence (rows.findCellByRun runId)

/-! ## Cache slots -/

section Cache

variable (canonical : RecipeCanonicalization)

/-- `cacheSnapshotFromRow`: the identity columns of a slot are checked to agree with its
identity, which has to have the key of the slot. -/
def loadCache (rows : RecipeCellRows) (cacheKey : ContentHash) :
    Except RecipeAdapterError (Option RecipeCellCacheSnapshot) :=
  match rows.findSlot cacheKey with
  | none => .ok none
  | some slot =>
      if recipeCellCacheKey canonical slot.cacheIdentity != slot.cacheKey then
        rejected .databasePayloadInvalid
          "The stored recipe cache identity does not match its cache key."
      else .ok (some slot)

/-- A slot is well formed and of the workspace. -/
def cacheSnapshotIsValid (scope : WorkspaceId) (snapshot : RecipeCellCacheSnapshot) : Bool :=
  snapshot.cacheIdentity.workspaceId == scope &&
    recipeCellCacheKey canonical snapshot.cacheIdentity == snapshot.cacheKey &&
    isSafeInteger snapshot.revision && decide (1 ≤ snapshot.revision) &&
    snapshot.validCellResultId.isNone == snapshot.validUntil.isNone &&
    !(snapshot.activeCellResultId.isSome &&
      snapshot.activeCellResultId == snapshot.validCellResultId)

/-- A slot is updated when its key and its expected revision are found. -/
def updateSlot (expectedRevision : ℤ) (snapshot : RecipeCellCacheSnapshot)
    (slot : RecipeCellCacheSnapshot) : RecipeCellCacheSnapshot :=
  if slot.cacheKey == snapshot.cacheKey && slot.revision == expectedRevision then
    { slot with
      activeCellResultId := snapshot.activeCellResultId
      validCellResultId := snapshot.validCellResultId
      validUntil := snapshot.validUntil
      revision := snapshot.revision }
  else slot

/-- The inserted or updated slots, unless no slot changed. -/
def writeCache (rows : RecipeCellRows) (snapshot : RecipeCellCacheSnapshot) :
    Option ℤ → Except RecipeAdapterError RecipeCellRows
  | none =>
      if snapshot.revision != 1 then
        rejected .recipeCacheConflict "A new recipe cache slot must start at revision 1."
      else if (rows.findSlot snapshot.cacheKey).isSome then
        rejected .recipeCacheConflict
          "The recipe cache slot no longer has the expected revision."
      else .ok { rows with cache := rows.cache ++ [snapshot] }
  | some expectedRevision =>
      if snapshot.revision != expectedRevision + 1 then
        rejected .recipeCacheConflict
          "A recipe cache update must advance its revision by one."
      else if !rows.cache.any (fun slot => slot.cacheKey == snapshot.cacheKey &&
          slot.revision == expectedRevision) then
        rejected .recipeCacheConflict
          "The recipe cache slot no longer has the expected revision."
      else .ok { rows with cache := rows.cache.map (updateSlot expectedRevision snapshot) }

/-- What was written is read back. -/
def readBack (snapshot : RecipeCellCacheSnapshot) (written : RecipeCellRows) :
    Except RecipeAdapterError RecipeCellRows :=
  (loadCache canonical written snapshot.cacheKey).bind fun stored =>
    if stored != some snapshot then
      rejected .recipeCacheReadbackMismatch
        "The recipe cache write did not preserve its exact snapshot."
    else .ok written

/-- `saveCache`: inserts a slot, or moves it on from the revision that was read. -/
def saveCache (scope : WorkspaceId) (rows : RecipeCellRows) (expectedRevision : Option ℤ)
    (snapshot : RecipeCellCacheSnapshot) : Except RecipeAdapterError RecipeCellRows :=
  if !cacheSnapshotIsValid canonical scope snapshot then
    rejected .recipeCacheInvalid
      "The recipe cache snapshot violates its identity or lifecycle contract."
  else (writeCache rows snapshot expectedRevision).bind (readBack canonical snapshot)

/-- The slot of an input becomes that of a pending cell at an instant of the database clock. -/
def claimCacheForPendingCell (scope : WorkspaceId) (rows : RecipeCellRows)
    (input : ExactRecipeCellInput) (pendingCellResultId : CellResultId) (now : Instant) :
    Except RecipeAdapterError RecipeCellRows :=
  match loadCache canonical rows input.cacheKey with
  | .error error => .error error
  | .ok none => saveCache canonical scope rows none
      ⟨some pendingCellResultId, input.toRecipeCellCacheIdentity, input.cacheKey, 1, none, none⟩
  | .ok (some current) =>
      if !cacheIdentityMatches current.cacheIdentity input.toRecipeCellCacheIdentity ||
          current.cacheKey != input.cacheKey then
        rejected .recipeCacheIdentityConflict
          "The locked recipe cache slot has another exact input identity."
      else if current.activeCellResultId = some pendingCellResultId then .ok rows
      else if current.activeCellResultId.isSome then
        rejected .recipeCacheActiveConflict
          "Another canonical run is already active for this exact recipe input."
      else if current.validUntil.any fun validUntil => decide (now < validUntil) then
        rejected .recipeCacheValidConflict
          "A fresh canonical result already exists for this exact recipe input."
      else
        saveCache canonical scope rows (some current.revision) { current with
          activeCellResultId := some pendingCellResultId
          revision := current.revision + 1 }

/-- The validity of a slot after the terminal result of its active cell. -/
def terminalCacheValidity (current : RecipeCellCacheSnapshot) (cellResult : CellResult) :
    Option CellResultId × Option Instant :=
  if cellResult.status == .succeeded then
    match cellResult.freshness.bind CellResultFreshness.expiresAt with
    | none => (none, none)
    | some expiresAt => (some cellResult.cellResultId, some expiresAt)
  else (current.validCellResultId, current.validUntil)

/-- `settleCacheForTerminalCell`: the slot of a cell that has ended. -/
def settleCacheForTerminalCell (scope : WorkspaceId) (rows : RecipeCellRows) (row : CellRow)
    (cellResult : CellResult) : Except RecipeAdapterError RecipeCellRows :=
  (loadCache canonical rows row.cacheKey).bind fun slot =>
    match slot.filter fun current => current.activeCellResultId == some cellResult.cellResultId with
    | none => rejected .recipeCacheActiveConflict
        "The terminal cell result no longer owns its exact recipe cache slot."
    | some current =>
        let validity := terminalCacheValidity current cellResult
        saveCache canonical scope rows (some current.revision)
          ⟨none, current.cacheIdentity, current.cacheKey, current.revision + 1, validity.1,
            validity.2⟩

end Cache

/-! ## Bindings -/

/-- `ON CONFLICT DO NOTHING` on the keys of `recipe_application_cells`. -/
def insertedApplicationCell (rows : RecipeCellRows) (row : ApplicationCellRow) : RecipeCellRows :=
  if rows.applicationCells.any fun known =>
      known.recipeApplicationId == row.recipeApplicationId &&
        (known.columns.recordId == row.columns.recordId || known.ordinal == row.ordinal) then rows
  else { rows with applicationCells := rows.applicationCells ++ [row] }

/-- Binds a cell to an application's record, once. -/
def insertApplicationCell (evidence : RecipeEvidence) (rows : RecipeCellRows)
    (input : ExactRecipeCellInput) (cellResultId : CellResultId) (binding : RecipeCellBinding) :
    Except RecipeAdapterError RecipeCellRows :=
  match (evidence.loadApplication input.recipeApplicationId).bind fun application =>
      application.graph.recordIds.idxOf? input.recordId with
  | none => rejected .recipeApplicationCellInvalid
      "The record is not present in the immutable application graph."
  | some ordinal =>
      let row : ApplicationCellRow := ⟨input.recipeApplicationId, input.columns, ordinal,
        input.cacheKey, cellResultId, binding⟩
      let inserted := insertedApplicationCell rows row
      if inserted.findApplicationCell input.recipeApplicationId input.recordId != some row then
        immutableConflict "recipe application cell"
      else .ok inserted

/-- `ON CONFLICT DO NOTHING` on the keys of `cell_results`. -/
def insertedCell (rows : RecipeCellRows) (row : CellRow) : RecipeCellRows :=
  if rows.cells.any fun known => known.cellResult.cellResultId == row.cellResult.cellResultId ||
      known.cellResult.runId == row.cellResult.runId then rows
  else { rows with cells := rows.cells ++ [row] }

/-- The result of a binding is pending, and its application cell is bound as executed. -/
structure RecipeCellRunBinding where
  cellResult : CellResult
  input : ExactRecipeCellInput
  inputId : String
  runPlanId : RunPlanId

def RecipeCellRunBinding.row (binding : RecipeCellRunBinding) : CellRow where
  recipeApplicationId := binding.input.recipeApplicationId
  identity := binding.input.toRecipeCellCacheIdentity
  cacheKey := binding.input.cacheKey
  inputId := binding.inputId
  runPlanId := binding.runPlanId
  cellResult := binding.cellResult
  evidence := ⟨none, none, none, none, none⟩

/-- A stored row is the pending one that was to be inserted. -/
def pendingRowMatches (row stored : CellRow) : Bool :=
  stored.cacheKey == row.cacheKey && stored.identity.inputHash == row.identity.inputHash &&
    stored.inputId == row.inputId && stored.runPlanId == row.runPlanId &&
    stored.cellResult == row.cellResult

/-- The row of a result is for the exact input. -/
def rowMatchesInput (row : CellRow) (input : ExactRecipeCellInput) : Bool :=
  row.cacheKey == input.cacheKey && row.identity.columns == input.columns

section Bindings

variable (canonical : RecipeCanonicalization)

/-- Whether an input is the one that its application and its record resolve to. -/
def inputIsResolved (evidence : RecipeEvidence) (input : ExactRecipeCellInput) :
    Except RecipeAdapterError Bool :=
  (resolveExactInput canonical evidence input.recipeApplicationId input.recordId).map
    fun resolved => resolved.any (exactInputMatches input)

def assertWorkspace (scope workspace : WorkspaceId) : Except RecipeAdapterError Unit :=
  if scope != workspace then
    rejected .workspaceScopeMismatch "The recipe record belongs to another workspace."
  else .ok ()

/-- The pending row is stored, its slot claimed and its application cell bound. -/
def storePending (evidence : RecipeEvidence) (scope : WorkspaceId) (rows : RecipeCellRows)
    (binding : RecipeCellRunBinding) (now : Instant) : Except RecipeAdapterError RecipeCellRows :=
  let cellResultId := binding.cellResult.cellResultId
  let inserted := insertedCell rows binding.row
  (loadCellById evidence inserted cellResultId).bind fun stored =>
    if !stored.any (pendingRowMatches binding.row) then immutableConflict "pending cell result"
    else
      (claimCacheForPendingCell canonical scope inserted binding.input cellResultId now).bind
        fun claimed => insertApplicationCell evidence claimed binding.input cellResultId .executed

/-- `bindPending`: stores a new cell with its Run under the claimed slot. -/
def bindPending (evidence : RecipeEvidence) (scope : WorkspaceId) (rows : RecipeCellRows)
    (binding : RecipeCellRunBinding) (now : Instant) : Except RecipeAdapterError RecipeCellRows :=
  let input := binding.input
  (assertWorkspace scope input.workspaceId).bind fun _ =>
    (inputIsResolved canonical evidence input).bind fun resolved =>
      if !resolved then
        rejected .recipeInputMismatch
          "The requested cell does not match the exact stored recipe input."
      else
        match evidence.loadDatasetContext input.datasetId with
        | none => rejected .recipeInputMissing
            "The requested cell input evidence is no longer available."
        | some context =>
            match evidence.loadRecipe input.datasetId input.recipeId input.recipeRevision,
                evidence.loadRecord context input.recordId with
            | some recipe, some stored =>
                (parseCellResultPayload context stored.record recipe
                  (binding.row.expectedIdentity .pending) binding.cellResult).bind fun _ =>
                    storePending canonical evidence scope rows binding now
            | _, _ => rejected .recipeInputMissing
                "The requested cell input evidence is no longer available."

/-- What both pins read: whether the input is resolved, its slot, and the row of the result. -/
def readPin (evidence : RecipeEvidence) (scope : WorkspaceId) (rows : RecipeCellRows)
    (input : ExactRecipeCellInput) (cellResultId : CellResultId) :
    Except RecipeAdapterError (Bool × Option RecipeCellCacheSnapshot × Option CellRow) :=
  (assertWorkspace scope input.workspaceId).bind fun _ =>
    (inputIsResolved canonical evidence input).bind fun resolved =>
      (loadCache canonical rows input.cacheKey).bind fun cache =>
        (loadCellById evidence rows cellResultId).map fun stored => (resolved, cache, stored)

/-- Whether a slot and a row are those of an input. -/
def pinMatches (input : ExactRecipeCellInput) (resolved : Bool) (slot : RecipeCellCacheSnapshot)
    (row : CellRow) : Bool :=
  resolved && cacheIdentityMatches slot.cacheIdentity input.toRecipeCellCacheIdentity &&
    rowMatchesInput row input

/-- A valid result is bound as cached unless it expired at an instant of the database clock. -/
def pinCached (evidence : RecipeEvidence) (scope : WorkspaceId) (rows : RecipeCellRows)
    (input : ExactRecipeCellInput) (cellResultId : CellResultId) (now : Instant) :
    Except RecipeAdapterError (Bool × RecipeCellRows) :=
  (readPin canonical evidence scope rows input cellResultId).bind fun
    | (resolved, some slot, some row) =>
        match slot.validUntil with
        | none => rejected .recipeCacheBindingInvalid
            "A cached application cell must pin one exact succeeded cell result."
        | some validUntil =>
            if !pinMatches input resolved slot row ||
                slot.validCellResultId != some cellResultId ||
                row.cellResult.status != .succeeded then
              rejected .recipeCacheBindingInvalid
                "A cached application cell must pin one exact succeeded cell result."
            else if validUntil ≤ now then .ok (false, rows)
            else
              (insertApplicationCell evidence rows input cellResultId .cached).map
                fun inserted => (true, inserted)
    | _ => rejected .recipeCacheBindingInvalid
        "A cached application cell must pin one exact succeeded cell result."

/-- A result that is in flight is bound as executed. -/
def pinActive (evidence : RecipeEvidence) (scope : WorkspaceId) (rows : RecipeCellRows)
    (input : ExactRecipeCellInput) (cellResultId : CellResultId) :
    Except RecipeAdapterError RecipeCellRows :=
  (readPin canonical evidence scope rows input cellResultId).bind fun
    | (resolved, some slot, some row) =>
        if !pinMatches input resolved slot row ||
            slot.activeCellResultId != some cellResultId ||
            cellStatusIsTerminal row.cellResult.status then
          rejected .recipeActiveBindingInvalid
            "An active application cell must pin the exact in-flight cell result."
        else insertApplicationCell evidence rows input cellResultId .executed
    | _ => rejected .recipeActiveBindingInvalid
        "An active application cell must pin the exact in-flight cell result."

end Bindings

/-! ## Progress -/

/-- `loadCellPayloadContext`. -/
def loadCellPayloadContext (evidence : RecipeEvidence) (row : CellRow) :
    Except RecipeAdapterError (DatasetContext × EnrichmentRecipe × DatasetRecord) :=
  match evidence.loadDatasetContext row.identity.datasetId with
  | none => rejected .cellResultEvidenceMissing
      "The cell result immutable evidence is unavailable."
  | some context =>
      match rowRecipe evidence row, evidence.loadRecord context row.identity.recordId with
      | some recipe, some stored => .ok (context, recipe, stored.record)
      | _, _ => rejected .cellResultEvidenceMissing
          "The cell result immutable evidence is unavailable."

/-- A proposed result of a row, in a status. -/
def parseProposed (evidence : RecipeEvidence) (row : CellRow) (status : CellResultStatus)
    (proposed : CellResult) : Except RecipeAdapterError CellResult :=
  (loadCellPayloadContext evidence row).bind fun (context, recipe, record) =>
    parseCellResultPayload context record recipe (row.expectedIdentity status) proposed

/-- The row of a result becomes another row. -/
def replaceCell (rows : RecipeCellRows) (row : CellRow) : RecipeCellRows :=
  { rows with
    cells := rows.cells.map fun known =>
      if known.cellResult.cellResultId == row.cellResult.cellResultId then row else known }

def markRunning (evidence : RecipeEvidence) (rows : RecipeCellRows) (runId : RunId)
    (proposed : CellResult) : Except RecipeAdapterError RecipeCellRows :=
  (loadCellByRun evidence rows runId).bind fun
    | none => rejected .cellResultMissing "The canonical run has no bound cell result."
    | some row =>
        (parseProposed evidence row .running proposed).bind fun cellResult =>
          if row.cellResult.status == .running then
            if row.cellResult == cellResult then .ok rows
            else immutableConflict "running cell result"
          else if row.cellResult.status != .pending then
            rejected .cellResultTransitionConflict
              "The cell result could not transition from pending to running."
          else .ok (replaceCell rows { row with cellResult := cellResult })

/-- The terminal result of a cell, with the evidence of its Run. -/
structure RecipeCellFinalization where
  artifact : Option ArtifactRef
  cellResult : CellResult
  manifest : Option ResultManifestRef
  sourceRunAggregateVersion : ℤ
  terminal : cellStatusIsTerminal cellResult.status = true

def RecipeCellFinalization.columns (finalization : RecipeCellFinalization) :
    CellEvidenceColumns where
  resultManifestId := finalization.manifest.map ResultManifestRef.resultManifestId
  manifestHash := finalization.manifest.map ResultManifestRef.manifestHash
  artifactId := finalization.artifact.map ArtifactRef.artifactId
  artifactContentHash := finalization.artifact.map ArtifactRef.contentHash
  sourceRunAggregateVersion := some finalization.sourceRunAggregateVersion

/-- The numbers and the evidence of a finalization are well formed. -/
def finalizationEvidenceIsValid (finalization : RecipeCellFinalization) : Bool :=
  isSafeInteger finalization.sourceRunAggregateVersion &&
    decide (1 ≤ finalization.sourceRunAggregateVersion) &&
      match finalization.cellResult.status with
      | .succeeded => finalization.manifest.isSome && finalization.artifact.isSome
      | .failed => finalization.manifest.isSome && finalization.artifact.isNone
      | _ => finalization.manifest.isNone && finalization.artifact.isNone

/-- The Run ended the way the cell does. -/
def runSupportsFinalization (run : Run) (finalization : RecipeCellFinalization) : Bool :=
  let cellResult := finalization.cellResult
  run.workspaceId == cellResult.workspaceId && run.runId == cellResult.runId &&
    (run.aggregateVersion : ℤ) == finalization.sourceRunAggregateVersion &&
      if cellResult.status == .skipped then
        run.state == .cancelled && run.resultManifest.isNone && finalization.manifest.isNone
      else
        run.state == (if cellResult.status == .succeeded then .completed else .failed) &&
          finalization.manifest.isSome && run.resultManifest == finalization.manifest

/-- `cellTransitionMatches` of a repeated finalization. -/
def finalizationMatches (row : CellRow) (finalization : RecipeCellFinalization) : Bool :=
  row.cellResult == finalization.cellResult && row.evidence == finalization.columns

/-- The finalization of a cell whose Run is locked. -/
def finalizeCell (canonical : RecipeCanonicalization) (evidence : RecipeEvidence)
    (scope : WorkspaceId) (rows : RecipeCellRows) (run : Option Run)
    (finalization : RecipeCellFinalization) : Except RecipeAdapterError RecipeCellRows :=
  let proposed := finalization.cellResult
  (loadCellById evidence rows proposed.cellResultId).bind fun
    | none => rejected .cellResultMissing
        "The terminal cell result has no pending canonical row."
    | some row =>
        (parseProposed evidence row proposed.status proposed).bind fun cellResult =>
          if !finalizationEvidenceIsValid finalization then
            rejected .cellResultEvidenceInvalid
              "A terminal cell result requires exact canonical run evidence."
          else if !run.any (runSupportsFinalization · finalization) then
            rejected .cellResultEvidenceInvalid
              "The terminal cell result does not match its locked canonical Run."
          else if cellStatusIsTerminal row.cellResult.status then
            if finalizationMatches row finalization then .ok rows
            else immutableConflict "terminal cell result"
          else
            settleCacheForTerminalCell canonical scope
              (replaceCell rows { row with
                cellResult := cellResult
                evidence := finalization.columns }) row cellResult

/-! ## Projections -/

/-- The rows that the projection of one cell joins. -/
def joinedCell (evidence : RecipeEvidence) (rows : RecipeCellRows)
    (applicationId : RecipeApplicationId) (recordId : RecordId) :
    Option (ApplicationCellRow × CellRow × DatasetRecord) := do
  let applicationCell ← rows.findApplicationCell applicationId recordId
  let row ← rows.findCell applicationCell.cellResultId
  let stored ← evidence.records.find? fun stored =>
    stored.record.datasetId == applicationCell.columns.datasetId &&
      stored.record.recordId == applicationCell.columns.recordId &&
      stored.contentHash == applicationCell.columns.recordContentHash
  pure (applicationCell, row, stored.record)

private def rowMatchesApplication (scope : WorkspaceId) (application : RecipeApplication)
    (recipe : EnrichmentRecipe) (row : CellRow) : Bool :=
  row.identity.workspaceId == scope && row.identity.datasetId == application.datasetId &&
    row.identity.recipeId == application.recipeId &&
    row.identity.recipeRevision == application.recipeRevision &&
    row.identity.targetFieldId == application.targetFieldId &&
    row.identity.workflowSpecId == recipe.workflowSpecId &&
    row.identity.workflowRevision == recipe.workflowRevision &&
    row.identity.workflowContentHash == recipe.workflowContentHash

/-- `applicationCells.get`: the first row of `streamProjection` at one record. -/
def getApplicationCell (evidence : RecipeEvidence) (scope : WorkspaceId) (rows : RecipeCellRows)
    (applicationId : RecipeApplicationId) (recordId : RecordId) :
    Except RecipeAdapterError (Option ExactRecipeProjectionRow) :=
  match evidence.loadApplication applicationId with
  | none => .ok none
  | some application =>
      match evidence.loadDatasetContext application.datasetId,
          evidence.loadRecipe application.datasetId application.recipeId
            application.recipeRevision with
      | some context, some recipe =>
          match joinedCell evidence rows applicationId recordId with
          | none => .ok none
          | some (applicationCell, row, record) =>
              if !rowMatchesApplication scope application recipe row then
                rejected .databaseIdentityMismatch
                  "A projection row does not match its exact application evidence."
              else
                (parseCellResultPayload context record recipe
                  (row.expectedIdentity row.cellResult.status) row.cellResult).map fun cellResult =>
                    some ⟨application, applicationCell.binding, cellResult, record,
                      row.identity.recordContentHash⟩
      | _, _ => rejected .databaseIdentityMismatch
          "The projection application references missing recipe evidence."

/-! ## Triggers -/

/-- `guard_cell_result_change` of an update. -/
def guardCellResultChange (old new : CellRow) : Bool :=
  old.recipeApplicationId == new.recipeApplicationId && old.identity == new.identity &&
    old.cacheKey == new.cacheKey && old.inputId == new.inputId &&
    old.runPlanId == new.runPlanId &&
    old.cellResult.cellResultId == new.cellResult.cellResultId &&
    old.cellResult.runId == new.cellResult.runId &&
    cellTransitionIsAllowed old.cellResult.status new.cellResult.status

/-- `guard_recipe_cache_change` of an update. -/
def guardRecipeCacheChange (old new : RecipeCellCacheSnapshot) : Bool :=
  old.cacheIdentity == new.cacheIdentity && old.cacheKey == new.cacheKey &&
    new.revision == old.revision + 1

end Kurobara.Persistence
