import Kurobara.Foundation.Fallible
import Kurobara.Foundation.SeparatedText
import Kurobara.Application.EncodedStream
import Kurobara.Application.VerifiedApiKey
import Kurobara.Persistence.RecipePersistence

/-! # Exporting a recipe application

The exact projection of an application is read three times: to check its rows, to hash the
encoded content, and to yield it. Each read answers rows of its own and may fail.
-/

namespace Kurobara.Application.ExportRecipeApplication

open Kurobara.Foundation Kurobara.Kernel Kurobara.Persistence

inductive DatasetImportFormat where
  | csv
  | jsonl
  deriving DecidableEq, Repr

inductive ExportRecipeApplicationFailureCode where
  | authorityPermissionMissing
  | codecConfigurationInvalid
  | datasetNotReady
  | datasetNotFound
  | exportTooLarge
  | fieldSelectionInvalid
  | recipeApplicationNotFound
  | recipeNotFound
  | recipeProjectionCountMismatch
  | recipeProjectionDuplicate
  | recipeProjectionIdentityMismatch
  | recipeProjectionIncomplete
  | recipeProjectionInvalid
  | sparseCsvUnsupported
  deriving DecidableEq, Repr

structure ExportRecipeApplicationFailure where
  code : ExportRecipeApplicationFailureCode
  message : String
  deriving DecidableEq, Repr

/-- What one read of `streamExactProjection` answers: rows, and whether it then fails. -/
structure ProjectionRead where
  rows : List ExactRecipeProjectionRow
  failed : Bool
  deriving DecidableEq, Repr

/-- An application with its recipe, of the same dataset and workspace. -/
structure ExactMetadata where
  application : RecipeApplication
  recipe : EnrichmentRecipe
  deriving DecidableEq, Repr

/-- What the projection hash of a row is taken of. -/
structure ProjectionContent where
  binding : RecipeCellBinding
  cellResult : CellResult
  record : DatasetRecord
  recordContentHash : ContentHash
  deriving DecidableEq, Repr

private def projectionContent (row : ExactRecipeProjectionRow) : ProjectionContent where
  binding := row.binding
  cellResult := row.cellResult
  record := row.record
  recordContentHash := row.recordContentHash

/-- What a row of the second reading is recognized by. -/
structure ProjectionProof where
  cellResultId : CellResultId
  projectionHash : ContentHash
  recordId : RecordId
  runId : RunId
  deriving DecidableEq, Repr

def sameOrderedIdentities (left right : List RecordId) : Bool :=
  left == right

/-- The application of a row is the one that is exported, in every field. -/
def applicationMatches (candidate expected : RecipeApplication) : Bool :=
  candidate.createdAt == expected.createdAt && candidate.datasetId == expected.datasetId &&
    candidate.graphHash == expected.graphHash && candidate.intentHash == expected.intentHash &&
    candidate.maxCells == expected.maxCells &&
    candidate.recipeApplicationId == expected.recipeApplicationId &&
    candidate.recipeId == expected.recipeId &&
    candidate.recipeRevision == expected.recipeRevision &&
    candidate.targetFieldId == expected.targetFieldId &&
    candidate.workspaceId == expected.workspaceId &&
    sameOrderedIdentities candidate.graph.recordIds expected.graph.recordIds

/-- The recipe is the revision that the application was made with. -/
def recipeMatchesApplication (recipe : EnrichmentRecipe) (application : RecipeApplication) : Bool :=
  recipe.workspaceId == application.workspaceId && recipe.datasetId == application.datasetId &&
    recipe.enrichmentRecipeId == application.recipeId &&
    recipe.recipeRevision == application.recipeRevision &&
    recipe.targetFieldId == application.targetFieldId

/-- The fields of the requested identities, in the order of the request. -/
def selectFields (fields : List Field) (requested : Option (List FieldId)) : Option (List Field) :=
  let selectedIds := requested.getD (fields.map Field.fieldId)
  if selectedIds.isEmpty || !decide selectedIds.Nodup then none
  else if !decide (fields.map Field.fieldId).Nodup then none
  else selectedIds.mapM fun fieldId => fields.find? fun field => field.fieldId == fieldId

/-- The dataset with the fields that were asked for. -/
structure SelectedApplicationDataset where
  dataset : Dataset
  fields : List Field
  storedFields : List Field
  deriving DecidableEq, Repr

/-- The dataset is ready and unchanged, and has the fields that are asked for. -/
def validateApplicationDataset (stored : Option StoredDataset) (workspaceId : WorkspaceId)
    (application : RecipeApplication) (requestedFieldIds : Option (List FieldId)) :
    Except ExportRecipeApplicationFailure SelectedApplicationDataset :=
  match stored.filter fun stored =>
      stored.dataset.workspaceId == workspaceId &&
        stored.dataset.datasetId == application.datasetId &&
        stored.materialization.workspaceId == workspaceId &&
        stored.materialization.datasetId == application.datasetId with
  | none =>
      .error ⟨.datasetNotFound, "The application dataset does not exist in this workspace."⟩
  | some stored =>
      if stored.materialization.state != .ready then
        .error ⟨.datasetNotReady,
          "Recipe applications can be exported only from a ready dataset materialization."⟩
      else
        match selectFields stored.fields requestedFieldIds with
        | none => .error ⟨.fieldSelectionInvalid, "Requested export fields must be non-empty, " ++
            "unique, and belong to the application dataset."⟩
        | some fields => .ok ⟨stored.dataset, fields, stored.fields⟩

/-- A row belongs to the exported application and to the record in its place. -/
def rowHasExactIdentity (row : ExactRecipeProjectionRow) (metadata : ExactMetadata)
    (expectedRecordId : RecordId) : Bool :=
  applicationMatches row.application metadata.application &&
    row.record.workspaceId == metadata.application.workspaceId &&
    row.record.datasetId == metadata.application.datasetId &&
    row.record.recordId == expectedRecordId &&
    row.cellResult.workspaceId == metadata.application.workspaceId &&
    row.cellResult.datasetId == metadata.application.datasetId &&
    row.cellResult.recordId == expectedRecordId &&
    row.cellResult.enrichmentRecipeId == metadata.application.recipeId &&
    row.cellResult.recipeRevision == metadata.application.recipeRevision &&
    row.cellResult.fieldId == metadata.application.targetFieldId

/-! ## The rows of the preflight -/

section Projection

variable (projectionHash : ProjectionContent → ContentHash)

def proofForRow (row : ExactRecipeProjectionRow) : ProjectionProof where
  cellResultId := row.cellResult.cellResultId
  projectionHash := projectionHash (projectionContent row)
  recordId := row.record.recordId
  runId := row.cellResult.runId

/-- The rows of the preflight behind those whose proofs are given; the seen identities are
those of the proofs. -/
def preflightRows (metadata : ExactMetadata) (dataset : Dataset) (fields : List Field)
    (failed : Bool) (proofs : List ProjectionProof) :
    List ExactRecipeProjectionRow → Except ExportRecipeApplicationFailure (List ProjectionProof)
  | [] =>
      if failed then
        .error ⟨.recipeProjectionInvalid, "The exact recipe projection could not be validated."⟩
      else .ok proofs
  | row :: rest =>
      if proofs.any fun seen => seen.recordId == row.record.recordId ||
          seen.cellResultId == row.cellResult.cellResultId ||
          seen.runId == row.cellResult.runId then
        .error ⟨.recipeProjectionDuplicate,
          "The exact recipe projection contains duplicate durable identities."⟩
      else
        match metadata.application.graph.recordIds[proofs.length]? with
        | none => .error ⟨.recipeProjectionCountMismatch, "The exact recipe projection " ++
            "contains more rows than its immutable application graph."⟩
        | some expectedRecordId =>
            if !rowHasExactIdentity row metadata expectedRecordId then
              .error ⟨.recipeProjectionIdentityMismatch, "An exact recipe projection row does " ++
                "not match its immutable application identity and order."⟩
            else
              match createCellResult dataset fields row.record metadata.recipe row.cellResult with
              | .error _ => .error ⟨.recipeProjectionInvalid,
                  "An exact recipe projection row failed cell-result validation."⟩
              | .ok validated =>
                  if validated.status != .succeeded || validated.value.isNone then
                    .error ⟨.recipeProjectionIncomplete,
                      "Every exported recipe cell must have one explicit succeeded value."⟩
                  else
                    preflightRows metadata dataset fields failed
                      (proofs ++ [proofForRow projectionHash row]) rest

/-- The first reading: every row of the graph, in its order, each with a terminal result. -/
def preflightProjection (metadata : ExactMetadata) (dataset : Dataset) (fields : List Field)
    (read : ProjectionRead) : Except ExportRecipeApplicationFailure (List ProjectionProof) :=
  let expectedRecordIds := metadata.application.graph.recordIds
  if !decide expectedRecordIds.Nodup then
    .error ⟨.recipeProjectionDuplicate,
      "The immutable recipe application contains duplicate record identities."⟩
  else
    match preflightRows projectionHash metadata dataset fields read.failed [] read.rows with
    | .error failure => .error failure
    | .ok proofs =>
        if proofs.length != expectedRecordIds.length then
          .error ⟨.recipeProjectionCountMismatch,
            "The exact recipe projection does not cover its immutable application graph."⟩
        else .ok proofs

/-! ## The records of a later read -/

/-- A row of the second reading is the one that was seen first. -/
def sameProof (row : ExactRecipeProjectionRow) (proof : ProjectionProof) : Bool :=
  row.record.recordId == proof.recordId && row.cellResult.cellResultId == proof.cellResultId &&
    row.cellResult.runId == proof.runId &&
    projectionHash (projectionContent row) == proof.projectionHash

/-- The value of a field in an exported record, if it has one. -/
def overlaidValue (row : ExactRecipeProjectionRow) (targetFieldId : FieldId)
    (targetValue : ScalarValue) (field : Field) : Option RecordValue :=
  if field.fieldId == targetFieldId then some ⟨field.fieldId, targetValue⟩
  else row.record.values.find? fun entry => entry.fieldId == field.fieldId

/-- The selected values of a record, with that of the target field from its result. -/
def overlaidRecord (row : ExactRecipeProjectionRow) (fields : List Field)
    (targetFieldId : FieldId) (targetValue : ScalarValue) : DatasetRecord :=
  { row.record with values := fields.filterMap (overlaidValue row targetFieldId targetValue) }

/-- The records that a codec is handed, and whether they end in a drift error. -/
structure RecordStream where
  records : List DatasetRecord
  drifted : Bool
  deriving DecidableEq, Repr

def RecordStream.behind (record : DatasetRecord) (stream : RecordStream) : RecordStream :=
  { stream with records := record :: stream.records }

/-- The loop of `exactOverlaidRecords` from an index on. -/
def overlaidFrom (metadata : ExactMetadata) (fields : List Field) (proofs : List ProjectionProof)
    (failed : Bool) (index : ℕ) : List ExactRecipeProjectionRow → RecordStream
  | [] => ⟨[], failed || index != proofs.length⟩
  | row :: rest =>
      match proofs[index]?, row.cellResult.value with
      | some proof, some value =>
          if rowHasExactIdentity row metadata proof.recordId &&
              row.cellResult.status == .succeeded && sameProof projectionHash row proof then
            (overlaidFrom metadata fields proofs failed (index + 1) rest).behind
              (overlaidRecord row fields metadata.application.targetFieldId value)
          else ⟨[], true⟩
      | _, _ => ⟨[], true⟩

/-- The second reading: the records as they are encoded. -/
def exactOverlaidRecords (metadata : ExactMetadata) (fields : List Field)
    (proofs : List ProjectionProof) (read : ProjectionRead) : RecordStream :=
  overlaidFrom projectionHash metadata fields proofs read.failed 0 read.rows

end Projection

/-! ## Encoding -/

structure DatasetFieldCodecSpec where
  fieldId : FieldId
  key : String
  valueType : FieldValueType
  deriving DecidableEq, Repr

def codecFields (fields : List Field) : List DatasetFieldCodecSpec :=
  fields.map fun field => ⟨field.fieldId, field.key, field.valueType⟩

structure DatasetEncodeInput where
  datasetId : DatasetId
  fields : List DatasetFieldCodecSpec
  maxRecordBytes : ℤ
  records : RecordStream
  workspaceId : WorkspaceId
  deriving DecidableEq, Repr

/-- What interrupts an encoder: the drift error of its records, or anything else. -/
inductive ExportInterruption where
  | exportDrift
  | other
  deriving DecidableEq, Repr

/-- A stream that ends has no error event and throws nothing. -/
def EncodeStreamEnds (stream : EncodeStream ExportInterruption) : Prop :=
  stream.thrown = none ∧ ∀ event ∈ stream.events, ∃ chunk, event = .chunk chunk

/-- A codec that reads its records to the end: a stream of it ends only if its records do. -/
structure DatasetCodec where
  format : DatasetImportFormat
  encodes : DatasetEncodeInput → EncodeStream ExportInterruption → Prop
  readsToEnd : ∀ input stream, encodes input stream → EncodeStreamEnds stream →
    input.records.drifted = false

def exportTooLarge : ExportRecipeApplicationFailure where
  code := .exportTooLarge
  message := "The encoded recipe-application export exceeds its configured byte limit."

def codecInvalid : ExportRecipeApplicationFailure where
  code := .codecConfigurationInvalid
  message := "The selected dataset codec could not produce a valid export stream."

/-- `preflightEncodedContent`, behind the bytes that were read. -/
def preflightEncodedContent (sha256 : Bytes → String) (maxExportBytes : ℤ)
    (thrown : Option ExportInterruption) (read : Bytes) :
    List DatasetEncodeEvent → Except ExportRecipeApplicationFailure EncodedContentProof
  | [] =>
      match thrown with
      | some .exportDrift => .error ⟨.recipeProjectionInvalid,
          "The exact recipe projection changed while the export was validated."⟩
      | some .other => .error codecInvalid
      | none => .ok ⟨sha256 read, read.length⟩
  | .error code :: _ =>
      if code = .recordTooLarge then .error exportTooLarge else .error codecInvalid
  | .malformed :: _ => .error codecInvalid
  | .chunk chunk :: rest =>
      if maxExportBytes - read.length < chunk.bytes.length then .error exportTooLarge
      else preflightEncodedContent sha256 maxExportBytes thrown (read ++ chunk.bytes) rest

/-- The chunk of an event within the remaining bytes; without one, drift is thrown. -/
def accumulateEncodedChunk (event : DatasetEncodeEvent) (remainingBytes : ℤ) :
    Option EncodedChunk :=
  match event with
  | .chunk chunk => if remainingBytes < chunk.bytes.length then none else some chunk
  | _ => none

/-- What a consumer sees: the chunks, and whether they end in the drift error. -/
structure VerifiedEvents where
  yielded : List EncodedChunk
  drifted : Bool
  deriving DecidableEq, Repr

def VerifiedEvents.behind (chunks : List EncodedChunk) (events : VerifiedEvents) : VerifiedEvents :=
  { events with yielded := chunks ++ events.yielded }

/-- The loop of `verifiedEncodedEvents`, behind the bytes read and with its pending chunk;
empty chunks are skipped, and every error is thrown as drift. -/
def verifyFrom (sha256 : Bytes → String) (maxExportBytes : ℤ) (expected : EncodedContentProof)
    (thrown : Option ExportInterruption) (read : Bytes) (pending : Option EncodedChunk) :
    List DatasetEncodeEvent → VerifiedEvents
  | [] =>
      if thrown.isNone && matchesProof sha256 read expected then ⟨pending.toList, false⟩
      else ⟨[], true⟩
  | event :: rest =>
      match accumulateEncodedChunk event (maxExportBytes - read.length) with
      | none => ⟨[], true⟩
      | some chunk =>
          if chunk.bytes.isEmpty then
            verifyFrom sha256 maxExportBytes expected thrown read pending rest
          else
            (verifyFrom sha256 maxExportBytes expected thrown (read ++ chunk.bytes) (some chunk)
              rest).behind pending.toList

/-- The events of the encoder, checked against the limit and the expected proof. -/
def verifiedEncodedEvents (sha256 : Bytes → String) (maxExportBytes : ℤ)
    (expected : EncodedContentProof) (stream : EncodeStream ExportInterruption) : VerifiedEvents :=
  verifyFrom sha256 maxExportBytes expected stream.thrown [] none stream.events

/-! ## The export -/

structure ExportRecipeApplicationRequest where
  actor : VerifiedApiKey
  fieldIds : Option (List FieldId)
  format : DatasetImportFormat
  recipeApplicationId : RecipeApplicationId
  deriving DecidableEq, Repr

structure ExportRecipeApplicationLimits where
  maxExportBytes : ℤ
  maxRecordBytes : ℤ
  requiredPermission : String
  deriving DecidableEq, Repr

/-- The hashes of the export. -/
structure ExportHashes where
  projection : ProjectionContent → ContentHash
  sha256 : Bytes → String

/-- What the dependencies answer to one call, in the order of its reads. -/
structure ExportAnswers where
  codecFormat : Option DatasetImportFormat
  application : Option RecipeApplication
  recipe : Option EnrichmentRecipe
  stored : Option StoredDataset
  projection : ProjectionRead
  fieldSetIsComplete : Bool
  encodedProjection : ProjectionRead
  encoded : EncodeStream ExportInterruption

/-- `loadExactMetadata`. -/
def loadExactMetadata (answers : ExportAnswers) (workspaceId : WorkspaceId)
    (recipeApplicationId : RecipeApplicationId) :
    Except ExportRecipeApplicationFailure ExactMetadata :=
  match answers.application.filter fun application =>
      application.workspaceId == workspaceId &&
        application.recipeApplicationId == recipeApplicationId with
  | none => .error ⟨.recipeApplicationNotFound,
      "The recipe application does not exist in this workspace."⟩
  | some application =>
      match answers.recipe.filter fun recipe => recipeMatchesApplication recipe application with
      | none => .error ⟨.recipeNotFound, "The exact enrichment recipe revision does not exist " ++
          "in this application scope."⟩
      | some recipe => .ok ⟨application, recipe⟩

/-- An export: its metadata and selection, the proofs of its rows and the proof of its
content. Its events are read from the codec when they are consumed. -/
structure RecipeApplicationExport where
  metadata : ExactMetadata
  dataset : Dataset
  fields : List Field
  format : DatasetImportFormat
  proofs : List ProjectionProof
  content : EncodedContentProof
  deriving DecidableEq, Repr

/-- What the codec is handed for a read of the projection. -/
def encodeInput (hashes : ExportHashes) (limits : ExportRecipeApplicationLimits)
    (metadata : ExactMetadata) (dataset : Dataset) (fields : List Field)
    (proofs : List ProjectionProof) (read : ProjectionRead) : DatasetEncodeInput where
  datasetId := dataset.datasetId
  fields := codecFields fields
  maxRecordBytes := limits.maxRecordBytes
  records := exactOverlaidRecords hashes.projection metadata fields proofs read
  workspaceId := dataset.workspaceId

def RecipeApplicationExport.encodeInput (exported : RecipeApplicationExport)
    (hashes : ExportHashes) (limits : ExportRecipeApplicationLimits) (read : ProjectionRead) :
    DatasetEncodeInput :=
  ExportRecipeApplication.encodeInput hashes limits exported.metadata exported.dataset
    exported.fields exported.proofs read

/-- The events of an export, for the stream that the codec then gives. -/
def RecipeApplicationExport.events (exported : RecipeApplicationExport) (hashes : ExportHashes)
    (limits : ExportRecipeApplicationLimits) (stream : EncodeStream ExportInterruption) :
    VerifiedEvents :=
  verifiedEncodedEvents hashes.sha256 limits.maxExportBytes exported.content stream

/-- Limits are whole and positive, and a record fits the export. -/
def limitsAreValid (limits : ExportRecipeApplicationLimits) : Bool :=
  isSafeInteger limits.maxRecordBytes && decide (0 < limits.maxRecordBytes) &&
    isSafeInteger limits.maxExportBytes && decide (0 < limits.maxExportBytes)

/-- A CSV export of base fields that some record lacks. -/
def isSparseCsv (request : ExportRecipeApplicationRequest) (application : RecipeApplication)
    (fields : List Field) (fieldSetIsComplete : Bool) : Bool :=
  request.format == .csv &&
    fields.any (fun field => field.fieldId != application.targetFieldId) && !fieldSetIsComplete

/-- An export from its request to the description of its stream. -/
def exportRecipeApplication (hashes : ExportHashes) (limits : ExportRecipeApplicationLimits)
    (request : ExportRecipeApplicationRequest) (answers : ExportAnswers) :
    Except ExportRecipeApplicationFailure RecipeApplicationExport :=
  if !limitsAreValid limits then
    .error ⟨.codecConfigurationInvalid,
      "Recipe-application export byte limits are not configured correctly."⟩
  else if !hasPermission request.actor limits.requiredPermission then
    .error ⟨.authorityPermissionMissing,
      "The authenticated actor lacks permission to export recipe applications."⟩
  else if answers.codecFormat != some request.format then
    .error ⟨.codecConfigurationInvalid,
      "The selected dataset codec is not configured for this format."⟩
  else do
    let metadata ← loadExactMetadata answers request.actor.workspaceId request.recipeApplicationId
    let selected ← validateApplicationDataset answers.stored request.actor.workspaceId
      metadata.application request.fieldIds
    let proofs ← preflightProjection hashes.projection metadata selected.dataset
      selected.storedFields answers.projection
    if isSparseCsv request metadata.application selected.fields answers.fieldSetIsComplete then
      .error ⟨.sparseCsvUnsupported, "CSV export requires every selected base field to be " ++
        "present in every application record."⟩
    else
      let content ← preflightEncodedContent hashes.sha256 limits.maxExportBytes
        answers.encoded.thrown [] answers.encoded.events
      .ok
        { metadata := metadata
          dataset := selected.dataset
          fields := selected.fields
          format := request.format
          proofs := proofs
          content := content }

/-! ## What a selection holds -/

/-- The fields of a selection: stored fields, not none and each once, with the requested
identities in the order of the request, or all fields in their order. No two stored fields
share an identity. -/
structure FieldsAreSelected (fields : List Field) (requested : Option (List FieldId))
    (selected : List Field) : Prop where
  ids : selected.map Field.fieldId = requested.getD (fields.map Field.fieldId)
  stored : ∀ field ∈ selected, field ∈ fields
  given : selected ≠ []
  distinct : (selected.map Field.fieldId).Nodup
  unambiguous : (fields.map Field.fieldId).Nodup

private theorem mapM_find_eq_some {fields : List Field} {ids : List FieldId}
    {selected : List Field} :
    ids.mapM (fun fieldId => fields.find? fun field => field.fieldId == fieldId) = some selected →
      selected.map Field.fieldId = ids ∧ ∀ field ∈ selected, field ∈ fields := by
  induction ids generalizing selected with
  | nil =>
      rintro ⟨⟩
      exact ⟨rfl, fun _ none => absurd none List.not_mem_nil⟩
  | cons fieldId ids ih =>
      intro found
      rw [List.mapM_cons] at found
      obtain ⟨field, isField, rest⟩ := Option.bind_eq_some_iff.mp found
      obtain ⟨later, isLater, last⟩ := Option.bind_eq_some_iff.mp rest
      obtain rfl := Option.some.inj last
      obtain ⟨ids, stored⟩ := ih isLater
      have named : field.fieldId = fieldId := by simpa using List.find?_some isField
      exact ⟨by rw [List.map_cons, named, ids],
        List.forall_mem_cons.mpr ⟨List.mem_of_find?_eq_some isField, stored⟩⟩

private theorem selectFields_selected {fields selected : List Field}
    {requested : Option (List FieldId)}
    (accepted : selectFields fields requested = some selected) :
    FieldsAreSelected fields requested selected := by
  unfold selectFields at accepted
  dsimp only at accepted
  split at accepted
  · cases accepted
  rename_i valid
  split at accepted
  · cases accepted
  rename_i unambiguous
  obtain ⟨ids, stored⟩ := mapM_find_eq_some accepted
  rw [Bool.or_eq_true, not_or, Bool.not_eq_true, Bool.not_eq_true, Bool.not_eq_false',
    decide_eq_true_eq, List.isEmpty_eq_false_iff] at valid
  refine ⟨ids, stored, fun none => valid.1 ?_, ids ▸ valid.2, by simpa using unambiguous⟩
  rw [← ids, none, List.map_nil]

private theorem validateApplicationDataset_ok {stored : Option StoredDataset}
    {workspaceId : WorkspaceId}
    {application : RecipeApplication} {requested : Option (List FieldId)}
    {selected : SelectedApplicationDataset}
    (accepted : validateApplicationDataset stored workspaceId application requested =
      .ok selected) :
    ∃ dataset, stored = some dataset ∧ selected.dataset = dataset.dataset ∧
      FieldsAreSelected dataset.fields requested selected.fields := by
  unfold validateApplicationDataset at accepted
  split at accepted
  · cases accepted
  rename_i dataset found
  split at accepted
  · cases accepted
  split at accepted
  · cases accepted
  rename_i fields isSelected
  obtain rfl := Except.ok.inj accepted
  exact ⟨dataset, (Option.filter_eq_some_iff.mp found).1, rfl, selectFields_selected isSelected⟩

/-! ## What a projection holds -/

/-- A row of an application: its record and its cell result are of the application's dataset
and recipe. -/
structure RowIsOwn (application : RecipeApplication) (row : ExactRecipeProjectionRow) : Prop where
  same : applicationMatches row.application application = true
  record : row.record.workspaceId = application.workspaceId ∧
    row.record.datasetId = application.datasetId
  scope : row.cellResult.workspaceId = application.workspaceId ∧
    row.cellResult.datasetId = application.datasetId ∧
    row.cellResult.recordId = row.record.recordId
  recipe : row.cellResult.enrichmentRecipeId = application.recipeId ∧
    row.cellResult.recipeRevision = application.recipeRevision ∧
    row.cellResult.fieldId = application.targetFieldId

private theorem rowHasExactIdentity_iff {row : ExactRecipeProjectionRow} {metadata : ExactMetadata}
    {expectedRecordId : RecordId} :
    rowHasExactIdentity row metadata expectedRecordId = true ↔
      RowIsOwn metadata.application row ∧ row.record.recordId = expectedRecordId := by
  unfold rowHasExactIdentity
  simp only [Bool.and_eq_true, beq_iff_eq]
  constructor
  · rintro ⟨⟨⟨⟨⟨⟨⟨⟨⟨same, workspace⟩, dataset⟩, record⟩, cellWorkspace⟩, cellDataset⟩, cellRecord⟩,
      recipe⟩, revision⟩, field⟩
    exact ⟨⟨same, ⟨workspace, dataset⟩, ⟨cellWorkspace, cellDataset, cellRecord.trans record.symm⟩,
      ⟨recipe, revision, field⟩⟩, record⟩
  · rintro ⟨own, record⟩
    obtain ⟨cellWorkspace, cellDataset, cellRecord⟩ := own.scope
    obtain ⟨recipe, revision, field⟩ := own.recipe
    exact ⟨⟨⟨⟨⟨⟨⟨⟨⟨own.same, own.record.1⟩, own.record.2⟩, record⟩, cellWorkspace⟩,
      cellDataset⟩, cellRecord.trans record⟩, recipe⟩, revision⟩, field⟩

/-- Two proofs of rows that share no durable identity. -/
def ProofsDiffer (left right : ProjectionProof) : Prop :=
  left.recordId ≠ right.recordId ∧ left.cellResultId ≠ right.cellResultId ∧
    left.runId ≠ right.runId

/-- Two rows that share no durable identity. -/
def RowsDiffer (left right : ExactRecipeProjectionRow) : Prop :=
  left.record.recordId ≠ right.record.recordId ∧
    left.cellResult.cellResultId ≠ right.cellResult.cellResultId ∧
    left.cellResult.runId ≠ right.cellResult.runId

private def RowSucceeded (row : ExactRecipeProjectionRow) : Prop :=
  row.cellResult.status = .succeeded ∧ row.cellResult.value.isSome

/-- The rows are those of the application: one for each of its records, in its order, with a
succeeded value. -/
structure ProjectionIsExact (application : RecipeApplication)
    (rows : List ExactRecipeProjectionRow) : Prop where
  covers : rows.map (fun row => row.record.recordId) = application.graph.recordIds
  distinct : rows.Pairwise RowsDiffer
  own : ∀ row ∈ rows, RowIsOwn application row
  succeeded : ∀ row ∈ rows, RowSucceeded row

section Projection

variable {projectionHash : ProjectionContent → ContentHash} {metadata : ExactMetadata}
  {dataset : Dataset} {fields : List Field} {failed : Bool}

/-- The proofs of a preflight: those of its rows, which are distinct and in order. -/
structure PreflightHolds (projectionHash : ProjectionContent → ContentHash)
    (application : RecipeApplication) (proofs : List ProjectionProof)
    (rows : List ExactRecipeProjectionRow) (checked : List ProjectionProof) : Prop where
  proved : checked = proofs ++ rows.map (proofForRow projectionHash)
  distinct : checked.Pairwise ProofsDiffer
  ordered : rows.map (fun row => row.record.recordId) <+:
    application.graph.recordIds.drop proofs.length
  own : ∀ row ∈ rows, RowIsOwn application row
  succeeded : ∀ row ∈ rows, RowSucceeded row

/-- By induction on the rows: each row is new, is the expected one and has succeeded. -/
theorem preflightRows_holds {rows : List ExactRecipeProjectionRow} :
    ∀ {proofs checked : List ProjectionProof}, proofs.Pairwise ProofsDiffer →
      preflightRows projectionHash metadata dataset fields failed proofs rows = .ok checked →
      failed = false ∧
        PreflightHolds projectionHash metadata.application proofs rows checked := by
  induction rows with
  | nil =>
      intro proofs checked distinct accepted
      rw [preflightRows] at accepted
      cases failed with
      | true => cases accepted
      | false =>
          obtain rfl := Except.ok.inj accepted
          exact ⟨rfl, ⟨(List.append_nil _).symm, distinct, List.nil_prefix,
            fun _ none => absurd none List.not_mem_nil,
            fun _ none => absurd none List.not_mem_nil⟩⟩
  | cons row rest ih =>
      intro proofs checked distinct accepted
      rw [preflightRows] at accepted
      split at accepted
      · cases accepted
      rename_i isNew
      split at accepted
      · cases accepted
      rename_i expectedRecordId expected
      split at accepted
      · cases accepted
      rename_i exact
      split at accepted
      · cases accepted
      rename_i validated valid
      split at accepted
      · cases accepted
      rename_i complete
      obtain rfl := createCellResult_ok valid
      rw [Bool.not_eq_true, Bool.not_eq_false', rowHasExactIdentity_iff] at exact
      obtain ⟨own, record⟩ := exact
      have succeeded : RowSucceeded row := by
        simpa [RowSucceeded, ← Option.isSome_iff_ne_none] using complete
      have differs : ∀ seen ∈ proofs, ProofsDiffer seen (proofForRow projectionHash row) := by
        simpa [ProofsDiffer, proofForRow, not_or, and_assoc] using isNew
      have grown : (proofs ++ [proofForRow projectionHash row]).Pairwise ProofsDiffer := by
        refine List.pairwise_append.mpr ⟨distinct, List.pairwise_singleton _ _, ?_⟩
        intro seen member added isAdded
        rw [List.mem_singleton.mp isAdded]
        exact differs seen member
      obtain ⟨ended, later⟩ := ih grown accepted
      refine ⟨ended, ⟨?_, later.distinct, ?_, ?_, ?_⟩⟩
      · rw [later.proved, List.map_cons, List.append_assoc, List.singleton_append]
      · obtain ⟨inside, found⟩ := List.getElem?_eq_some_iff.mp expected
        have ordered := later.ordered
        rw [List.length_append, List.length_singleton] at ordered
        rw [List.drop_eq_getElem_cons inside, found, List.map_cons, record]
        exact (List.prefix_cons_inj expectedRecordId).mpr ordered
      · exact List.forall_mem_cons.mpr ⟨own, later.own⟩
      · exact List.forall_mem_cons.mpr ⟨succeeded, later.succeeded⟩

/-- A preflight is passed only by the exact projection, read to its end. -/
theorem preflightProjection_ok {read : ProjectionRead} {proofs : List ProjectionProof}
    (accepted : preflightProjection projectionHash metadata dataset fields read = .ok proofs) :
    read.failed = false ∧ ProjectionIsExact metadata.application read.rows ∧
      proofs = read.rows.map (proofForRow projectionHash) := by
  unfold preflightProjection at accepted
  dsimp only at accepted
  split at accepted
  · cases accepted
  split at accepted
  · cases accepted
  rename_i checked preflight
  split at accepted
  · cases accepted
  rename_i counted
  obtain rfl := Except.ok.inj accepted
  obtain ⟨ended, holds⟩ := preflightRows_holds List.Pairwise.nil preflight
  have proofsEq : checked = read.rows.map (proofForRow projectionHash) := holds.proved
  have lengths : read.rows.length = metadata.application.graph.recordIds.length := by
    rw [bne_iff_ne, not_not, proofsEq, List.length_map] at counted
    exact counted
  have covers : read.rows.map (fun row => row.record.recordId) =
      metadata.application.graph.recordIds :=
    holds.ordered.eq_of_length ((List.length_map _).trans lengths)
  have distinct := holds.distinct
  rw [proofsEq, List.pairwise_map] at distinct
  exact ⟨ended, ⟨covers, distinct, holds.own, holds.succeeded⟩, proofsEq⟩

/-! ## The records of a read -/

private theorem sameProof_iff {row : ExactRecipeProjectionRow} {proof : ProjectionProof} :
    sameProof projectionHash row proof = true ↔ proofForRow projectionHash row = proof := by
  cases proof
  simp [sameProof, proofForRow, and_comm, and_assoc]

/-- The value of a record in a field, if it has one. -/
def fieldValue (record : DatasetRecord) (fieldId : FieldId) : Option ScalarValue :=
  (record.values.find? fun entry => entry.fieldId == fieldId).map RecordValue.value

/-- A record that the codec is handed for a row: the row's record, with those of the selected
fields that it has, in the order of the selection, and in the target field the value of the
row's cell. -/
structure IsOverlaid (fields : List Field) (targetFieldId : FieldId)
    (row : ExactRecipeProjectionRow) (record : DatasetRecord) : Prop where
  identity : record.workspaceId = row.record.workspaceId ∧
    record.datasetId = row.record.datasetId ∧ record.recordId = row.record.recordId
  order : record.values.map RecordValue.fieldId = (fields.map Field.fieldId).filter fun fieldId =>
    fieldId == targetFieldId || (fieldValue row.record fieldId).isSome
  target : targetFieldId ∈ fields.map Field.fieldId →
    fieldValue record targetFieldId = row.cellResult.value
  others : ∀ fieldId ∈ fields.map Field.fieldId, fieldId ≠ targetFieldId →
    fieldValue record fieldId = fieldValue row.record fieldId

section

variable {row : ExactRecipeProjectionRow} {targetFieldId : FieldId} {targetValue : ScalarValue}

private theorem overlaidValue_fieldId {field : Field} {entry : RecordValue}
    (given : overlaidValue row targetFieldId targetValue field = some entry) :
    entry.fieldId = field.fieldId := by
  unfold overlaidValue at given
  split at given
  · exact (Option.some.inj given) ▸ rfl
  · simpa using List.find?_some given

private theorem overlaidValue_isSome {field : Field} :
    (overlaidValue row targetFieldId targetValue field).isSome =
      (field.fieldId == targetFieldId || (fieldValue row.record field.fieldId).isSome) := by
  unfold overlaidValue fieldValue
  split
  · rename_i target
    rw [Option.isSome_some, target, Bool.true_or]
  · rename_i other
    rw [Bool.eq_false_iff.mpr other, Bool.false_or, Option.isSome_map]

/-- In a selection without duplicates a field has the value it is overlaid with. -/
theorem fieldValue_overlaidRecord {fields : List Field}
    (distinct : (fields.map Field.fieldId).Nodup) {field : Field} (selected : field ∈ fields) :
    fieldValue (overlaidRecord row fields targetFieldId targetValue) field.fieldId =
      (overlaidValue row targetFieldId targetValue field).map RecordValue.value := by
  unfold fieldValue overlaidRecord
  dsimp only
  congr 1
  induction fields with
  | nil => cases selected
  | cons first rest ih =>
      rw [List.map_cons, List.nodup_cons] at distinct
      rw [List.filterMap_cons]
      rcases List.mem_cons.mp selected with rfl | later
      · cases given : overlaidValue row targetFieldId targetValue field with
        | none =>
            refine List.find?_eq_none.mpr fun entry member => ?_
            obtain ⟨other, isOther, overlaid⟩ := List.mem_filterMap.mp member
            rw [overlaidValue_fieldId overlaid, beq_iff_eq]
            intro same
            exact distinct.1 (same ▸ List.mem_map_of_mem isOther)
        | some entry =>
            exact List.find?_cons_of_pos (by simpa using overlaidValue_fieldId given)
      · have differs : first.fieldId ≠ field.fieldId := fun same =>
          distinct.1 (same ▸ List.mem_map_of_mem later)
        cases given : overlaidValue row targetFieldId targetValue first with
        | none => exact ih distinct.2 later
        | some entry =>
            have other : ¬ (entry.fieldId == field.fieldId) = true := by
              rwa [overlaidValue_fieldId given, beq_iff_eq]
            dsimp only
            rw [List.find?_cons, Bool.eq_false_iff.mpr other]
            exact ih distinct.2 later

private theorem overlaidRecord_isOverlaid {fields : List Field}
    (distinct : (fields.map Field.fieldId).Nodup)
    (given : row.cellResult.value = some targetValue) :
    IsOverlaid fields targetFieldId row (overlaidRecord row fields targetFieldId targetValue) := by
  refine ⟨⟨rfl, rfl, rfl⟩, ?_, fun selected => ?_, fun fieldId selected other => ?_⟩
  · unfold overlaidRecord
    dsimp only
    clear distinct
    induction fields with
    | nil => rfl
    | cons field rest ih =>
        have isSome := @overlaidValue_isSome row targetFieldId targetValue field
        rw [List.filterMap_cons, List.map_cons, List.filter_cons, ← isSome, ← ih]
        cases overlaid : overlaidValue row targetFieldId targetValue field with
        | none => rfl
        | some entry => exact congrArg (· :: _) (overlaidValue_fieldId overlaid)
  · obtain ⟨field, isField, rfl⟩ := List.mem_map.mp selected
    rw [fieldValue_overlaidRecord distinct isField, overlaidValue, if_pos (beq_self_eq_true _),
      given]
    rfl
  · obtain ⟨field, isField, rfl⟩ := List.mem_map.mp selected
    rw [fieldValue_overlaidRecord distinct isField, overlaidValue,
      if_neg (by simpa using other)]
    rfl

end

/-- By induction on the rows: a read that ends without drift has the rows of the proofs. -/
theorem overlaidFrom_ends {proofs : List ProjectionProof} {rows : List ExactRecipeProjectionRow} :
    (fields.map Field.fieldId).Nodup → ∀ {index : ℕ}, index ≤ proofs.length →
      (overlaidFrom projectionHash metadata fields proofs failed index rows).drifted = false →
      rows.map (proofForRow projectionHash) = proofs.drop index ∧
        (∀ row ∈ rows, RowIsOwn metadata.application row ∧ RowSucceeded row) ∧
        List.Forall₂ (IsOverlaid fields metadata.application.targetFieldId) rows
          (overlaidFrom projectionHash metadata fields proofs failed index rows).records := by
  intro distinct
  induction rows with
  | nil =>
      intro index within ended
      rw [overlaidFrom] at ended ⊢
      have last : index = proofs.length := by
        simpa using (Bool.or_eq_false_iff.mp ended).2
      refine ⟨?_, fun _ none => absurd none List.not_mem_nil, List.Forall₂.nil⟩
      rw [last, List.drop_length, List.map_nil]
  | cons row rest ih =>
      intro index within ended
      rw [overlaidFrom] at ended ⊢
      split at ended
      · rename_i proof value found given
        split at ended
        · rename_i matched
          rw [if_pos matched]
          simp only [Bool.and_eq_true, beq_iff_eq, rowHasExactIdentity_iff, sameProof_iff]
            at matched
          obtain ⟨⟨⟨own, _⟩, succeeded⟩, proofEq⟩ := matched
          obtain ⟨inside, atIndex⟩ := List.getElem?_eq_some_iff.mp found
          obtain ⟨proved, belongs, overlaid⟩ := ih (Nat.succ_le_of_lt inside) ended
          refine ⟨?_, ?_, List.Forall₂.cons
            (overlaidRecord_isOverlaid distinct given) overlaid⟩
          · rw [List.map_cons, proved, proofEq, List.drop_eq_getElem_cons inside, atIndex]
          · refine List.forall_mem_cons.mpr ⟨⟨own, succeeded, ?_⟩, belongs⟩
            rw [given, Option.isSome_some]
        · cases ended
      · cases ended

/-- Rows with the proofs of an exact projection are an exact projection. -/
theorem ProjectionIsExact.of_proofs {application : RecipeApplication}
    {earlier later : List ExactRecipeProjectionRow} (exact : ProjectionIsExact application earlier)
    (same : later.map (proofForRow projectionHash) = earlier.map (proofForRow projectionHash))
    (own : ∀ row ∈ later, RowIsOwn application row) (succeeded : ∀ row ∈ later, RowSucceeded row) :
    ProjectionIsExact application later := by
  have recordIds := congrArg (List.map ProjectionProof.recordId) same
  have distinct : (earlier.map (proofForRow projectionHash)).Pairwise ProofsDiffer :=
    List.pairwise_map.mpr exact.distinct
  rw [List.map_map, List.map_map] at recordIds
  rw [← same, List.pairwise_map] at distinct
  exact ⟨recordIds.trans exact.covers, distinct, own, succeeded⟩

end Projection

/-! ## The bytes of a stream -/

section Bytes

variable {sha256 : Bytes → String} {maxExportBytes : ℤ} {thrown : Option ExportInterruption}

private theorem accumulateEncodedChunk_chunk {event : DatasetEncodeEvent} {remainingBytes : ℤ}
    {chunk : EncodedChunk} (taken : accumulateEncodedChunk event remainingBytes = some chunk) :
    event = .chunk chunk := by
  unfold accumulateEncodedChunk at taken
  split at taken
  · split at taken
    · cases taken
    · rw [Option.some.inj taken]
  · cases taken

/-- A preflight that succeeds has read a stream of chunks to its end. -/
theorem preflightEncodedContent_ok {events : List DatasetEncodeEvent} :
    ∀ {read : Bytes} {content : EncodedContentProof},
      preflightEncodedContent sha256 maxExportBytes thrown read events = .ok content →
      content = ⟨sha256 (read ++ chunkBytes (events.filterMap DatasetEncodeEvent.chunk?)),
        (read ++ chunkBytes (events.filterMap DatasetEncodeEvent.chunk?)).length⟩ := by
  induction events with
  | nil =>
      intro read content accepted
      rw [preflightEncodedContent.eq_def] at accepted
      rw [List.filterMap_nil, chunkBytes, List.flatMap_nil, List.append_nil]
      rcases thrown with _ | _ | _
      · exact (Except.ok.inj accepted).symm
      · cases accepted
      · cases accepted
  | cons event rest ih =>
      intro read content accepted
      cases event with
      | chunk chunk =>
          rw [preflightEncodedContent] at accepted
          split at accepted
          · cases accepted
          have later := ih accepted
          rw [List.append_assoc] at later
          exact later
      | malformed => cases accepted
      | error code =>
          rw [preflightEncodedContent] at accepted
          split at accepted
          · cases accepted
          · cases accepted

variable {expected : EncodedContentProof}

/-- By induction on the events, behind a pending chunk: once drift is thrown, the last chunk
with bytes was not yielded. -/
theorem verifyFrom_drifted {events : List DatasetEncodeEvent} :
    ∀ {read : Bytes} {pending : Option EncodedChunk},
      (verifyFrom sha256 maxExportBytes expected thrown read pending events).drifted = true →
      (verifyFrom sha256 maxExportBytes expected thrown read pending events).yielded <+:
        (pending.toList ++
          nonEmptyChunks (events.filterMap DatasetEncodeEvent.chunk?)).dropLast := by
  induction events with
  | nil =>
      intro read pending drifted
      rw [verifyFrom] at drifted ⊢
      split at drifted
      · cases drifted
      · rename_i unproved
        rw [if_neg unproved]
        exact List.nil_prefix
  | cons event rest ih =>
      intro read pending drifted
      rw [verifyFrom] at drifted ⊢
      split at drifted
      · exact List.nil_prefix
      rename_i chunk taken
      obtain rfl := accumulateEncodedChunk_chunk taken
      rw [chunks_cons]
      split at drifted
      · rename_i empty
        rw [if_pos empty, nonEmptyChunks, List.filter_cons_of_neg (by simp [empty])]
        exact ih drifted
      · rename_i bytes
        rw [if_neg bytes, nonEmptyChunks, List.filter_cons_of_pos (by simpa using bytes),
          List.dropLast_append_of_ne_nil (List.cons_ne_nil _ _)]
        exact (List.prefix_append_right_inj _).mpr (ih drifted)

/-- A stream that ends without drift: its chunks are yielded, and all its bytes are proved. -/
structure StreamIsProved (sha256 : Bytes → String) (expected : EncodedContentProof)
    (thrown : Option ExportInterruption) (read : Bytes) (events : List DatasetEncodeEvent) :
    Prop where
  ends : thrown = none ∧ ∀ event ∈ events, ∃ chunk, event = .chunk chunk
  matched : matchesProof sha256
    (read ++ chunkBytes (events.filterMap DatasetEncodeEvent.chunk?)) expected = true

private theorem verifyFrom_ended {events : List DatasetEncodeEvent} :
    ∀ {read : Bytes} {pending : Option EncodedChunk},
      (verifyFrom sha256 maxExportBytes expected thrown read pending events).drifted = false →
      (verifyFrom sha256 maxExportBytes expected thrown read pending events).yielded =
          pending.toList ++ nonEmptyChunks (events.filterMap DatasetEncodeEvent.chunk?) ∧
        StreamIsProved sha256 expected thrown read events := by
  induction events with
  | nil =>
      intro read pending ended
      rw [verifyFrom] at ended ⊢
      split at ended
      · rename_i proved
        rw [if_pos proved]
        rw [Bool.and_eq_true, Option.isNone_iff_eq_none] at proved
        refine ⟨(List.append_nil _).symm,
          ⟨proved.1, fun _ none => absurd none List.not_mem_nil⟩, ?_⟩
        rw [List.filterMap_nil, chunkBytes, List.flatMap_nil, List.append_nil]
        exact proved.2
      · cases ended
  | cons event rest ih =>
      intro read pending ended
      rw [verifyFrom] at ended ⊢
      split at ended
      · cases ended
      rename_i chunk taken
      obtain rfl := accumulateEncodedChunk_chunk taken
      rw [chunks_cons]
      split at ended
      · rename_i empty
        rw [if_pos empty, nonEmptyChunks, List.filter_cons_of_neg (by simp [empty])]
        obtain ⟨yields, proved⟩ := ih ended
        refine ⟨yields, ⟨proved.ends.1, List.forall_mem_cons.mpr ⟨⟨chunk, rfl⟩, proved.ends.2⟩⟩, ?_⟩
        rw [chunks_cons, chunkBytes, List.flatMap_cons,
          List.isEmpty_iff.mp empty, List.nil_append]
        exact proved.matched
      · rename_i bytes
        rw [if_neg bytes, nonEmptyChunks, List.filter_cons_of_pos (by simpa using bytes)]
        obtain ⟨yields, proved⟩ := ih ended
        refine ⟨congrArg (pending.toList ++ ·) yields,
          ⟨proved.ends.1, List.forall_mem_cons.mpr ⟨⟨chunk, rfl⟩, proved.ends.2⟩⟩, ?_⟩
        rw [chunks_cons, chunkBytes, List.flatMap_cons, ← List.append_assoc]
        exact proved.matched

end Bytes

/-! ## Exactness -/

/-- Two values that a hash keeps apart. -/
def Separates {Content Hash : Type} (hash : Content → Hash) (left right : Content) : Prop :=
  hash left = hash right → left = right

/-- What a consumer gets of the last read, given the rows and the bytes of the preflights:
without drift, the exact projection and its announced content; with other bytes, drift, and
never the last chunk. -/
structure LastReadIsExact (hashes : ExportHashes) (limits : ExportRecipeApplicationLimits)
    (exported : RecipeApplicationExport) (preflight : List ExactRecipeProjectionRow)
    (preflightBytes : Bytes) (read : ProjectionRead) (stream : EncodeStream ExportInterruption) :
    Prop where
  rows : (exported.events hashes limits stream).drifted = false →
    ProjectionIsExact exported.metadata.application read.rows
  records : (exported.events hashes limits stream).drifted = false →
    List.Forall₂ (IsOverlaid exported.fields exported.metadata.application.targetFieldId)
      read.rows (exported.encodeInput hashes limits read).records.records
  unchanged : (exported.events hashes limits stream).drifted = false →
    (∀ earlier ∈ preflight, ∀ later ∈ read.rows,
      Separates hashes.projection (projectionContent later) (projectionContent earlier)) →
    read.rows.map projectionContent = preflight.map projectionContent
  content : (exported.events hashes limits stream).drifted = false →
    chunkBytes (exported.events hashes limits stream).yielded = chunkBytes stream.chunks ∧
      (chunkBytes stream.chunks).length = exported.content.contentLength ∧
      hashes.sha256 (chunkBytes stream.chunks) = exported.content.contentHash
  withheld : chunkBytes stream.chunks ≠ preflightBytes →
    Separates hashes.sha256 (chunkBytes stream.chunks) preflightBytes →
    (exported.events hashes limits stream).drifted = true ∧
      (exported.events hashes limits stream).yielded <+: (nonEmptyChunks stream.chunks).dropLast

section

variable {hashes : ExportHashes} {limits : ExportRecipeApplicationLimits}
  {request : ExportRecipeApplicationRequest} {answers : ExportAnswers}

private theorem loadExactMetadata_application {workspaceId : WorkspaceId}
    {recipeApplicationId : RecipeApplicationId} {metadata : ExactMetadata}
    (loaded : loadExactMetadata answers workspaceId recipeApplicationId = .ok metadata) :
    answers.application = some metadata.application := by
  unfold loadExactMetadata at loaded
  split at loaded
  · cases loaded
  rename_i application found
  split at loaded
  · cases loaded
  obtain rfl := Except.ok.inj loaded
  exact (Option.filter_eq_some_iff.mp found).1

/-- What an export that answers ok has checked. -/
structure ExportHolds (hashes : ExportHashes) (request : ExportRecipeApplicationRequest)
    (answers : ExportAnswers) (exported : RecipeApplicationExport) : Prop where
  application : answers.application = some exported.metadata.application
  selected : ∃ stored, answers.stored = some stored ∧ exported.dataset = stored.dataset ∧
    FieldsAreSelected stored.fields request.fieldIds exported.fields
  ended : answers.projection.failed = false
  projection : ProjectionIsExact exported.metadata.application answers.projection.rows
  proofs : exported.proofs = answers.projection.rows.map (proofForRow hashes.projection)
  content : exported.content = ⟨hashes.sha256 (chunkBytes answers.encoded.chunks),
    (chunkBytes answers.encoded.chunks).length⟩

private theorem exportRecipeApplication_holds {exported : RecipeApplicationExport}
    (accepted : exportRecipeApplication hashes limits request answers = .ok exported) :
    ExportHolds hashes request answers exported := by
  unfold exportRecipeApplication at accepted
  split at accepted
  · cases accepted
  split at accepted
  · cases accepted
  split at accepted
  · cases accepted
  obtain ⟨metadata, loaded, accepted⟩ := bind_eq_ok.mp accepted
  obtain ⟨selected, validated, accepted⟩ := bind_eq_ok.mp accepted
  obtain ⟨proofs, preflight, accepted⟩ := bind_eq_ok.mp accepted
  split at accepted
  · cases accepted
  obtain ⟨content, encoded, accepted⟩ := bind_eq_ok.mp accepted
  obtain rfl := Except.ok.inj accepted
  obtain ⟨ended, exact, proved⟩ := preflightProjection_ok preflight
  exact ⟨loadExactMetadata_application loaded, validateApplicationDataset_ok validated, ended,
    exact, proved, preflightEncodedContent_ok encoded⟩

private theorem export_lastRead_isExact {exported : RecipeApplicationExport}
    (holds : ExportHolds hashes request answers exported) {codec : DatasetCodec}
    {read : ProjectionRead}
    {stream : EncodeStream ExportInterruption}
    (encodes : codec.encodes (exported.encodeInput hashes limits read) stream) :
    LastReadIsExact hashes limits exported answers.projection.rows
      (chunkBytes answers.encoded.chunks) read stream := by
  have verified : (exported.events hashes limits stream).drifted = false →
      (exported.events hashes limits stream).yielded = nonEmptyChunks stream.chunks ∧
        StreamIsProved hashes.sha256 exported.content stream.thrown [] stream.events :=
    verifyFrom_ended
  have handed : (exported.events hashes limits stream).drifted = false →
      read.rows.map (proofForRow hashes.projection) = exported.proofs ∧
        (∀ row ∈ read.rows, RowIsOwn exported.metadata.application row ∧ RowSucceeded row) ∧
        List.Forall₂ (IsOverlaid exported.fields exported.metadata.application.targetFieldId)
          read.rows (exported.encodeInput hashes limits read).records.records := by
    intro ended
    obtain ⟨_, _, _, selected⟩ := holds.selected
    exact overlaidFrom_ends selected.distinct (Nat.zero_le _)
      (codec.readsToEnd _ stream encodes (verified ended).2.ends)
  refine ⟨?_, fun ended => (handed ended).2.2, ?_, ?_, ?_⟩
  · intro ended
    obtain ⟨same, belongs, _⟩ := handed ended
    rw [holds.proofs] at same
    exact holds.projection.of_proofs same (fun row member => (belongs row member).1)
      fun row member => (belongs row member).2
  · intro ended separates
    obtain ⟨same, _, _⟩ := handed ended
    rw [holds.proofs] at same
    have hashesEq : (read.rows.map projectionContent).map hashes.projection =
        (answers.projection.rows.map projectionContent).map hashes.projection := by
      have projected := congrArg (List.map ProjectionProof.projectionHash) same
      rwa [List.map_map, List.map_map] at projected ⊢
    refine map_inj_on hashesEq fun later isLater earlier isEarlier sameHash => ?_
    obtain ⟨laterRow, isLaterRow, rfl⟩ := List.mem_map.mp isLater
    obtain ⟨earlierRow, isEarlierRow, rfl⟩ := List.mem_map.mp isEarlier
    exact separates earlierRow isEarlierRow laterRow isLaterRow sameHash
  · intro ended
    obtain ⟨yields, proved⟩ := verified ended
    have matched := proved.matched
    rw [List.nil_append, matchesProof, Bool.and_eq_true, decide_eq_true_iff,
      decide_eq_true_iff] at matched
    refine ⟨?_, matched⟩
    rw [yields, chunkBytes_nonEmpty]
  · intro differs separates
    have drifted : (exported.events hashes limits stream).drifted = true := by
      by_contra ended
      have matched := (verified (Bool.eq_false_iff.mpr ended)).2.matched
      rw [List.nil_append, matchesProof, Bool.and_eq_true, decide_eq_true_iff,
        decide_eq_true_iff, holds.content] at matched
      exact differs (separates matched.2)
    exact ⟨drifted, verifyFrom_drifted drifted⟩

/-- **An export of a recipe application is exact under drift.** A preflight read that is not
the exact projection, or that fails, makes it refuse, and so does a selection that names no
stored fields; once it answers ok, its fields are the selected ones, and every later read by
every codec either ends with the exact records and the announced bytes or in drift. -/
theorem exportRecipeApplication_isExact (hashes : ExportHashes)
    (limits : ExportRecipeApplicationLimits) (request : ExportRecipeApplicationRequest)
    (answers : ExportAnswers) :
    (∀ application, answers.application = some application →
      (answers.projection.failed = true ∨
        ¬ ProjectionIsExact application answers.projection.rows) →
      ∃ failure, exportRecipeApplication hashes limits request answers = .error failure) ∧
    (∀ stored, answers.stored = some stored →
      (¬ ∃ selected, FieldsAreSelected stored.fields request.fieldIds selected) →
      ∃ failure, exportRecipeApplication hashes limits request answers = .error failure) ∧
    ∀ exported, exportRecipeApplication hashes limits request answers = .ok exported →
      (∃ stored, answers.stored = some stored ∧ exported.dataset = stored.dataset ∧
        FieldsAreSelected stored.fields request.fieldIds exported.fields) ∧
      ∀ (codec : DatasetCodec) (read : ProjectionRead) (stream : EncodeStream ExportInterruption),
        codec.encodes (exported.encodeInput hashes limits read) stream →
        LastReadIsExact hashes limits exported answers.projection.rows
          (chunkBytes answers.encoded.chunks) read stream := by
  refine ⟨fun application found inexact => ?_, fun stored found unselectable => ?_,
    fun exported accepted => ?_⟩
  · cases accepted : exportRecipeApplication hashes limits request answers with
    | error failure => exact ⟨failure, rfl⟩
    | ok exported =>
        have holds := exportRecipeApplication_holds accepted
        obtain rfl := Option.some.inj (found.symm.trans holds.application)
        rcases inexact with failed | inexact
        · rw [holds.ended] at failed
          cases failed
        · exact absurd holds.projection inexact
  · cases accepted : exportRecipeApplication hashes limits request answers with
    | error failure => exact ⟨failure, rfl⟩
    | ok exported =>
        obtain ⟨dataset, isStored, _, selected⟩ := (exportRecipeApplication_holds accepted).selected
        obtain rfl := Option.some.inj (found.symm.trans isStored)
        exact absurd ⟨_, selected⟩ unselectable
  · have holds := exportRecipeApplication_holds accepted
    exact ⟨holds.selected, fun codec read stream encodes => export_lastRead_isExact holds encodes⟩

end

/-! ## A sample export -/

section Sample

def sampleApplication : RecipeApplication where
  aggregateBudget := none
  createdAt := 1
  datasetId := "dataset-1"
  graph := ⟨["record-1"]⟩
  graphHash := "graph"
  intentHash := "intent"
  maxCells := 1
  recipeApplicationId := "application-1"
  recipeId := "recipe-1"
  recipeRevision := "1"
  targetFieldId := "field-2"
  workspaceId := "workspace-1"

def sampleRecipe : EnrichmentRecipe where
  datasetId := "dataset-1"
  enrichmentRecipeId := "recipe-1"
  inputFieldIds := ["field-1"]
  name := "Headcount"
  recipeRevision := "1"
  targetFieldId := "field-2"
  workflowContentHash := "workflow"
  workflowRevision := "1"
  workflowSpecId := "spec-1"
  workspaceId := "workspace-1"

def sampleFields : List Field :=
  [⟨"dataset-1", "field-1", "company", "Company", .string, "workspace-1"⟩,
    ⟨"dataset-1", "field-2", "headcount", "Headcount", .number, "workspace-1"⟩]

def sampleDataset : Dataset := ⟨"dataset-1", "Companies", "workspace-1"⟩

private def sampleMaterialization : DatasetMaterialization where
  completedAt := some 1
  completionReason := none
  contentHash := some "content"
  coverage := none
  createdAt := 1
  datasetId := "dataset-1"
  materializationId := "materialization-1"
  origin := .imported "import-1"
  recordCount := 1
  rejectedCount := 0
  revision := 1
  schemaHash := "schema"
  state := .ready
  workspaceId := "workspace-1"

private def sampleCellResult : CellResult where
  cellResultId := "cell-result-1"
  datasetId := "dataset-1"
  enrichmentRecipeId := "recipe-1"
  fieldId := "field-2"
  recipeRevision := "1"
  recordId := "record-1"
  runId := "run-1"
  status := .succeeded
  workspaceId := "workspace-1"
  confidence := none
  cost := none
  freshness := none
  provenance := none
  reason := none
  value := some (.number 40)

def sampleRow : ExactRecipeProjectionRow where
  application := sampleApplication
  binding := .executed
  cellResult := sampleCellResult
  record := ⟨"dataset-1", "record-1", [⟨"field-1", .string "Acme"⟩], "workspace-1"⟩
  recordContentHash := "record-content"

def sampleHashes : ExportHashes := ⟨fun content => content.recordContentHash, fun _ => "hash"⟩

def sampleLimits : ExportRecipeApplicationLimits := ⟨10, 10, "datasets:export"⟩

def sampleRequest : ExportRecipeApplicationRequest where
  actor := ⟨"actor-1", ["datasets:export"], "workspace-1"⟩
  fieldIds := none
  format := .jsonl
  recipeApplicationId := "application-1"

/-- A chunk of one byte for each record. -/
def sampleStream (records : RecordStream) : EncodeStream ExportInterruption where
  events := records.records.map fun _ => .chunk ⟨[65], none⟩
  thrown := if records.drifted then some .exportDrift else none

private def sampleCodec : DatasetCodec where
  format := .jsonl
  encodes := fun input stream => stream = sampleStream input.records
  readsToEnd := by
    rintro input stream rfl ⟨ends, _⟩
    cases drifted : input.records.drifted with
    | false => rfl
    | true => simp [sampleStream, drifted] at ends

def sampleRead : ProjectionRead := ⟨[sampleRow], false⟩

def sampleAnswers : ExportAnswers where
  codecFormat := some .jsonl
  application := some sampleApplication
  recipe := some sampleRecipe
  stored := some ⟨sampleDataset, sampleFields, sampleMaterialization⟩
  projection := sampleRead
  fieldSetIsComplete := true
  encodedProjection := sampleRead
  encoded := ⟨[.chunk ⟨[65], none⟩], none⟩

def sampleExport : RecipeApplicationExport where
  metadata := ⟨sampleApplication, sampleRecipe⟩
  dataset := sampleDataset
  fields := sampleFields
  format := .jsonl
  proofs := [⟨"cell-result-1", "record-content", "record-1", "run-1"⟩]
  content := ⟨"hash", 1⟩

/-- The sample export ends, and the read behind it is exact. -/
theorem exportRecipeApplication_isExact_sample :
    exportRecipeApplication sampleHashes sampleLimits sampleRequest sampleAnswers =
        .ok sampleExport ∧
      LastReadIsExact sampleHashes sampleLimits sampleExport [sampleRow] [65] sampleRead
        (sampleStream (sampleExport.encodeInput sampleHashes sampleLimits sampleRead).records) := by
  have accepted : exportRecipeApplication sampleHashes sampleLimits sampleRequest sampleAnswers =
      .ok sampleExport := by decide
  exact ⟨accepted, ((exportRecipeApplication_isExact sampleHashes sampleLimits sampleRequest
    sampleAnswers).2.2 sampleExport accepted).2 sampleCodec sampleRead _ rfl⟩

end Sample

end Kurobara.Application.ExportRecipeApplication
