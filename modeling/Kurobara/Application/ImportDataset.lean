import Kurobara.Application.ContentSize
import Kurobara.Application.ExportRecipeApplication
import Kurobara.DatasetCodec.Csv
import Kurobara.DatasetCodec.Jsonl
import Kurobara.Kernel.ProductUnits

/-! # Importing a dataset

`makeImportDataset`: the events of a decoder become items, items become batches within the limits
of the request, and batches are handed to the persistence one after the other. The persistence
answers each batch from those it was handed before.
-/

namespace Kurobara.Application.ImportDataset

open Foundation Kernel DatasetCodec
open ExportRecipeApplication (DatasetImportFormat)

/-! ## Items -/

inductive DatasetImportIssueCode where
  | codec (code : DatasetCodecErrorCode)
  | recordDomainInvalid
  | recordIdConflict
  deriving DecidableEq, Repr

private def codecCodeText : DatasetCodecErrorCode → String
  | .columnCountMismatch => "column-count-mismatch"
  | .configurationInvalid => "configuration-invalid"
  | .csvSyntaxInvalid => "csv-syntax-invalid"
  | .fieldSetInvalid => "field-set-invalid"
  | .headerInvalid => "header-invalid"
  | .invalidJson => "invalid-json"
  | .invalidRecordShape => "invalid-record-shape"
  | .invalidUtf8 => "invalid-utf8"
  | .recordIdInvalid => "record-id-invalid"
  | .recordTooLarge => "record-too-large"
  | .scopeMismatch => "scope-mismatch"
  | .valueTypeMismatch => "value-type-mismatch"

def DatasetImportIssueCode.text : DatasetImportIssueCode → String
  | .codec code => codecCodeText code
  | .recordDomainInvalid => "record-domain-invalid"
  | .recordIdConflict => "record-id-conflict"

structure DatasetImportIssue where
  code : DatasetImportIssueCode
  message : String
  recoverable : Bool
  scope : DatasetCodecErrorScope
  fieldKey : Option JsString
  lineEnd : Option ℕ
  lineStart : Option ℕ
  recordId : Option JsString
  recordNumber : Option ℕ
  deriving DecidableEq, Repr

/-- A record of the import, or the issue in its place. -/
inductive DatasetImportItem where
  | record (contentHash : JsString) (itemNumber : ℕ) (record : Units.Record) (recordNumber : ℕ)
  | issue (contentHash : JsString) (issue : DatasetImportIssue) (itemNumber : ℕ)
  deriving DecidableEq

def DatasetImportItem.itemNumber : DatasetImportItem → ℕ
  | .record _ itemNumber _ _ => itemNumber
  | .issue _ _ itemNumber => itemNumber

def DatasetImportItem.record? : DatasetImportItem → Option Units.Record
  | .record _ _ created _ => some created
  | .issue _ _ _ => none

/-- An issue after which the import stops. -/
def DatasetImportItem.isTerminal : DatasetImportItem → Bool
  | .record _ _ _ _ => false
  | .issue _ reported _ => !reported.recoverable

/-- A decoding error as an issue of the import. -/
def importIssue (error : DatasetCodecError) : DatasetImportIssue where
  code := .codec error.code
  message := error.message
  recoverable := error.recoverable
  scope := error.scope
  fieldKey := error.fieldKey
  lineEnd := error.lineEnd
  lineStart := error.lineStart
  recordId := error.recordId
  recordNumber := error.recordNumber

def invalidDomainRecordIssue : DatasetImportIssue :=
  ⟨.recordDomainInvalid, "The decoded record violates the canonical dataset invariants.", false,
    .record, none, none, none, none, none⟩

def oversizedBatchItemIssue : DatasetImportIssue :=
  ⟨.recordDomainInvalid, "The normalized record exceeds the configured import batch limit.", false,
    .record, none, none, none, none, none⟩

/-! ## The content of items -/

private def countContent (count : ℕ) : JsonContent :=
  .number (.ofCount count)

private def textContent (text : String) : JsonContent :=
  .string (ascii text)

private def scopeText : DatasetCodecErrorScope → String
  | .document => "document"
  | .record => "record"

def issueContent (issue : DatasetImportIssue) : JsonContent :=
  .object ["code", "message", "recoverable", "scope", "fieldKey", "lineEnd", "lineStart",
    "recordId",
      "recordNumber"]
    [some (textContent issue.code.text), some (textContent issue.message),
      some (.boolean issue.recoverable), some (textContent (scopeText issue.scope)),
      issue.fieldKey.map .string, issue.lineEnd.map countContent, issue.lineStart.map countContent,
      issue.recordId.map .string, issue.recordNumber.map countContent] (by decide)

private def scalarContent : Units.ScalarValue → JsonContent
  | .null => .null
  | .boolean value => .boolean value
  | .number value => .number value
  | .string value => .string value

private def valueContent (entry : JsString × Units.ScalarValue) : JsonContent :=
  .object ["fieldId", "value"] [some (.string entry.1), some (scalarContent entry.2)] (by decide)

def recordContent (record : Units.Record) : JsonContent :=
  .object ["datasetId", "recordId", "values", "workspaceId"]
    [some (.string record.datasetId), some (.string record.recordId),
      some (.array (record.values.map valueContent)), some (.string record.workspaceId)] (by decide)

/-- What the content hash of an item covers. -/
def hashableItem : DatasetImportItem → JsonContent
  | .record _ itemNumber record recordNumber =>
      .object ["itemNumber", "kind", "record", "recordNumber"]
        [some (countContent itemNumber), some (textContent "record"), some (recordContent record),
          some (countContent recordNumber)] (by decide)
  | .issue _ issue itemNumber =>
      .object ["issue", "itemNumber", "kind"]
        [some (issueContent issue), some (countContent itemNumber), some (textContent "issue")]
        (by decide)

/-- `"sha256:"` and the digest of bytes, and of the UTF-8 bytes of a text. -/
structure ContentDigest where
  ofBytes : Bytes → JsString
  ofText : JsString → JsString

def canonicalContentHash (digest : ContentDigest) (content : JsonContent) : JsString :=
  digest.ofText content.canonicalText

/-! ## From events to items -/

private def candidateValue : DatasetScalarValue → Units.CandidateValue
  | .null => .null
  | .boolean value => .boolean value
  | .number value => .number value
  | .string value => .string value

/-- The record of the dataset, or an issue: identities that are no value objects and records that
the kernel refuses are alike. -/
def domainRecord (dataset : Units.Dataset) (fields : List Units.Field)
    (candidate : DatasetCodec.DatasetRecord) : Except DatasetImportIssue Units.Record :=
  if !Units.isBoundedIdentity candidate.recordId ||
      !candidate.values.all fun entry => Units.isBoundedIdentity entry.fieldId then
    .error invalidDomainRecordIssue
  else
    match Units.createRecord dataset fields
        ⟨dataset.datasetId, candidate.recordId,
          candidate.values.map fun entry => (entry.fieldId, candidateValue entry.value),
          dataset.workspaceId⟩ with
    | .ok record => .ok record
    | .error _ => .error invalidDomainRecordIssue

/-- The item of a decoded event: a record that the kernel takes, or an issue. -/
def eventItem (digest : ContentDigest) (event : DatasetDecodeEvent) (itemNumber : ℕ)
    (dataset : Units.Dataset) (fields : List Units.Field) : DatasetImportItem :=
  match event with
  | .error error =>
      let issue := importIssue error
      .issue (canonicalContentHash digest (issueContent issue)) issue itemNumber
  | .record candidate recordNumber =>
      match domainRecord dataset fields candidate with
      | .error issue => .issue (canonicalContentHash digest (issueContent issue)) issue itemNumber
      | .ok record =>
          .record (canonicalContentHash digest (recordContent record)) itemNumber record
            recordNumber

structure BoundedItem where
  bytes : ℕ
  item : DatasetImportItem
  deriving DecidableEq

/-- An item that exceeds a batch is replaced by an issue. -/
def boundedItem (digest : ContentDigest) (item : DatasetImportItem) (maxBytes : ℤ) : BoundedItem :=
  let bytes := canonicalContentByteSize (hashableItem item)
  if (bytes : ℤ) ≤ maxBytes then ⟨bytes, item⟩
  else
    let replacement : DatasetImportItem :=
      .issue (canonicalContentHash digest (issueContent oversizedBatchItemIssue))
        oversizedBatchItemIssue item.itemNumber
    ⟨canonicalContentByteSize (hashableItem replacement), replacement⟩

/-! ## The request -/

structure DatasetImportBatchLimits where
  maxBytes : ℤ
  maxItems : ℤ
  deriving DecidableEq, Repr

def maxBatchBytes : ℤ := 67108864
def maxBatchItems : ℤ := 1000
def maxImportIdLength : ℕ := 255
private def importMaxRecordBytes : ℤ := 16777216
def minBatchBytes : ℤ := 1024

/-- The limits of a batch, and the largest record that must fit one. -/
def validLimits (maxRecordBytes : ℤ) (limits : DatasetImportBatchLimits) : Bool :=
  isSafeInteger maxRecordBytes && decide (1 ≤ maxRecordBytes) &&
    decide (maxRecordBytes ≤ importMaxRecordBytes) && isSafeInteger limits.maxItems &&
    decide (1 ≤ limits.maxItems) && decide (limits.maxItems ≤ maxBatchItems) &&
    isSafeInteger limits.maxBytes && decide (max maxRecordBytes minBatchBytes ≤ limits.maxBytes) &&
    decide (limits.maxBytes ≤ maxBatchBytes)

/-- The actor of a verified key. -/
structure ImportActor where
  permissions : List JsString
  workspaceId : JsString
  deriving DecidableEq, Repr

structure ImportDatasetRequest where
  actor : ImportActor
  batchLimits : DatasetImportBatchLimits
  dataset : Units.Dataset
  fields : List Units.Field
  format : DatasetImportFormat
  importId : JsString
  maxRecordBytes : ℤ
  sourceContentHash : JsString
  deriving DecidableEq, Repr

inductive ImportDatasetFailureCode where
  | authorityPermissionMissing
  | authoritySubjectMismatch
  | datasetImportConflict
  | datasetImportFailed
  | datasetSourceMismatch
  | requestInvalid
  deriving DecidableEq, Repr

structure ImportDatasetFailure (Progress : Type) where
  code : ImportDatasetFailureCode
  message : String
  progress : Option Progress
  deriving DecidableEq, Repr

structure ImportDatasetSuccess (Progress : Type) where
  progress : Progress
  replayed : Bool
  deriving DecidableEq, Repr

/-- A decoder of one format; the bytes come in chunks. -/
structure DatasetCodecPort where
  format : DatasetImportFormat
  decode : DatasetDecodeInput → List Bytes → List DatasetDecodeEvent

/-- `createCsvDatasetCodec` and `createJsonlDatasetCodec`. -/
def datasetCodecs : DatasetImportFormat → DatasetCodecPort
  | .csv => ⟨.csv, decodeCsv⟩
  | .jsonl => ⟨.jsonl, decodeJsonl⟩

structure PreparedImport where
  codec : DatasetCodecPort
  dataset : Units.Dataset
  fields : List Units.Field
  sourceContentHash : JsString

/-- `/^sha256:[0-9a-f]{64}$/u`. -/
def isContentHash (value : JsString) : Bool :=
  decide (value.take 7 = ascii "sha256:") && decide (value.length = 71) &&
    (value.drop 7).all fun unit => isDigitUnit unit || (97 ≤ unit && unit ≤ 102)

section

variable {Progress : Type}

def invalidRequest (message : String) : ImportDatasetFailure Progress :=
  ⟨.requestInvalid, message, none⟩

/-- The checks of a request, before anything is decoded. -/
def prepareImport (codecs : DatasetImportFormat → DatasetCodecPort)
    (request : ImportDatasetRequest) : Except (ImportDatasetFailure Progress) PreparedImport :=
  if request.importId.all isTrimmedUnit ||
    decide (maxImportIdLength < codePointCount request.importId)
      || !validLimits request.maxRecordBytes request.batchLimits then
    .error (invalidRequest
      "The dataset import request contains invalid bounded limits or identity.")
  else if !isContentHash request.sourceContentHash then
    .error (invalidRequest
      "The dataset import request contains an invalid source content hash.")
  else
    match Units.createDataset request.dataset with
    | .error _ =>
        .error (invalidRequest "The dataset import request contains an invalid dataset.")
    | .ok dataset =>
        if dataset.workspaceId ≠ request.actor.workspaceId then
          .error ⟨.authoritySubjectMismatch,
            "The authenticated actor cannot import a dataset in another workspace.", none⟩
        else
          match Units.validateDatasetFields dataset request.fields with
          | .error _ =>
              .error (invalidRequest
                "The dataset import request contains an invalid field collection.")
          | .ok fields =>
              if (codecs request.format).format ≠ request.format then
                .error (invalidRequest
                  "The selected dataset codec does not match the requested format.")
              else .ok ⟨codecs request.format, dataset, fields, request.sourceContentHash⟩

/-! ## The persistence -/

structure DatasetImportBatch where
  contentHash : JsString
  items : List DatasetImportItem
  sequence : ℕ
  deriving DecidableEq

/-- What the store answers to a write. -/
inductive DatasetImportMutation (Progress : Type) where
  | applied (progress : Progress)
  | unchanged (progress : Progress)
  | conflict

def DatasetImportMutation.isConflict : DatasetImportMutation Progress → Bool
  | .conflict => true
  | _ => false

inductive DatasetImportState where
  | completed
  | failed
  deriving DecidableEq, Repr

structure DatasetImportCompletion where
  batchCount : ℕ
  itemCount : ℕ
  state : DatasetImportState
  deriving DecidableEq, Repr

/-- The persistence of one import: what it answers to a request behind the batches it was
handed. -/
structure DatasetPersistencePort (Progress : Type) where
  beginImport : ImportDatasetRequest → PreparedImport → DatasetImportMutation Progress
  appendImportBatch : List DatasetImportBatch → DatasetImportBatch → DatasetImportMutation Progress
  resetImport : List DatasetImportBatch → JsString → DatasetImportMutation Progress
  finishImport : List DatasetImportBatch → DatasetImportCompletion → DatasetImportMutation Progress

/-! ## Writing batches -/

/-- The writer with the batches it has handed over. -/
structure BatchWriter (Progress : Type) where
  batchBytes : ℕ
  batchItems : List DatasetImportItem
  batchSequence : ℕ
  currentProgress : Progress
  wasReplayed : Bool
  appended : List DatasetImportBatch

namespace BatchWriter

def initial (progress : Progress) (replayed : Bool) : BatchWriter Progress :=
  ⟨0, [], 0, progress, replayed, []⟩

/-- The batch of the items that wait. -/
def batch (digest : ContentDigest) (writer : BatchWriter Progress) : DatasetImportBatch where
  contentHash := canonicalContentHash digest (.array (writer.batchItems.map hashableItem))
  items := writer.batchItems
  sequence := writer.batchSequence + 1

/-- Hands over the open batch, if it has items; tells whether the persistence took it. -/
def flush (digest : ContentDigest) (datasets : DatasetPersistencePort Progress)
    (writer : BatchWriter Progress) : BatchWriter Progress × Bool :=
  if writer.batchItems.length = 0 then (writer, true)
  else
    let handed : BatchWriter Progress :=
      { writer with
        batchBytes := 0
        batchItems := []
        batchSequence := writer.batchSequence + 1
        appended := writer.appended ++ [writer.batch digest] }
    match datasets.appendImportBatch writer.appended (writer.batch digest) with
    | .conflict => (handed, false)
    | .unchanged progress =>
        ({ handed with wasReplayed := true, currentProgress := progress }, true)
    | .applied progress => ({ handed with currentProgress := progress }, true)

def push (writer : BatchWriter Progress) (item : DatasetImportItem) : BatchWriter Progress :=
  { writer with
    batchBytes := writer.batchBytes + canonicalContentByteSize (hashableItem item)
    batchItems := writer.batchItems ++ [item] }

/-- Another item does not fit the batch. -/
def isFull (limits : DatasetImportBatchLimits) (writer : BatchWriter Progress)
    (item : DatasetImportItem) : Bool :=
  decide (0 < writer.batchItems.length) &&
    (decide (limits.maxItems ≤ writer.batchItems.length) ||
      decide (limits.maxBytes < writer.batchBytes + canonicalContentByteSize (hashableItem item)))

/-- An item is appended, after the batch before it is written when it is full. -/
def add (digest : ContentDigest) (datasets : DatasetPersistencePort Progress)
    (limits : DatasetImportBatchLimits) (writer : BatchWriter Progress) (item : DatasetImportItem) :
    BatchWriter Progress × Bool :=
  if writer.isFull limits item then
    match writer.flush digest datasets with
    | (flushed, false) => (flushed, false)
    | (flushed, true) => (flushed.push item, true)
  else (writer.push item, true)

end BatchWriter

/-! ## The import -/

structure ConsumedImport where
  itemCount : ℕ
  terminalIssue : Bool
  deriving DecidableEq, Repr

/-- The loop over the events of the decoder; nothing is consumed when the persistence refuses a
batch. -/
def consumeImportEvents (digest : ContentDigest) (datasets : DatasetPersistencePort Progress)
    (limits : DatasetImportBatchLimits) (prepared : PreparedImport) :
    BatchWriter Progress → ℕ → List DatasetDecodeEvent →
      BatchWriter Progress × Option ConsumedImport
  | writer, itemNumber, [] => (writer, some ⟨itemNumber, false⟩)
  | writer, itemNumber, event :: rest =>
      let item := (boundedItem digest
        (eventItem digest event (itemNumber + 1) prepared.dataset prepared.fields)
        limits.maxBytes).item
      match writer.add digest datasets limits item with
      | (writer, false) => (writer, none)
      | (writer, true) =>
          if item.isTerminal then
            match writer.flush digest datasets with
            | (writer, false) => (writer, none)
            | (writer, true) => (writer, some ⟨itemNumber + 1, true⟩)
          else consumeImportEvents digest datasets limits prepared writer (itemNumber + 1) rest

/-- What an import did: the batches it handed over, whether it reset the import, the completion it
asked for, and its result. -/
structure ImportRun (Progress : Type) where
  batches : List DatasetImportBatch
  reset : Bool
  completion : Option DatasetImportCompletion
  result : Except (ImportDatasetFailure Progress) (ImportDatasetSuccess Progress)

def refused (failure : ImportDatasetFailure Progress) : ImportRun Progress :=
  ⟨[], false, none, .error failure⟩

private def importConflict (writer : BatchWriter Progress) (message : String) :
    ImportRun Progress :=
  ⟨writer.appended, false, none,
    .error ⟨.datasetImportConflict, message, some writer.currentProgress⟩⟩

/-- An import with a terminal issue has failed, else it is complete. -/
def completionOf (writer : BatchWriter Progress) (consumed : ConsumedImport) :
    DatasetImportCompletion :=
  ⟨writer.batchSequence, consumed.itemCount, if consumed.terminalIssue then .failed else .completed⟩

/-- The end of an import is written behind its last batch. -/
def completeImport (datasets : DatasetPersistencePort Progress) (writer : BatchWriter Progress)
    (consumed : ConsumedImport) : ImportRun Progress where
  batches := writer.appended
  reset := false
  completion := some (completionOf writer consumed)
  result :=
    let settle (progress : Progress) (unchanged : Bool) :
        Except (ImportDatasetFailure Progress) (ImportDatasetSuccess Progress) :=
      if consumed.terminalIssue then
        .error ⟨.datasetImportFailed,
          "The dataset import stopped on an unrecoverable document error.", some progress⟩
      else .ok ⟨progress, writer.wasReplayed || unchanged⟩
    match datasets.finishImport writer.appended (completionOf writer consumed) with
    | .conflict => .error ⟨.datasetImportConflict,
        "The replayed dataset completion diverges from durable input.",
        some writer.currentProgress⟩
    | .unchanged progress => settle progress true
    | .applied progress => settle progress false

private def divergesMessage : String :=
  "The replayed dataset import diverges from durable input."

/-- Behind the events the source is read to its end, so its hash is that of all its bytes. -/
def finishConsumedImport (digest : ContentDigest) (datasets : DatasetPersistencePort Progress)
    (prepared : PreparedImport) (writer : BatchWriter Progress) (source : List Bytes)
    (consumed : ConsumedImport) : ImportRun Progress :=
  if digest.ofBytes source.flatten ≠ prepared.sourceContentHash then
    match datasets.resetImport writer.appended prepared.sourceContentHash with
    | .conflict => ⟨writer.appended, true, none, .error ⟨.datasetImportConflict,
        "The divergent dataset import could not be reset safely.", some writer.currentProgress⟩⟩
    | .applied progress | .unchanged progress =>
        ⟨writer.appended, true, none, .error ⟨.datasetSourceMismatch,
          "The dataset source does not match its immutable content hash.", some progress⟩⟩
  else if consumed.terminalIssue then completeImport datasets writer consumed
  else
    match writer.flush digest datasets with
    | (flushed, false) => importConflict flushed divergesMessage
    | (flushed, true) => completeImport datasets flushed consumed

def decodeInput (request : ImportDatasetRequest) (prepared : PreparedImport) :
    DatasetDecodeInput where
  datasetId := prepared.dataset.datasetId
  fields := prepared.fields.map fun field => ⟨field.fieldId, field.key, field.valueType⟩
  maxRecordBytes := request.maxRecordBytes
  workspaceId := prepared.dataset.workspaceId

/-- The import behind a begun one. -/
def importEvents (digest : ContentDigest) (datasets : DatasetPersistencePort Progress)
    (request : ImportDatasetRequest) (prepared : PreparedImport) (source : List Bytes)
    (progress : Progress) (replayed : Bool) : ImportRun Progress :=
  match consumeImportEvents digest datasets request.batchLimits prepared
      (.initial progress replayed) 0
      (prepared.codec.decode (decodeInput request prepared) source) with
  | (writer, none) => importConflict writer divergesMessage
  | (writer, some consumed) =>
      finishConsumedImport digest datasets prepared writer source consumed

/-- An import from its request to its completion. -/
def importDataset (digest : ContentDigest) (codecs : DatasetImportFormat → DatasetCodecPort)
    (datasets : DatasetPersistencePort Progress) (requiredPermission : JsString)
    (request : ImportDatasetRequest) (source : List Bytes) : ImportRun Progress :=
  if !request.actor.permissions.contains requiredPermission then
    refused ⟨.authorityPermissionMissing,
      "The authenticated actor lacks permission to import datasets.", none⟩
  else
    match prepareImport codecs request with
    | .error failure => refused failure
    | .ok prepared =>
        match datasets.beginImport request prepared with
        | .conflict => refused ⟨.datasetImportConflict,
            "The import identity conflicts with existing dataset input.", none⟩
        | .applied progress => importEvents digest datasets request prepared source progress false
        | .unchanged progress => importEvents digest datasets request prepared source progress true

end

end Kurobara.Application.ImportDataset
