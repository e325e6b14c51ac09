import Kurobara.Application.CheckpointProof
import Kurobara.Kernel.NormalizedJson

/-! # Parsing a page artifact

`parsePageArtifact`: the records of a page from the normalized output of its Run, each with
the canonical hash that the output states for it, and the cursor of the next page. The
canonical byte size and content hash are parameters.
-/

namespace Kurobara.Application

open Kernel Persistence

/-! ## Identities -/

/-- Of `boundedProductIdentity`; nothing stands for its exception. -/
def boundedProductIdentity (value : String) : Option String :=
  if boundedText value then some value else none

/-- Of `nonEmpty`; nothing stands for its exception. -/
def nonEmpty (value : String) : Option String :=
  if nonBlank value then some value else none

private def isTaxonomyCharacter (character : Char) : Bool :=
  isLowerLetter character || character.isDigit || character == '.' || character == '_' ||
    character == '-'

/-- `/^[a-z][a-z0-9._-]{0,127}$/u`. -/
def taxonomyMatches (value : String) : Bool :=
  match value.toList with
  | [] => false
  | head :: rest => isLowerLetter head && decide (rest.length ≤ 127) && rest.all isTaxonomyCharacter

private def createContactProviderIdentity (identity : ContactProviderIdentity) :
    Option ContactProviderIdentity :=
  if taxonomyMatches identity.providerKey && boundedText identity.providerSubjectId 512 &&
      trim identity.providerSubjectId == identity.providerSubjectId.toList then some identity
  else none

/-! ## Items -/

/-- `parseRecordValue`: exactly a field identifier and a scalar. -/
def parseRecordValue (value : NormalizedJsonValue) : Option RecordValue := do
  let properties ← exactObject ["fieldId", "value"] value
  let identity ← properties.stringProperty "fieldId"
  let scalar ← match ← properties.property "value" with
    | .null => some ScalarValue.null
    | .boolean value => some (.boolean value)
    | .string value => some (.string value)
    | .number value => some (.number value)
    | .array _ | .object _ => none
  let fieldId ← boundedProductIdentity identity
  pure ⟨fieldId, scalar⟩

/-- `parseProviderIdentity` of an artifact record. -/
def parseArtifactProviderIdentity (value : NormalizedJsonValue) :
    Option ContactProviderIdentity := do
  let properties ← exactObject ["providerKey", "providerSubjectId"] value
  let providerKey ← properties.stringProperty "providerKey"
  let providerSubjectId ← properties.stringProperty "providerSubjectId"
  createContactProviderIdentity ⟨providerKey, providerSubjectId⟩

/-- `parseSource` of an artifact record. -/
def parseArtifactSource (value : NormalizedJsonValue) : Option PageArtifactSource := do
  let properties ← exactObject ["datasetId", "recordId"] value
  let datasetId ← boundedProductIdentity (← properties.stringProperty "datasetId")
  let recordId ← boundedProductIdentity (← properties.stringProperty "recordId")
  pure ⟨datasetId, recordId⟩

/-- A record as the value that is hashed. -/
def recordJson (record : DatasetRecord) : NormalizedJsonValue :=
  .object [("datasetId", .string record.datasetId), ("recordId", .string record.recordId),
    ("values", .array (record.values.map fun entry =>
      .object [("fieldId", .string entry.fieldId), ("value", scalarJson entry.value)])),
    ("workspaceId", .string record.workspaceId)]

section Items

variable (evidence : ContentEvidence NormalizedJsonValue) (plan : DatasetGenerationPlan)

/-- A record of the target dataset, under the hash that is stated for it. -/
def parseArtifactRecord (rawContentHash : String) (value : NormalizedJsonValue) :
    Option DatasetRecord := do
  if !contentHashIsValid rawContentHash then none
  else
    let properties ← exactObject ["datasetId", "recordId", "values", "workspaceId"] value
    let rawDatasetId ← properties.stringProperty "datasetId"
    let rawRecordId ← properties.stringProperty "recordId"
    let rawWorkspaceId ← properties.stringProperty "workspaceId"
    let values ← (← properties.arrayProperty "values").mapM parseRecordValue
    let datasetId ← boundedProductIdentity rawDatasetId
    let recordId ← boundedProductIdentity rawRecordId
    let workspaceId ← nonEmpty rawWorkspaceId
    let record ← (createRecord plan.requestIntent.targetDataset plan.requestIntent.fields
      ⟨datasetId, recordId, values, workspaceId⟩).toOption
    if evidence.contentHash (recordJson record) == rawContentHash then some record else none

private def isContactCapability (capabilityId : String) : Bool :=
  capabilityId == "contacts.discover" || isDerivedContactCapability capabilityId

/-- A contact has its provider identity, a derived contact also its source. -/
def parseArtifactItem (value : NormalizedJsonValue) : Option PageArtifactItem := do
  let capabilityId := plan.requestIntent.capability.capabilityId
  let contact := isContactCapability capabilityId
  let derived := isDerivedContactCapability capabilityId
  let properties ← exactObject (["contentHash"] ++ (if contact then ["providerIdentity"] else []) ++
    ["record"] ++ (if derived then ["source"] else [])) value
  let providerIdentity ← if contact then
      (← properties.property "providerIdentity") |> parseArtifactProviderIdentity |>.map some
    else some none
  let source ← if derived then
      (← properties.property "source") |> parseArtifactSource |>.map some
    else some none
  let contentHash ← properties.stringProperty "contentHash"
  let record ← parseArtifactRecord evidence plan contentHash (← properties.property "record")
  pure ⟨contentHash, providerIdentity, record, source⟩

/-! ## The artifact -/

/-- More pages need a cursor and an open partition; the last page has neither. -/
def artifactCursorIsCoherent (hasMore : Bool) (nextCursor : Option String)
    (sourcePartitionCompleted : Bool) : Bool :=
  if hasMore then nextCursor.any nonBlank && !sourcePartitionCompleted
  else nextCursor.isNone && sourcePartitionCompleted

/-- The `nextCursor` of an artifact: null, or a text. -/
def parseNextCursor (properties : JsonProperties) : Option (Option String) :=
  match properties.property "nextCursor" with
  | some .null => some none
  | some (.string cursor) => some (some cursor)
  | _ => none

/-- `parsePageArtifact`: the page artifact of a sink value, none when any part is malformed. -/
def parsePageArtifact (value : NormalizedJsonValue) : Option DatasetGenerationPageArtifact := do
  if maxArtifactBytes < evidence.byteSize value then none
  else
    let properties ← exactObject
      ["hasMore", "items", "nextCursor", "sourcePartitionCompleted", "version"] value
    let version ← properties.stringProperty "version"
    let hasMore ← properties.booleanProperty "hasMore"
    let sourcePartitionCompleted ← properties.booleanProperty "sourcePartitionCompleted"
    let nextCursor ← parseNextCursor properties
    let entries ← properties.arrayProperty "items"
    if version != "1.0.0" ||
        !artifactCursorIsCoherent hasMore nextCursor sourcePartitionCompleted then none
    else
      let items ← entries.mapM (parseArtifactItem evidence plan)
      if (items.map fun item => item.record.recordId).Nodup then
        some ⟨hasMore, items, nextCursor, sourcePartitionCompleted⟩
      else none

end Items

end Kurobara.Application
