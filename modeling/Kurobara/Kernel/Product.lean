import Kurobara.Kernel.Values

/-! # Datasets and their fields

`createDataset` and `validateDatasetFields` of the product kernel, with the
error that each check reports.
-/

namespace Kurobara.Kernel

def maxNameLength : ℕ := 255
def maxDatasetFields : ℕ := 256
def maxFieldKeyLength : ℕ := 128

/-- The types of a field. -/
inductive FieldValueType where
  | boolean
  | number
  | string
  deriving DecidableEq, Repr

/-- A dataset. -/
structure Dataset where
  datasetId : DatasetId
  name : String
  workspaceId : WorkspaceId
  deriving DecidableEq, Repr

/-- A field of a dataset. -/
structure Field where
  datasetId : DatasetId
  fieldId : FieldId
  key : String
  label : String
  valueType : FieldValueType
  workspaceId : WorkspaceId
  deriving DecidableEq, Repr

/-- A number is a finite one, as its exact value. -/
inductive ScalarValue where
  | null
  | boolean (value : Bool)
  | number (value : ℚ)
  | string (value : String)
  deriving DecidableEq, Repr

/-- The value of one field of a record. -/
structure RecordValue where
  fieldId : FieldId
  value : ScalarValue
  deriving DecidableEq, Repr

/-- The product kernel's `Record`. -/
structure DatasetRecord where
  datasetId : DatasetId
  recordId : RecordId
  values : List RecordValue
  workspaceId : WorkspaceId
  deriving DecidableEq, Repr

inductive ProductFailureCode where
  | cellResultConfidenceInvalid
  | cellResultCostInvalid
  | cellResultFreshnessInvalid
  | cellResultProvenanceInvalid
  | cellResultReasonInvalid
  | cellResultRecipeRevisionMismatch
  | cellResultScopeMismatch
  | cellResultStatusInvalid
  | cellResultTargetMismatch
  | cellResultValueInvalid
  | datasetNameInvalid
  | fieldCollectionInvalid
  | fieldKeyInvalid
  | fieldLabelInvalid
  | fieldScopeMismatch
  | productIdentityInvalid
  | recordScopeMismatch
  | recordTooLarge
  | recordValueDuplicate
  | recordValueFieldUnknown
  | recordValueInvalid
  | recordValueTypeMismatch
  deriving DecidableEq, Repr

structure ProductFailure where
  code : ProductFailureCode
  message : String
  deriving DecidableEq, Repr

/-- `isBoundedText`: not blank and within the maximum. -/
def isBoundedText (value : String) (maximum : ℕ) : Bool :=
  nonBlank value && decide (codePointLength value ≤ maximum)

def isBoundedIdentity (value : String) : Bool :=
  isBoundedText value maxNameLength

def isLowerLetter (character : Char) : Bool :=
  'a' ≤ character && character ≤ 'z'

/-- `/^[a-z][a-z0-9_]*$/u`. -/
def fieldKeyMatches (key : String) : Bool :=
  match key.toList with
  | [] => false
  | head :: rest => isLowerLetter head &&
      rest.all fun character => isLowerLetter character || character.isDigit || character == '_'

def hasDatasetScope (dataset : Dataset) (field : Field) : Bool :=
  field.datasetId == dataset.datasetId && field.workspaceId == dataset.workspaceId

/-- A key that matches the pattern is ASCII, so its code points are its code units. -/
def validateField (dataset : Dataset) (field : Field) : Except ProductFailure Unit :=
  if !isBoundedIdentity field.fieldId then
    .error ⟨.productIdentityInvalid,
      "Product identities must contain between 1 and 255 characters."⟩
  else if !hasDatasetScope dataset field then
    .error ⟨.fieldScopeMismatch, "A field must belong to the dataset workspace and identity."⟩
  else if decide (maxFieldKeyLength < codePointLength field.key) || !fieldKeyMatches field.key then
    .error ⟨.fieldKeyInvalid, "A field key must start with a lowercase letter and contain only " ++
      "lowercase letters, digits, or underscores."⟩
  else if !isBoundedText field.label maxNameLength then
    .error ⟨.fieldLabelInvalid, "A field label must contain between 1 and 255 characters."⟩
  else
    .ok ()

/-- The loop of `indexFields`, over the fields already indexed. -/
def indexFieldsFrom (dataset : Dataset) (indexed : List Field) :
    List Field → Except ProductFailure (List Field)
  | [] => .ok indexed
  | field :: rest =>
      match validateField dataset field with
      | .error failure => .error failure
      | .ok _ =>
          if indexed.any (fun known =>
            known.fieldId == field.fieldId || known.key == field.key) then
            .error ⟨.fieldCollectionInvalid,
              "Field identifiers and keys must be unique within a dataset."⟩
          else
            indexFieldsFrom dataset (indexed ++ [field]) rest

/-- `indexFields`: the fields by identifier, refused where an identifier or a key occurs twice. -/
def indexFields (dataset : Dataset) (fields : List Field) : Except ProductFailure (List Field) :=
  if maxDatasetFields < fields.length then
    .error ⟨.fieldCollectionInvalid, "A dataset cannot contain more than 256 fields."⟩
  else
    indexFieldsFrom dataset [] fields

/-- `createDataset`: the input itself when its identities are bounded. -/
def createDataset (input : Dataset) : Except ProductFailure Dataset :=
  if !(isBoundedIdentity input.datasetId && isBoundedIdentity input.workspaceId) then
    .error ⟨.productIdentityInvalid,
      "Product identities must contain between 1 and 255 characters."⟩
  else if !isBoundedText input.name maxNameLength then
    .error ⟨.datasetNameInvalid, "A dataset name must contain between 1 and 255 characters."⟩
  else
    .ok input

/-! ## Records -/

def maxScalarStringLength : ℕ := 16384
def maxScalarNumber : ℚ := 1000000000000000
def maxRecordValues : ℕ := 256

/-- The scalar is within its bound. -/
def isBoundedScalar : ScalarValue → Bool
  | .null | .boolean _ => true
  | .string value => decide (codePointLength value ≤ maxScalarStringLength)
  | .number value => decide (-maxScalarNumber ≤ value) && decide (value ≤ maxScalarNumber)

/-- The scalar is null or of the field's type. -/
def valueMatchesField : ScalarValue → Field → Bool
  | .null, _ => true
  | .boolean _, field => field.valueType == .boolean
  | .number _, field => field.valueType == .number
  | .string _, field => field.valueType == .string

/-- The loop over the values of a record, with the fields already seen. -/
def validateRecordValues (indexed : List Field) (seen : List FieldId) :
    List RecordValue → Except ProductFailure Unit
  | [] => .ok ()
  | entry :: rest =>
      if seen.contains entry.fieldId then
        .error ⟨.recordValueDuplicate, "A record can contain at most one value for each field."⟩
      else
        match indexed.find? fun field => field.fieldId == entry.fieldId with
        | none => .error ⟨.recordValueFieldUnknown,
            "Every record value must reference a field in the same dataset."⟩
        | some field =>
            if !isBoundedScalar entry.value then
              .error ⟨.recordValueInvalid, "A record value must be a bounded string, number, " ++
                "boolean, or explicit null."⟩
            else if !valueMatchesField entry.value field then
              .error ⟨.recordValueTypeMismatch,
                "A non-null record value must match its field value type."⟩
            else validateRecordValues indexed (entry.fieldId :: seen) rest

/-- `createRecord`: the record itself when its identity, its scope and each of its values are valid.
-/
def createRecord (dataset : Dataset) (fields : List Field) (input : DatasetRecord) :
    Except ProductFailure DatasetRecord :=
  if !isBoundedIdentity input.recordId then
    .error ⟨.productIdentityInvalid,
      "Product identities must contain between 1 and 255 characters."⟩
  else if !(input.datasetId == dataset.datasetId && input.workspaceId == dataset.workspaceId) then
    .error ⟨.recordScopeMismatch, "A record must belong to the dataset workspace and identity."⟩
  else if maxRecordValues < input.values.length then
    .error ⟨.recordTooLarge, "A record cannot contain more than 256 field values."⟩
  else
    match indexFields dataset fields with
    | .error failure => .error failure
    | .ok indexed =>
        match validateRecordValues indexed [] input.values with
        | .error failure => .error failure
        | .ok _ => .ok input

/-- The fields of a dataset, each valid in its scope. -/
def validateDatasetFields (dataset : Dataset) (fields : List Field) :
    Except ProductFailure (List Field) :=
  match indexFields dataset fields with
  | .error failure => .error failure
  | .ok _ => .ok fields

end Kurobara.Kernel
