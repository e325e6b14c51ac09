import Kurobara.Foundation.NumberText
import Kurobara.Kernel.Product

/-! # Datasets and records as the runtime holds them

`createDataset`, `validateDatasetFields` and `createRecord` of the product kernel over strings of
code units, as they reach it from decoded documents. A record that is created has bounded finite
numbers.
-/

namespace Kurobara.Kernel.Units

open Foundation

structure Dataset where
  datasetId : JsString
  name : JsString
  workspaceId : JsString
  deriving DecidableEq, Repr

structure Field where
  datasetId : JsString
  fieldId : JsString
  key : JsString
  label : JsString
  valueType : FieldValueType
  workspaceId : JsString
  deriving DecidableEq, Repr

/-- A value before it is checked. -/
inductive CandidateValue where
  | null
  | boolean (value : Bool)
  | number (value : JsNumber)
  | string (value : JsString)
  deriving DecidableEq

inductive ScalarValue where
  | null
  | boolean (value : Bool)
  | number (value : Double)
  | string (value : JsString)
  deriving DecidableEq

/-- A record with values of some kind. -/
structure RecordOf (Value : Type) where
  datasetId : JsString
  recordId : JsString
  values : List (JsString × Value)
  workspaceId : JsString
  deriving DecidableEq

abbrev Record := RecordOf ScalarValue

def isBoundedText (value : JsString) (maximum : ℕ) : Bool :=
  !value.all isTrimmedUnit && decide (codePointCount value ≤ maximum)

def isBoundedIdentity (value : JsString) : Bool :=
  isBoundedText value maxNameLength

def isLowerLetter (unit : CodeUnit) : Bool :=
  97 ≤ unit && unit ≤ 122

/-- `/^[a-z][a-z0-9_]*$/u`. -/
def fieldKeyMatches : JsString → Bool
  | [] => false
  | head :: rest => isLowerLetter head &&
      rest.all fun unit => isLowerLetter unit || isDigitUnit unit || unit == 95

def hasDatasetScope (dataset : Dataset) (datasetId workspaceId : JsString) : Bool :=
  datasetId == dataset.datasetId && workspaceId == dataset.workspaceId

def validateField (dataset : Dataset) (field : Field) : Except ProductFailure Unit :=
  if !isBoundedIdentity field.fieldId then
    .error ⟨.productIdentityInvalid,
      "Product identities must contain between 1 and 255 characters."⟩
  else if !hasDatasetScope dataset field.datasetId field.workspaceId then
    .error ⟨.fieldScopeMismatch, "A field must belong to the dataset workspace and identity."⟩
  else if decide (maxFieldKeyLength < field.key.length) || !fieldKeyMatches field.key then
    .error ⟨.fieldKeyInvalid, "A field key must start with a lowercase letter and contain only " ++
      "lowercase letters, digits, or underscores."⟩
  else if !isBoundedText field.label maxNameLength then
    .error ⟨.fieldLabelInvalid, "A field label must contain between 1 and 255 characters."⟩
  else
    .ok ()

/-- The loop of `indexFields`, over the fields already indexed. -/
def indexFieldsFrom (dataset : Dataset) (indexed : List Field) :
    List Field → Except ProductFailure (List Field)
  | [] => .ok indexed
  | field :: rest =>
      match validateField dataset field with
      | .error failure => .error failure
      | .ok _ =>
          if indexed.any (fun known =>
            known.fieldId == field.fieldId || known.key == field.key) then
            .error ⟨.fieldCollectionInvalid,
              "Field identifiers and keys must be unique within a dataset."⟩
          else
            indexFieldsFrom dataset (indexed ++ [field]) rest

def indexFields (dataset : Dataset) (fields : List Field) : Except ProductFailure (List Field) :=
  if maxDatasetFields < fields.length then
    .error ⟨.fieldCollectionInvalid, "A dataset cannot contain more than 256 fields."⟩
  else
    indexFieldsFrom dataset [] fields

def createDataset (input : Dataset) : Except ProductFailure Dataset :=
  if !(isBoundedIdentity input.datasetId && isBoundedIdentity input.workspaceId) then
    .error ⟨.productIdentityInvalid,
      "Product identities must contain between 1 and 255 characters."⟩
  else if !isBoundedText input.name maxNameLength then
    .error ⟨.datasetNameInvalid, "A dataset name must contain between 1 and 255 characters."⟩
  else
    .ok input

def validateDatasetFields (dataset : Dataset) (fields : List Field) :
    Except ProductFailure (List Field) :=
  match indexFields dataset fields with
  | .error failure => .error failure
  | .ok _ => .ok fields

/-! ## Records -/

/-- A bounded scalar; a number is finite and within 10^15 on both sides. -/
def asBoundedScalar : CandidateValue → Option ScalarValue
  | .null => some .null
  | .boolean value => some (.boolean value)
  | .string value =>
      if codePointCount value ≤ maxScalarStringLength then some (.string value) else none
  | .number (.finite value) =>
      if value.units.natAbs ≤ 1000000000000000 * 2 ^ doublePlaces then some (.number value) else
        none
  | .number _ => none

def valueMatchesField : ScalarValue → Field → Bool
  | .null, _ => true
  | .boolean _, field => field.valueType == .boolean
  | .number _, field => field.valueType == .number
  | .string _, field => field.valueType == .string

/-- The loop over the values of a record, with the fields already seen. -/
def validateRecordValues (indexed : List Field) (seen : List JsString) :
    List (JsString × CandidateValue) → Except ProductFailure (List (JsString × ScalarValue))
  | [] => .ok []
  | (fieldId, candidate) :: rest =>
      if seen.contains fieldId then
        .error ⟨.recordValueDuplicate, "A record can contain at most one value for each field."⟩
      else
        match indexed.find? fun field => field.fieldId == fieldId with
        | none => .error ⟨.recordValueFieldUnknown,
            "Every record value must reference a field in the same dataset."⟩
        | some field =>
            match asBoundedScalar candidate with
            | none => .error ⟨.recordValueInvalid, "A record value must be a bounded string, " ++
                "number, boolean, or explicit null."⟩
            | some value =>
                if !valueMatchesField value field then
                  .error ⟨.recordValueTypeMismatch,
                    "A non-null record value must match its field value type."⟩
                else do
                  let later ← validateRecordValues indexed (fieldId :: seen) rest
                  .ok ((fieldId, value) :: later)

def createRecord (dataset : Dataset) (fields : List Field) (input : RecordOf CandidateValue) :
    Except ProductFailure Record :=
  if !isBoundedIdentity input.recordId then
    .error ⟨.productIdentityInvalid,
      "Product identities must contain between 1 and 255 characters."⟩
  else if !hasDatasetScope dataset input.datasetId input.workspaceId then
    .error ⟨.recordScopeMismatch, "A record must belong to the dataset workspace and identity."⟩
  else if maxRecordValues < input.values.length then
    .error ⟨.recordTooLarge, "A record cannot contain more than 256 field values."⟩
  else
    match indexFields dataset fields with
    | .error failure => .error failure
    | .ok indexed =>
        match validateRecordValues indexed [] input.values with
        | .error failure => .error failure
        | .ok values => .ok ⟨input.datasetId, input.recordId, values, input.workspaceId⟩

end Kurobara.Kernel.Units
