import Kurobara.Application.EncodedStream
import Kurobara.Foundation.NumberText
import Kurobara.Foundation.TextEncoding
import Kurobara.Kernel.Product

/-! # Records of dataset codecs

What the codecs of all formats share: the record that is decoded or encoded, its validation
against the configured fields, and the errors they report. The strings of a record are strings of
code units, and its numbers those of the runtime.
-/

namespace Kurobara.DatasetCodec

open Kurobara.Foundation Kurobara.Kernel Kurobara.Application

/-- A scalar of a record. -/
inductive DatasetScalarValue where
  | null
  | boolean (value : Bool)
  | number (value : JsNumber)
  | string (value : JsString)
  deriving DecidableEq

/-- A field as the codecs know it. -/
structure DatasetFieldCodecSpec where
  fieldId : JsString
  key : JsString
  valueType : FieldValueType
  deriving DecidableEq, Repr

/-- The value of one field. -/
structure DatasetRecordValue where
  fieldId : JsString
  value : DatasetScalarValue
  deriving DecidableEq

/-- A record with its values in field order. -/
structure DatasetRecord where
  datasetId : JsString
  recordId : JsString
  values : List DatasetRecordValue
  workspaceId : JsString
  deriving DecidableEq

inductive DatasetCodecErrorScope where
  | document
  | record
  deriving DecidableEq, Repr

/-- An error of a codec, with the place it is about. -/
structure DatasetCodecError where
  code : DatasetCodecErrorCode
  message : String
  recoverable : Bool
  scope : DatasetCodecErrorScope
  fieldKey : Option JsString
  lineEnd : Option ℕ
  lineStart : Option ℕ
  recordId : Option JsString
  recordNumber : Option ℕ
  deriving DecidableEq, Repr

/-- What a decoder yields for one row. -/
inductive DatasetDecodeEvent where
  | record (record : DatasetRecord) (recordNumber : ℕ)
  | error (error : DatasetCodecError)
  deriving DecidableEq

/-- What a decoder is handed beside the bytes. -/
structure DatasetDecodeInput where
  datasetId : JsString
  fields : List DatasetFieldCodecSpec
  maxRecordBytes : ℤ
  workspaceId : JsString
  deriving DecidableEq, Repr

/-! ## Identities -/

/-- Some character is left when the value is trimmed, and it has at most 255 code points. -/
def validId (value : JsString) : Bool :=
  !value.all isTrimmedUnit && decide (codePointCount value ≤ 255)

/-! ## Errors -/

/-- The place of an error, as far as it is known. -/
structure CodecLocation where
  lineEnd : Option ℕ
  lineStart : Option ℕ
  recordId : Option JsString
  recordNumber : Option ℕ
  deriving DecidableEq, Repr

private def CodecLocation.nowhere : CodecLocation :=
  ⟨none, none, none, none⟩

structure RecordFailure where
  code : DatasetCodecErrorCode
  message : String
  fieldKey : Option JsString
  deriving DecidableEq, Repr

/-- An invalid record identity is not repeated in an error. -/
def codecError (code : DatasetCodecErrorCode) (message : String) (scope : DatasetCodecErrorScope)
    (recoverable : Bool) (location : CodecLocation) (fieldKey : Option JsString) :
    DatasetCodecError where
  code := code
  message := message
  recoverable := recoverable
  scope := scope
  fieldKey := fieldKey
  lineEnd := location.lineEnd
  lineStart := location.lineStart
  recordId := location.recordId.filter validId
  recordNumber := location.recordNumber

def validationError (failure : RecordFailure) (location : CodecLocation) (recoverable : Bool) :
    DatasetCodecError :=
  codecError failure.code failure.message .record recoverable location failure.fieldKey

/-! ## The configuration -/

private def maxRecordBytesLimit : ℤ := 16777216

private def isLowerUnit (unit : CodeUnit) : Bool :=
  97 ≤ unit && unit ≤ 122

/-- `/^[a-z][a-z0-9_]*$/u`. -/
def isFieldKey : JsString → Bool
  | [] => false
  | first :: rest =>
      isLowerUnit first && rest.all fun unit => isLowerUnit unit || isDigitUnit unit || unit == 95

private def fieldIsValid (field : DatasetFieldCodecSpec) : Bool :=
  validId field.fieldId && decide (field.key.length ≤ 128) && isFieldKey field.key

/-- What is checked before the first byte is read. -/
def configurationError (fields : List DatasetFieldCodecSpec) (maxRecordBytes : ℤ)
    (datasetId workspaceId : Option JsString) : Option DatasetCodecError :=
  if !isSafeInteger maxRecordBytes || decide (maxRecordBytes < 1) ||
      decide (maxRecordBytesLimit < maxRecordBytes) then
    some (codecError .configurationInvalid
      "The record byte limit must be between 1 byte and 16 MiB." .document false .nowhere none)
  else if decide (256 < fields.length) || datasetId.any (fun id => !validId id) ||
      workspaceId.any (fun id => !validId id) then
    some (codecError .configurationInvalid
      "The dataset codec scope or field count is invalid." .document false .nowhere none)
  else if !fields.all fieldIsValid || !decide (fields.map DatasetFieldCodecSpec.fieldId).Nodup ||
      !decide (fields.map DatasetFieldCodecSpec.key).Nodup then
    some (codecError .configurationInvalid
      "Dataset field identifiers and keys must be bounded and unique." .document false .nowhere
      none)
  else none

/-! ## Bytes -/

/-- A byte order mark at the head of a text is not decoded. -/
def withoutByteOrderMark : List Char → List Char
  | [] => []
  | first :: rest => if first = '\uFEFF' then rest else first :: rest

/-- `new TextDecoder("utf-8", { fatal: true }).decode(bytes)`. -/
def decodeUtf8 (bytes : Bytes) : Option JsString :=
  (decodedText bytes).map fun text => utf16 (withoutByteOrderMark text)

/-! ## Values -/

/-- The largest absolute value of a number. -/
def maxNumber : ℕ := 1000000000000000

/-- The scalar is null, or of the field's type and within its bound. -/
def scalarMatchesField (value : DatasetScalarValue) (field : DatasetFieldCodecSpec) : Bool :=
  match value, field.valueType with
  | .null, _ => true
  | .string text, .string => decide (codePointCount text ≤ 16384)
  | .boolean _, .boolean => true
  | .number (.finite number), .number =>
      decide (number.units.natAbs ≤ maxNumber * 2 ^ doublePlaces)
  | _, _ => false

/-- The value of the first entry of a field. -/
def recordValue (values : List DatasetRecordValue) (fieldId : JsString) :
    Option DatasetScalarValue :=
  (values.find? fun entry => entry.fieldId == fieldId).map DatasetRecordValue.value

/-- The values of a record in the order of the fields, up to one that does not match its field. -/
def orderedValues (values : List DatasetRecordValue) :
    List DatasetFieldCodecSpec → Except RecordFailure (List DatasetRecordValue)
  | [] => .ok []
  | field :: rest =>
      match recordValue values field.fieldId with
      | none => orderedValues values rest
      | some value =>
          if scalarMatchesField value field then do
            let later ← orderedValues values rest
            .ok (⟨field.fieldId, value⟩ :: later)
          else
            .error ⟨.valueTypeMismatch,
              "A record value does not match its configured scalar type.", some field.key⟩

/-- `normalizeRecord`: the record with its values in field order, or the first failure. -/
def normalizeRecord (record : DatasetRecord) (fields : List DatasetFieldCodecSpec)
    (datasetId workspaceId : JsString) (requireCompleteFieldSet : Bool) :
    Except RecordFailure DatasetRecord :=
  if !validId record.recordId then
    .error ⟨.recordIdInvalid, "A record requires a bounded non-empty record identifier.", none⟩
  else if !(validId record.datasetId && validId record.workspaceId) ||
      record.datasetId != datasetId || record.workspaceId != workspaceId then
    .error ⟨.scopeMismatch, "The record does not belong to the requested dataset scope.", none⟩
  else if !decide (record.values.map DatasetRecordValue.fieldId).Nodup then
    .error ⟨.fieldSetInvalid, "Record field identities must be exact and unique.", none⟩
  else if (requireCompleteFieldSet && record.values.length != fields.length) ||
      record.values.any fun entry => !fields.any fun field => field.fieldId == entry.fieldId then
    .error ⟨.fieldSetInvalid,
      if requireCompleteFieldSet then "This format requires every configured field exactly once."
      else "Record field identities must belong to the configured dataset.", none⟩
  else do
    let values ← orderedValues record.values fields
    .ok { record with values := values }

end Kurobara.DatasetCodec
