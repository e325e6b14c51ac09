import Kurobara.DatasetCodec.Record
import Kurobara.DatasetCodec.StrictJson

/-! # The JSONL codec

Every line of a document is the strict JSON text of one record. Decoding does not depend on how
the bytes were cut into chunks.
-/

namespace Kurobara.DatasetCodec

open Kurobara.Foundation Kurobara.Kernel Kurobara.Application

namespace Jsonl

/-! ## Rows -/

def isObject : JsonValue → Option (List (JsString × JsonValue))
  | .object properties => some properties
  | _ => none

def property (properties : List (JsString × JsonValue)) (key : String) : Option JsonValue :=
  (properties.find? fun entry => entry.1 == ascii key).map Prod.snd

/-- The object has as many keys as expected, and no other. -/
def hasKeys (properties : List (JsString × JsonValue)) (expected : List String) : Bool :=
  decide (properties.length = expected.length) &&
    (properties.map Prod.fst).all fun key => (expected.map ascii).contains key

private def asScalar : JsonValue → Option DatasetScalarValue
  | .null => some .null
  | .boolean value => some (.boolean value)
  | .number value => some (.number value)
  | .string value => some (.string value)
  | .array _ | .object _ => none

private def asString : JsonValue → Option JsString
  | .string value => some value
  | _ => none

private def rowLocation (recordNumber : ℕ) (recordId : Option JsString) : CodecLocation :=
  ⟨some recordNumber, some recordNumber, recordId, some recordNumber⟩

/-- The error of a row that is not the exact dataset record. -/
def shapeError (recordNumber : ℕ) : DatasetCodecError :=
  codecError .invalidRecordShape "The JSONL row does not match the exact dataset Record shape."
    .record true (rowLocation recordNumber none) none

private def parseEntry (entry : JsonValue) : Option DatasetRecordValue := do
  let properties ← isObject entry
  if !hasKeys properties ["field_id", "value"] then none
  else
    let fieldId ← (property properties "field_id").bind asString
    let value ← (property properties "value").bind asScalar
    some ⟨fieldId, value⟩

/-- The dataset, the record, the workspace and the values of a row of the exact shape. -/
def parseShape (value : JsonValue) :
    Option (JsString × JsString × JsString × List DatasetRecordValue) := do
  let properties ← isObject value
  if !hasKeys properties ["dataset_id", "record_id", "values", "workspace_id"] then none
  else
    let datasetId ← (property properties "dataset_id").bind asString
    let recordId ← (property properties "record_id").bind asString
    let workspaceId ← (property properties "workspace_id").bind asString
    match property properties "values" with
    | some (.array entries) =>
        let values ← entries.mapM parseEntry
        some (datasetId, recordId, workspaceId, values)
    | _ => none

/-- `parseWireRecord`: the record of a row, with its identifiers checked. -/
def parseWireRecord (value : JsonValue) (input : DatasetDecodeInput) (recordNumber : ℕ) :
    Except DatasetCodecError DatasetRecord :=
  match parseShape value with
  | none => .error (shapeError recordNumber)
  | some (datasetId, recordId, workspaceId, values) =>
      if workspaceId ≠ input.workspaceId then
        .error (codecError .scopeMismatch
          "The record does not belong to the requested dataset scope." .record true
          (rowLocation recordNumber (some recordId)) none)
      else
        match normalizeRecord ⟨datasetId, recordId, values, input.workspaceId⟩ input.fields
            input.datasetId input.workspaceId false with
        | .ok record => .ok record
        | .error failure =>
            .error (validationError failure (rowLocation recordNumber (some recordId)) true)

private def rowError (code : DatasetCodecErrorCode) (message : String) (recordNumber : ℕ) :
    DatasetDecodeEvent :=
  .error (codecError code message .record true (rowLocation recordNumber none) none)

/-- `decodeLine`: one framed line. -/
def decodeLine (bytes : Bytes) (input : DatasetDecodeInput) (recordNumber : ℕ) :
    DatasetDecodeEvent :=
  match decodeUtf8 bytes with
  | none => rowError .invalidUtf8 "The JSONL row is not valid UTF-8." recordNumber
  | some text =>
      match parseJsonWithUniqueObjectKeys text with
      | none => rowError .invalidJson "The JSONL row is not valid JSON." recordNumber
      | some value =>
          match parseWireRecord value input recordNumber with
          | .ok record => .record record recordNumber
          | .error error => .error error

/-! ## Lines -/

/-- A line that exceeds the limit has no bytes. -/
structure RawLine where
  bytes : Option Bytes
  lineNumber : ℕ
  oversized : Bool
  deriving DecidableEq, Repr

/-- The buffer holds one byte more than the limit, so that a carriage return behind a line of that
length is seen. -/
def rawLine (line : Bytes) (lineNumber limit : ℕ) : RawLine :=
  let contentLength :=
    if line.length ≤ limit + 1 ∧ line.getLast? = some 13 then line.length - 1 else line.length
  if limit < contentLength then ⟨none, lineNumber, true⟩
  else ⟨some (line.take contentLength), lineNumber, false⟩

/-- The lines that a chunk ends, and the open line behind it with its number. -/
def consumeLines (limit : ℕ) : Bytes → ℕ → Bytes → List RawLine × Bytes × ℕ
  | line, lineNumber, [] => ([], line, lineNumber)
  | line, lineNumber, byte :: rest =>
      if byte = 10 then
        let (lines, last) := consumeLines limit [] (lineNumber + 1) rest
        (rawLine line lineNumber limit :: lines, last)
      else consumeLines limit (line ++ [byte]) lineNumber rest

private def linesFrom (limit : ℕ) : Bytes → ℕ → List Bytes → List RawLine
  | line, lineNumber, [] => if line = [] then [] else [rawLine line lineNumber limit]
  | line, lineNumber, chunk :: rest =>
      let (lines, line, lineNumber) := consumeLines limit line lineNumber chunk
      lines ++ linesFrom limit line lineNumber rest

/-- The lines of a document in chunks. -/
def lines (source : List Bytes) (limit : ℕ) : List RawLine :=
  linesFrom limit [] 1 source

/-! ## Documents -/

private def decodeRow (input : DatasetDecodeInput) (line : RawLine) (recordNumber : ℕ) :
    DatasetDecodeEvent :=
  match line.bytes with
  | none =>
      .error (codecError .recordTooLarge "The JSONL row exceeds the configured byte limit." .record
        true ⟨some line.lineNumber, some line.lineNumber, none, some recordNumber⟩ none)
  | some bytes => decodeLine bytes input recordNumber

end Jsonl

open Jsonl

/-- `decodeJsonl`: the events of a whole source. -/
def decodeJsonl (input : DatasetDecodeInput) (source : List Bytes) : List DatasetDecodeEvent :=
  match configurationError input.fields input.maxRecordBytes (some input.datasetId)
      (some input.workspaceId) with
  | some invalid => [.error invalid]
  | none =>
      (lines source input.maxRecordBytes.toNat).mapIdx fun index line =>
        decodeRow input line (index + 1)

/-! ## Chunks -/

namespace Jsonl

private theorem consumeLines_append (limit : ℕ) (line : Bytes) (lineNumber : ℕ)
    (left right : Bytes) :
    consumeLines limit line lineNumber (left ++ right) =
      let (lines, line, lineNumber) := consumeLines limit line lineNumber left
      let (later, last) := consumeLines limit line lineNumber right
      (lines ++ later, last) := by
  induction left generalizing line lineNumber with
  | nil => rfl
  | cons byte rest ih =>
      rw [List.cons_append, consumeLines, consumeLines]
      split_ifs
      · rw [ih]
        rfl
      · rw [ih]

private theorem linesFrom_flatten (limit : ℕ) (line : Bytes) (lineNumber : ℕ)
    (source : List Bytes) :
    linesFrom limit line lineNumber source = linesFrom limit line lineNumber [source.flatten] := by
  induction source generalizing line lineNumber with
  | nil => rfl
  | cons chunk rest ih =>
      rw [linesFrom, List.flatten_cons, linesFrom, consumeLines_append]
      dsimp only
      rw [ih]
      simp only [linesFrom, List.append_assoc]

end Jsonl

/-- **Decoding does not depend on chunks**, but only on the bytes they hold. -/
theorem decodeJsonl_flatten (input : DatasetDecodeInput) {left right : List Bytes}
    (same : left.flatten = right.flatten) : decodeJsonl input left = decodeJsonl input right := by
  unfold decodeJsonl lines
  rw [linesFrom_flatten _ _ _ left, linesFrom_flatten _ _ _ right, same]

end Kurobara.DatasetCodec
