import Kurobara.DatasetCodec.Record
import Kurobara.Foundation.QuotedFields

/-! # The CSV codec

A framer cuts the bytes of a document into records at the line breaks outside quotes; a parser
reads the fields of the text of a record. Decoding does not depend on how the bytes were cut into
chunks.
-/

namespace Kurobara.DatasetCodec

open Kurobara.Foundation Kurobara.Kernel Kurobara.Application

/-! ## The framing of records -/

/-- The state of the framer inside a record. -/
inductive CsvState where
  | afterQuote
  | fieldStart
  | quoted
  | unquoted
  deriving DecidableEq, Repr

/-- Where a carriage return was read whose line feed is still to come. -/
inductive PendingCr where
  | quoted
  | record
  deriving DecidableEq, Repr

/-- A record that exceeds the limit has no bytes. -/
structure RawRecord where
  bytes : Option Bytes
  lineEnd : ℕ
  lineStart : ℕ
  oversized : Bool
  deriving DecidableEq, Repr

/-- What the framer yields: a raw record, or an error. -/
inductive RawEvent where
  | error (error : DatasetCodecError)
  | record (record : RawRecord)
  deriving DecidableEq, Repr

def syntaxError (message : String) (lineStart lineEnd : ℕ) : RawEvent :=
  .error (codecError .csvSyntaxInvalid message .document false
    ⟨some lineEnd, some lineStart, none, none⟩ none)

/-- The framer with the bytes appended to its record; its buffer keeps those within the limit, and
is only read when there are no others. -/
structure CsvFramer where
  limit : ℕ
  bytes : Bytes
  line : ℕ
  lineStart : ℕ
  pendingCr : Option PendingCr
  started : Bool
  state : CsvState
  deriving DecidableEq, Repr

namespace CsvFramer

/-- The framer at the start of a document. -/
def initial (limit : ℕ) : CsvFramer :=
  ⟨limit, [], 1, 1, none, false, .fieldStart⟩

/-- Keeps one byte of the record. -/
def append (framer : CsvFramer) (byte : UInt8) : CsvFramer :=
  { framer with bytes := framer.bytes ++ [byte] }

def error (framer : CsvFramer) (message : String) : RawEvent :=
  syntaxError message framer.lineStart framer.line

/-- The record of a framer. -/
def rawRecord (framer : CsvFramer) : RawRecord where
  bytes := if framer.limit < framer.bytes.length then none else some framer.bytes
  lineEnd := framer.line
  lineStart := framer.lineStart
  oversized := decide (framer.limit < framer.bytes.length)

private def takeRecord (framer : CsvFramer) : CsvFramer × Option RawEvent :=
  ({ framer with bytes := [], started := false, state := .fieldStart },
    some (.record framer.rawRecord))

/-- `#consumeData`: a byte with no carriage return pending. -/
def consumeData (framer : CsvFramer) (byte : UInt8) : CsvFramer × Option RawEvent :=
  match framer.state with
  | .fieldStart =>
      let next := framer.append byte
      if byte = 34 then ({ next with state := .quoted }, none)
      else if byte ≠ 44 then ({ next with state := .unquoted }, none)
      else (next, none)
  | .unquoted =>
      if byte = 34 then
        (framer, some (framer.error "A quote cannot occur inside an unquoted field."))
      else
        let next := framer.append byte
        if byte = 44 then ({ next with state := .fieldStart }, none) else (next, none)
  | .quoted =>
      let next := framer.append byte
      if byte = 34 then ({ next with state := .afterQuote }, none) else (next, none)
  | .afterQuote =>
      if byte ≠ 34 ∧ byte ≠ 44 then
        (framer, some (framer.error "Only a comma or CRLF may follow a closing quote."))
      else
        let next := framer.append byte
        ({ next with state := if byte = 34 then .quoted else .fieldStart }, none)

/-- `consume` of a framer without a pending carriage return. -/
def consumeByte (framer : CsvFramer) (byte : UInt8) : CsvFramer × Option RawEvent :=
  if byte = 13 then
    if framer.state = .quoted then
      let next := { framer with started := true }.append byte
      ({ next with pendingCr := some .quoted, line := framer.line + 1 }, none)
    else ({ framer with started := true, pendingCr := some .record }, none)
  else if byte = 10 then
    if framer.state = .quoted then
      let next := { framer with started := true }.append byte
      ({ next with line := framer.line + 1 }, none)
    else (framer, some (framer.error "A CSV line break must use CRLF."))
  else consumeData { framer with started := true } byte

private def consumeAfterCr (framer : CsvFramer) (pendingCr : PendingCr) (byte : UInt8) :
    CsvFramer × Option RawEvent :=
  match pendingCr with
  | .quoted =>
      let settled := { framer with pendingCr := none }
      if byte = 10 then (settled.append byte, none) else settled.consumeByte byte
  | .record =>
      if byte ≠ 10 then (framer, some (framer.error "A CSV line break must use CRLF."))
      else
        let (next, event) := { framer with pendingCr := none }.takeRecord
        ({ next with line := next.line + 1, lineStart := next.line + 1 }, event)

/-- `consume`: one byte, and the event it completes. -/
def consume (framer : CsvFramer) (byte : UInt8) : CsvFramer × Option RawEvent :=
  match framer.pendingCr with
  | some pendingCr => framer.consumeAfterCr pendingCr byte
  | none => framer.consumeByte byte

/-- `finish`: what the end of the document still yields. -/
def finish (framer : CsvFramer) : Option RawEvent :=
  if framer.pendingCr.isSome || framer.state == .quoted then
    some (framer.error "The CSV document ends inside an incomplete sequence.")
  else if framer.started then some (.record framer.rawRecord)
  else none

end CsvFramer

/-- The events of one chunk, and the framer behind them, unless an error ends the document. -/
def consumeChunk : CsvFramer → Bytes → List RawEvent × Option CsvFramer
  | framer, [] => ([], some framer)
  | framer, byte :: rest =>
      match framer.consume byte with
      | (next, none) => consumeChunk next rest
      | (_, some (.error error)) => ([.error error], none)
      | (next, some (.record record)) =>
          let (events, last) := consumeChunk next rest
          (.record record :: events, last)

/-- The events of the chunks that are left to read. -/
def recordsFrom : CsvFramer → List Bytes → List RawEvent
  | framer, [] => framer.finish.toList
  | framer, chunk :: rest =>
      match consumeChunk framer chunk with
      | (events, none) => events
      | (events, some next) => events ++ recordsFrom next rest

/-- The events of a document in chunks. -/
def records (source : List Bytes) (limit : ℕ) : List RawEvent :=
  recordsFrom (.initial limit) source

/-! ## The fields of a record -/

abbrev CsvField := QuotedField CodeUnit

/-- `parseCsvText`: the fields of one framed record. -/
def parseCsvText (source : JsString) (maximumFields : ℕ) : Option (List CsvField) :=
  readFields 34 44 maximumFields source

/-- `parseFields`: no text, or no fields, or the fields. -/
def parseFields (bytes : Bytes) (maximumFields : ℕ) : Option (Option (List CsvField)) :=
  (decodeUtf8 bytes).map fun source => parseCsvText source maximumFields

/-- The header row of the fields. -/
def expectedHeader (fields : List DatasetFieldCodecSpec) : List JsString :=
  ascii "record_id" :: fields.map DatasetFieldCodecSpec.key

/-- The value of a cell; a number is written as a JSON number. -/
def decodeCell (field : CsvField) (spec : DatasetFieldCodecSpec) : Option DatasetScalarValue :=
  if !field.quoted && field.text.isEmpty then some .null
  else
    match spec.valueType with
    | .string => some (.string field.text)
    | .boolean =>
        if field.text = ascii "true" then some (.boolean true)
        else if field.text = ascii "false" then some (.boolean false)
        else none
    | .number =>
        (readNumber field.text).bind fun value =>
          if scalarMatchesField (.number value) spec then some (.number value) else none

def recordError (code : DatasetCodecErrorCode) (message : String) (raw : RawRecord)
    (recordNumber : ℕ) : DatasetDecodeEvent :=
  .error (codecError code message .record true
    ⟨some raw.lineEnd, some raw.lineStart, none, some recordNumber⟩ none)

/-- The values of the cells behind the first, up to one that does not match its field. -/
def decodeCells : List DatasetFieldCodecSpec → List CsvField →
    Except DatasetFieldCodecSpec (List DatasetRecordValue)
  | spec :: specs, cell :: cells =>
      match decodeCell cell spec with
      | none => .error spec
      | some value => do
          let later ← decodeCells specs cells
          .ok (⟨spec.fieldId, value⟩ :: later)
  | _, _ => .ok []

/-- `decodeRecord`: one raw record against the fields. -/
def decodeRecord (raw : RawRecord) (input : DatasetDecodeInput) (recordNumber : ℕ) :
    DatasetDecodeEvent :=
  match raw.bytes with
  | none =>
      recordError .recordTooLarge "The CSV record exceeds the configured byte limit." raw
        recordNumber
  | some bytes =>
      match parseFields bytes (input.fields.length + 1) with
      | none =>
          recordError .invalidUtf8 "The CSV record is not valid UTF-8." raw recordNumber
      | some none =>
          recordError .columnCountMismatch
            "The CSV record does not contain the configured number of fields." raw recordNumber
      | some (some cells) =>
          if cells.length ≠ input.fields.length + 1 then
            recordError .columnCountMismatch
              "The CSV record does not contain the configured number of fields." raw recordNumber
          else
            let recordId := (cells.head?.map QuotedField.text).getD []
            let location : CodecLocation :=
              ⟨some raw.lineEnd, some raw.lineStart, some recordId, some recordNumber⟩
            match decodeCells input.fields cells.tail with
            | .error spec =>
                .error (codecError .valueTypeMismatch
                  "A CSV value does not match its configured scalar field type." .record true
                  location (some spec.key))
            | .ok values =>
                match normalizeRecord ⟨input.datasetId, recordId, values, input.workspaceId⟩
                    input.fields input.datasetId input.workspaceId false with
                | .ok record => .record record recordNumber
                | .error failure => .error (validationError failure location true)

/-- The bytes of a header record, when they are read. -/
def headerMatches (raw : RawRecord) (expected : List JsString) : Bool :=
  match raw.bytes.bind fun bytes => parseFields bytes expected.length with
  | some (some header) => decide (header.map QuotedField.text = expected)
  | _ => false

private def headerError (message : String) (lineStart lineEnd : ℕ) : DatasetDecodeEvent :=
  .error (codecError .headerInvalid message .document false
    ⟨some lineEnd, some lineStart, none, none⟩ none)

/-- The events behind the header, and behind so many records. -/
def decodeRecords (input : DatasetDecodeInput) (recordNumber : ℕ) :
    List RawEvent → List DatasetDecodeEvent
  | [] => []
  | .error error :: _ => [.error error]
  | .record raw :: rest =>
      decodeRecord raw input (recordNumber + 1) :: decodeRecords input (recordNumber + 1) rest

private def decodeDocument (input : DatasetDecodeInput) : List RawEvent → List DatasetDecodeEvent
  | [] => [headerError "The CSV document requires an exact header record." 1 1]
  | .error error :: _ => [.error error]
  | .record raw :: rest =>
      if headerMatches raw (expectedHeader input.fields) then decodeRecords input 0 rest
      else
        [headerError
          "The CSV header must exactly match record_id and the ordered field keys."
          raw.lineStart raw.lineEnd]

/-- `decodeCsv`: the events of a whole source. -/
def decodeCsv (input : DatasetDecodeInput) (source : List Bytes) : List DatasetDecodeEvent :=
  match configurationError input.fields input.maxRecordBytes (some input.datasetId)
      (some input.workspaceId) with
  | some invalid => [.error invalid]
  | none => decodeDocument input (records source input.maxRecordBytes.toNat)

/-! ## Chunks -/

/-- A chunk may be cut anywhere. -/
theorem consumeChunk_append (framer : CsvFramer) (left right : Bytes) :
    consumeChunk framer (left ++ right) =
      match consumeChunk framer left with
      | (events, none) => (events, none)
      | (events, some next) =>
          (events ++ (consumeChunk next right).1, (consumeChunk next right).2) := by
  induction left generalizing framer with
  | nil => rfl
  | cons byte rest ih =>
      rw [List.cons_append, consumeChunk, consumeChunk]
      rcases framer.consume byte with ⟨next, none | error | record⟩
      · exact ih next
      · rfl
      · dsimp only
        rw [ih]
        rcases consumeChunk next rest with ⟨events, none | last⟩ <;> rfl

/-- The framer does not see where chunks end. -/
theorem recordsFrom_flatten (framer : CsvFramer) (source : List Bytes) :
    recordsFrom framer source = recordsFrom framer [source.flatten] := by
  induction source generalizing framer with
  | nil =>
      rw [recordsFrom, List.flatten_nil, recordsFrom, consumeChunk]
      rfl
  | cons chunk rest ih =>
      rw [recordsFrom, List.flatten_cons, recordsFrom, consumeChunk_append]
      rcases consumeChunk framer chunk with ⟨events, none | next⟩
      · rfl
      · dsimp only
        rw [ih, recordsFrom]
        rcases consumeChunk next rest.flatten with ⟨later, none | last⟩
        · rfl
        · exact (List.append_assoc events later _).symm

/-- **Decoding does not depend on chunks**, but only on the bytes they hold. -/
theorem decodeCsv_flatten (input : DatasetDecodeInput) {left right : List Bytes}
    (same : left.flatten = right.flatten) : decodeCsv input left = decodeCsv input right := by
  unfold decodeCsv records
  rw [recordsFrom_flatten _ left, recordsFrom_flatten _ right, same]

end Kurobara.DatasetCodec
