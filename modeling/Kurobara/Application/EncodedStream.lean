import Mathlib.Data.Int.Order.Basic
import Mathlib.Data.List.Basic

/-! # Encoded streams

What a dataset codec encodes, event by event, and the proof of its content: the length and the
hash of all bytes. A consumer that withholds the last chunk yields every chunk once the next one
is read, and the last one once the proof is checked.
-/

namespace Kurobara.Application

inductive DatasetCodecErrorCode where
  | columnCountMismatch
  | configurationInvalid
  | csvSyntaxInvalid
  | fieldSetInvalid
  | headerInvalid
  | invalidJson
  | invalidRecordShape
  | invalidUtf8
  | recordIdInvalid
  | recordTooLarge
  | scopeMismatch
  | valueTypeMismatch
  deriving DecidableEq, Repr

abbrev Bytes := List UInt8

structure EncodedChunk where
  bytes : Bytes
  recordNumber : Option ℕ
  deriving DecidableEq, Repr

/-- An event of an encoder; the bytes of a malformed chunk are no byte array. -/
inductive DatasetEncodeEvent where
  | chunk (chunk : EncodedChunk)
  | malformed
  | error (code : DatasetCodecErrorCode)
  deriving DecidableEq, Repr

/-- The events of a stream, and what it throws after them unless it ends. -/
structure EncodeStream (Thrown : Type) where
  events : List DatasetEncodeEvent
  thrown : Option Thrown

structure EncodedContentProof where
  contentHash : String
  contentLength : ℕ
  deriving DecidableEq, Repr

/-- The bytes of chunks, one chunk after the other. -/
def chunkBytes (chunks : List EncodedChunk) : Bytes :=
  chunks.flatMap EncodedChunk.bytes

def DatasetEncodeEvent.chunk? : DatasetEncodeEvent → Option EncodedChunk
  | .chunk encoded => some encoded
  | _ => none

/-- All chunks of a stream. -/
def EncodeStream.chunks {Thrown : Type} (stream : EncodeStream Thrown) : List EncodedChunk :=
  stream.events.filterMap DatasetEncodeEvent.chunk?

theorem chunks_cons (chunk : EncodedChunk) (events : List DatasetEncodeEvent) :
    (DatasetEncodeEvent.chunk chunk :: events).filterMap DatasetEncodeEvent.chunk? =
      chunk :: events.filterMap DatasetEncodeEvent.chunk? :=
  rfl

/-- `contentLength` bytes were read, and of them these are hashed. -/
def matchesProof (sha256 : Bytes → String) (read : Bytes) (expected : EncodedContentProof) : Bool :=
  decide (read.length = expected.contentLength) && decide (sha256 read = expected.contentHash)

/-- The chunks that have bytes. -/
def nonEmptyChunks (chunks : List EncodedChunk) : List EncodedChunk :=
  chunks.filter fun chunk => !chunk.bytes.isEmpty

theorem chunkBytes_append (left right : List EncodedChunk) :
    chunkBytes (left ++ right) = chunkBytes left ++ chunkBytes right :=
  List.flatMap_append

theorem chunkBytes_nonEmpty (chunks : List EncodedChunk) :
    chunkBytes (nonEmptyChunks chunks) = chunkBytes chunks := by
  induction chunks with
  | nil => rfl
  | cons chunk rest ih =>
      unfold nonEmptyChunks at ih ⊢
      by_cases empty : chunk.bytes = []
      · rw [List.filter_cons_of_neg (by simp [empty]), ih]
        simp [chunkBytes, empty]
      · rw [List.filter_cons_of_pos (by simpa using empty)]
        change chunk.bytes ++ chunkBytes _ = chunk.bytes ++ chunkBytes rest
        rw [ih]

end Kurobara.Application
