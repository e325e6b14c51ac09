import Kurobara.Foundation.JsonText
import Kurobara.Foundation.TextEncoding
import Kurobara.Kernel.Values

/-! # Generation queries

The query of a generation is inert JSON. `snapshotDatasetGenerationQuery` reserves, while it
copies a query, one node for each value and the bytes of its compact JSON text.
-/

namespace Kurobara.Kernel

open Foundation

def queryMaxBytes : ℕ := 1048576
def queryMaxDepth : ℕ := 32
def queryMaxNodes : ℕ := 10000
def queryMaxEntries : ℕ := 1024
def queryMaxKeyCodePoints : ℕ := 255
def queryMaxStringCodePoints : ℕ := 16384

/-! ## Values -/

/-- A query as the plan keeps it. -/
inductive DatasetGenerationQueryValue where
  | null
  | boolean (value : Bool)
  | number (value : JsNumber)
  | string (value : String)
  | array (entries : List DatasetGenerationQueryValue)
  | object (properties : List (String × DatasetGenerationQueryValue))

mutual

/-- The query as a JSON value. -/
def DatasetGenerationQueryValue.toJson : DatasetGenerationQueryValue → JsonValue
  | .null => .null
  | .boolean value => .boolean value
  | .number value => .number value
  | .string value => .string (utf16 value.toList)
  | .array entries => .array (queryEntriesToJson entries)
  | .object properties => .object (queryPropertiesToJson properties)

def queryEntriesToJson : List DatasetGenerationQueryValue → List JsonValue
  | [] => []
  | entry :: entries => entry.toJson :: queryEntriesToJson entries

def queryPropertiesToJson :
    List (String × DatasetGenerationQueryValue) → List (JsString × JsonValue)
  | [] => []
  | (key, value) :: properties =>
      (utf16 key.toList, value.toJson) :: queryPropertiesToJson properties

end

/-! ## Reservations -/

/-- The bytes and the nodes of a query read so far. -/
structure QuerySnapshotState where
  bytes : ℕ
  nodes : ℕ
  deriving DecidableEq, Repr

/-- Counts more bytes, none beyond the limit. -/
def reserveQueryBytes (state : QuerySnapshotState) (bytes : ℕ) : Option QuerySnapshotState :=
  if queryMaxBytes < state.bytes + bytes then none
  else some { state with bytes := state.bytes + bytes }

end Kurobara.Kernel
