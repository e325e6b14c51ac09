import Kurobara.Foundation.JsonText

/-! # Measures of JSON values

The values a JSON value consists of, and its levels.
-/

namespace Kurobara.Foundation

mutual

/-- The values that a value consists of. -/
def nodeCount : JsonValue → ℕ
  | .array entries => nodeCountEntries entries + 1
  | .object properties => nodeCountProperties properties + 1
  | _ => 1

def nodeCountEntries : List JsonValue → ℕ
  | [] => 0
  | entry :: rest => nodeCount entry + nodeCountEntries rest

def nodeCountProperties : List (JsString × JsonValue) → ℕ
  | [] => 0
  | (_, value) :: rest => nodeCount value + nodeCountProperties rest

end

mutual

/-- The levels of a value; a scalar and an empty container have one. -/
def levels : JsonValue → ℕ
  | .array entries => levelsOfEntries entries + 1
  | .object properties => levelsOfProperties properties + 1
  | _ => 1

def levelsOfEntries : List JsonValue → ℕ
  | [] => 0
  | entry :: rest => max (levels entry) (levelsOfEntries rest)

def levelsOfProperties : List (JsString × JsonValue) → ℕ
  | [] => 0
  | (_, value) :: rest => max (levels value) (levelsOfProperties rest)

end

end Kurobara.Foundation
