import Kurobara.Foundation.ByteLength
import Kurobara.Foundation.Fallible
import Kurobara.Foundation.JsHeap
import Kurobara.Foundation.JsonMeasure

/-! # Plugin JSON

`validatePluginJsonWithLimits` over values of the runtime. While it clones a value it counts nodes
and a minimum of the bytes of its JSON text, so that it refuses large values early; the bytes of
the whole are measured on the clone, which is then frozen.
-/

namespace Kurobara.Plugin

open Foundation

inductive PluginJsonValidationReasonCode where
  | typeInvalid
  | numberInvalid
  | cycle
  | arraySparse
  | accessor
  | symbol
  | prototypeInvalid
  | propertyInvalid
  | depthExceeded
  | nodeLimitExceeded
  | sizeExceeded
  deriving DecidableEq, Repr

def PluginJsonValidationReasonCode.text : PluginJsonValidationReasonCode → String
  | .typeInvalid => "plugin-json-type-invalid"
  | .numberInvalid => "plugin-json-number-invalid"
  | .cycle => "plugin-json-cycle"
  | .arraySparse => "plugin-json-array-sparse"
  | .accessor => "plugin-json-accessor"
  | .symbol => "plugin-json-symbol"
  | .prototypeInvalid => "plugin-json-prototype-invalid"
  | .propertyInvalid => "plugin-json-property-invalid"
  | .depthExceeded => "plugin-json-depth-exceeded"
  | .nodeLimitExceeded => "plugin-json-node-limit-exceeded"
  | .sizeExceeded => "plugin-json-size-exceeded"

structure PluginJsonValidationLimits where
  maxDepth : ℤ
  maxNodes : ℤ
  maxUtf8Bytes : ℤ
  deriving DecidableEq, Repr

/-- `PLUGIN_JSON_MAX_DEPTH`, `PLUGIN_JSON_MAX_NODES` and `PLUGIN_JSON_MAX_UTF8_BYTES`. -/
def pluginJsonLimits : PluginJsonValidationLimits :=
  ⟨32, 4096, 65536⟩

/-! ## Clones -/

/-- A value of fresh objects, each of them frozen or not. -/
inductive PluginJsonValue where
  | null
  | boolean (value : Bool)
  | number (value : Double)
  | string (value : JsString)
  | array (frozen : Bool) (entries : List PluginJsonValue)
  | object (frozen : Bool) (properties : List (JsString × PluginJsonValue))

mutual

def PluginJsonValue.toJson : PluginJsonValue → JsonValue
  | .null => .null
  | .boolean value => .boolean value
  | .number value => .number (.finite value)
  | .string value => .string value
  | .array _ entries => .array (entriesToJson entries)
  | .object _ properties => .object (propertiesToJson properties)

def entriesToJson : List PluginJsonValue → List JsonValue
  | [] => []
  | entry :: rest => entry.toJson :: entriesToJson rest

def propertiesToJson : List (JsString × PluginJsonValue) → List (JsString × JsonValue)
  | [] => []
  | (key, value) :: rest => (key, value.toJson) :: propertiesToJson rest

end

mutual

def deepFreeze : PluginJsonValue → PluginJsonValue
  | .array _ entries => .array true (freezeEntries entries)
  | .object _ properties => .object true (freezeProperties properties)
  | value => value

def freezeEntries : List PluginJsonValue → List PluginJsonValue
  | [] => []
  | entry :: rest => deepFreeze entry :: freezeEntries rest

def freezeProperties : List (JsString × PluginJsonValue) → List (JsString × PluginJsonValue)
  | [] => []
  | (key, value) :: rest => (key, deepFreeze value) :: freezeProperties rest

end

mutual

/-- Every object of the value is frozen. -/
def isDeeplyFrozen : PluginJsonValue → Bool
  | .array frozen entries => frozen && entriesAreFrozen entries
  | .object frozen properties => frozen && propertiesAreFrozen properties
  | _ => true

def entriesAreFrozen : List PluginJsonValue → Bool
  | [] => true
  | entry :: rest => isDeeplyFrozen entry && entriesAreFrozen rest

def propertiesAreFrozen : List (JsString × PluginJsonValue) → Bool
  | [] => true
  | (_, value) :: rest => isDeeplyFrozen value && propertiesAreFrozen rest

end

mutual

/-- Freezing changes no value. -/
theorem deepFreeze_toJson : (value : PluginJsonValue) → (deepFreeze value).toJson = value.toJson
  | .null => rfl
  | .boolean _ => rfl
  | .number _ => rfl
  | .string _ => rfl
  | .array _ entries => by
      rw [deepFreeze, PluginJsonValue.toJson, PluginJsonValue.toJson, freezeEntries_toJson entries]
  | .object _ properties => by
      rw [deepFreeze, PluginJsonValue.toJson, PluginJsonValue.toJson,
        freezeProperties_toJson properties]

private theorem freezeEntries_toJson : (entries : List PluginJsonValue) →
    entriesToJson (freezeEntries entries) = entriesToJson entries
  | [] => rfl
  | entry :: rest => by
      rw [freezeEntries, entriesToJson, entriesToJson, deepFreeze_toJson entry,
        freezeEntries_toJson rest]

private theorem freezeProperties_toJson : (properties : List (JsString × PluginJsonValue)) →
    propertiesToJson (freezeProperties properties) = propertiesToJson properties
  | [] => rfl
  | (key, value) :: rest => by
      rw [freezeProperties, propertiesToJson, propertiesToJson, deepFreeze_toJson value,
        freezeProperties_toJson rest]

end

mutual

/-- Every array and object below is frozen. -/
theorem deepFreeze_isDeeplyFrozen : (value : PluginJsonValue) →
    isDeeplyFrozen (deepFreeze value) = true
  | .null => rfl
  | .boolean _ => rfl
  | .number _ => rfl
  | .string _ => rfl
  | .array _ entries => by
      rw [deepFreeze, isDeeplyFrozen, freezeEntries_areFrozen entries]
      rfl
  | .object _ properties => by
      rw [deepFreeze, isDeeplyFrozen, freezeProperties_areFrozen properties]
      rfl

private theorem freezeEntries_areFrozen : (entries : List PluginJsonValue) →
    entriesAreFrozen (freezeEntries entries) = true
  | [] => rfl
  | entry :: rest => by
      rw [freezeEntries, entriesAreFrozen, deepFreeze_isDeeplyFrozen entry,
        freezeEntries_areFrozen rest]
      rfl

private theorem freezeProperties_areFrozen : (properties : List (JsString × PluginJsonValue)) →
    propertiesAreFrozen (freezeProperties properties) = true
  | [] => rfl
  | (_, value) :: rest => by
      rw [freezeProperties, propertiesAreFrozen, deepFreeze_isDeeplyFrozen value,
        freezeProperties_areFrozen rest]
      rfl

end

mutual

/-- Frozen values that stand for the same JSON are the same. -/
theorem eq_of_toJson : {left right : PluginJsonValue} → isDeeplyFrozen left = true →
    isDeeplyFrozen right = true → left.toJson = right.toJson → left = right
  | .null, right, _, _, same => by
      cases right <;> cases same
      rfl
  | .boolean _, right, _, _, same => by
      cases right <;> cases same
      rfl
  | .number _, right, _, _, same => by
      cases right <;> cases same
      rfl
  | .string _, right, _, _, same => by
      cases right <;> cases same
      rfl
  | .array _ entries, right, left, frozen, same => by
      cases right with
      | array _ others =>
          rw [isDeeplyFrozen, Bool.and_eq_true] at left frozen
          rw [PluginJsonValue.toJson, PluginJsonValue.toJson, JsonValue.array.injEq] at same
          rw [left.1, frozen.1, eq_of_entriesToJson left.2 frozen.2 same]
      | _ => cases same
  | .object _ properties, right, left, frozen, same => by
      cases right with
      | object _ others =>
          rw [isDeeplyFrozen, Bool.and_eq_true] at left frozen
          rw [PluginJsonValue.toJson, PluginJsonValue.toJson, JsonValue.object.injEq] at same
          rw [left.1, frozen.1, eq_of_propertiesToJson left.2 frozen.2 same]
      | _ => cases same

private theorem eq_of_entriesToJson : {left right : List PluginJsonValue} → entriesAreFrozen left =
    true →
    entriesAreFrozen right = true → entriesToJson left = entriesToJson right → left = right
  | [], [], _, _, _ => rfl
  | [], _ :: _, _, _, same => by cases same
  | _ :: _, [], _, _, same => by cases same
  | entry :: rest, other :: others, left, right, same => by
      rw [entriesAreFrozen, Bool.and_eq_true] at left right
      rw [entriesToJson, entriesToJson, List.cons.injEq] at same
      rw [eq_of_toJson left.1 right.1 same.1, eq_of_entriesToJson left.2 right.2 same.2]

private theorem eq_of_propertiesToJson : {left right : List (JsString × PluginJsonValue)} →
    propertiesAreFrozen left = true → propertiesAreFrozen right = true →
      propertiesToJson left = propertiesToJson right → left = right
  | [], [], _, _, _ => rfl
  | [], _ :: _, _, _, same => by cases same
  | _ :: _, [], _, _, same => by cases same
  | (key, value) :: rest, (otherKey, other) :: others, left, right, same => by
      rw [propertiesAreFrozen, Bool.and_eq_true] at left right
      rw [propertiesToJson, propertiesToJson, List.cons.injEq, Prod.mk.injEq] at same
      rw [same.1.1, eq_of_toJson left.1 right.1 same.1.2,
        eq_of_propertiesToJson left.2 right.2 same.2]

end

/-! ## The traversal -/

/-- What a validation has counted so far. -/
structure CloneState where
  minimumUtf8Bytes : ℕ
  nodes : ℕ
  deriving DecidableEq, Repr

/-- The property names that are refused. -/
def unsafePropertyNames : List JsString :=
  [ascii "__proto__", ascii "constructor", ascii "prototype"]

section

variable {Ref : Type} (limits : PluginJsonValidationLimits)

/-- The first reason to refuse a value, or its clone. -/
abbrev CloneStep (Ref Clone : Type) :=
  JsValue Ref → CloneState → Except PluginJsonValidationReasonCode (Clone × CloneState)

/-- Counts a node, none beyond the limit. -/
def countNode (state : CloneState) : Except PluginJsonValidationReasonCode CloneState :=
  if (state.nodes + 1 : ℤ) ≤ limits.maxNodes then .ok { state with nodes := state.nodes + 1 }
  else .error .nodeLimitExceeded

/-- Counts bytes that the value will at least need. -/
def reserveMinimumUtf8Bytes (state : CloneState) (bytes : ℕ) :
    Except PluginJsonValidationReasonCode CloneState :=
  if limits.maxUtf8Bytes - state.minimumUtf8Bytes < bytes then .error .sizeExceeded
  else .ok { state with minimumUtf8Bytes := state.minimumUtf8Bytes + bytes }

/-- A value without parts, and the minimum of its bytes. -/
def cloneLeaf (state : CloneState) (bytes : ℕ) (value : PluginJsonValue) :
    Except PluginJsonValidationReasonCode (PluginJsonValue × CloneState) :=
  (reserveMinimumUtf8Bytes limits state bytes).map fun state => (value, state)

/-- Every name is `length` or that of an index; an index below the length of an array is a safe
integer. -/
def arrayPropertiesAreCanonical (array : JsObject Ref) : Bool :=
  array.getOwnPropertyNames.all fun key =>
    key == ascii "length" || (isIndexName key && decide (digitsValue key < array.length))

/-- The loop over the indices of an array. -/
def cloneEntries (cloneValue : CloneStep Ref PluginJsonValue) (array : JsObject Ref) :
    List ℕ → CloneState →
      Except PluginJsonValidationReasonCode (List PluginJsonValue × CloneState)
  | [], state => .ok ([], state)
  | index :: rest, state =>
      match array.getOwnPropertyDescriptor (decimalDigits index) with
      | none => .error .arraySparse
      | some (.accessor _) => .error .accessor
      | some (.data _ false) => .error .propertyInvalid
      | some (.data value true) => do
          let (nested, state) ← cloneValue value state
          let (entries, state) ← cloneEntries cloneValue array rest state
          .ok (nested :: entries, state)

/-- The array branch of the clone. -/
def cloneArray (cloneValue : CloneStep Ref PluginJsonValue) (array : JsObject Ref)
    (state : CloneState) : Except PluginJsonValidationReasonCode (PluginJsonValue × CloneState) :=
  if array.prototype ≠ .arrayPrototype then .error .prototypeInvalid
  else if array.symbols ≠ 0 then .error .symbol
  else if limits.maxNodes - state.nodes < array.length then .error .nodeLimitExceeded
  else do
    let state ← reserveMinimumUtf8Bytes limits state (2 + (array.length - 1))
    if !arrayPropertiesAreCanonical array then .error .propertyInvalid
    else
      let (entries, state) ← cloneEntries cloneValue array (List.range array.length) state
      .ok (.array false entries, state)

/-- The loop over the names of an object's properties. -/
def cloneProperties (cloneValue : CloneStep Ref PluginJsonValue) (object : JsObject Ref) :
    List JsString → CloneState →
      Except PluginJsonValidationReasonCode (List (JsString × PluginJsonValue) × CloneState)
  | [], state => .ok ([], state)
  | key :: rest, state =>
      match object.getOwnPropertyDescriptor key with
      | none => .error .propertyInvalid
      | some (.data _ false) => .error .propertyInvalid
      | some (.accessor enumerable) =>
          if unsafePropertyNames.contains key || !enumerable then .error .propertyInvalid
          else .error .accessor
      | some (.data value true) =>
          if unsafePropertyNames.contains key then .error .propertyInvalid
          else do
            let state ← reserveMinimumUtf8Bytes limits state (key.length + 3)
            let (nested, state) ← cloneValue value state
            let (properties, state) ← cloneProperties cloneValue object rest state
            .ok ((key, nested) :: properties, state)

/-- The object branch of the clone. -/
def cloneObject (cloneValue : CloneStep Ref PluginJsonValue) (object : JsObject Ref)
    (state : CloneState) : Except PluginJsonValidationReasonCode (PluginJsonValue × CloneState) :=
  if object.prototype ≠ .objectPrototype ∧ object.prototype ≠ .null then .error .prototypeInvalid
  else if object.symbols ≠ 0 then .error .symbol
  else if limits.maxNodes - state.nodes < object.getOwnPropertyNames.length then
    .error .nodeLimitExceeded
  else do
    let state ← reserveMinimumUtf8Bytes limits state (2 + (object.getOwnPropertyNames.length - 1))
    let (properties, state) ←
      cloneProperties limits cloneValue object object.getOwnPropertyNames state
    .ok (.object false properties, state)

/-- The number branch of the clone: finite numbers only. -/
def cloneNumber (value : JsNumber) (state : CloneState) :
    Except PluginJsonValidationReasonCode (PluginJsonValue × CloneState) :=
  match value with
  | .finite value => cloneLeaf limits state value.text.length (.number value)
  | _ => .error .numberInvalid

/-- A value with the levels that are left for it; without any it lies too deep. -/
def cloneValue [DecidableEq Ref] (heap : JsHeap Ref) :
    ℕ → List Ref → CloneStep Ref PluginJsonValue
  | 0, _, _, _ => .error .depthExceeded
  | levels + 1, parents, value, state => do
      let state ← countNode limits state
      match value with
      | .null => cloneLeaf limits state 4 .null
      | .boolean value => cloneLeaf limits state (if value then 4 else 5) (.boolean value)
      | .string value =>
          if (value.length : ℤ) ≤ limits.maxUtf8Bytes then
            cloneLeaf limits state (value.length + 2) (.string value)
          else .error .sizeExceeded
      | .number value => cloneNumber limits value state
      | .undefined => .error .typeInvalid
      | .other => .error .typeInvalid
      | .object ref =>
          if ref ∈ parents then .error .cycle
          else if (heap ref).isArray then
            cloneArray limits (cloneValue heap levels (ref :: parents)) (heap ref) state
          else
            cloneObject limits (cloneValue heap levels (ref :: parents)) (heap ref) state

/-- A validated value with its size. -/
structure ValidatedPluginJson where
  sizeBytes : ℕ
  value : PluginJsonValue

def validatePluginJsonWithLimits [DecidableEq Ref] (heap : JsHeap Ref) (candidate : JsValue Ref) :
    Except PluginJsonValidationReasonCode ValidatedPluginJson :=
  match cloneValue limits heap (limits.maxDepth + 1).toNat [] candidate ⟨0, 0⟩ with
  | .error reasonCode => .error reasonCode
  | .ok (value, _) =>
      let sizeBytes := byteLength (stringify value.toJson)
      if limits.maxUtf8Bytes < sizeBytes then .error .sizeExceeded
      else .ok ⟨sizeBytes, deepFreeze value⟩

end

def validatePluginJson {Ref : Type} [DecidableEq Ref] (heap : JsHeap Ref)
    (candidate : JsValue Ref) : Except PluginJsonValidationReasonCode ValidatedPluginJson :=
  validatePluginJsonWithLimits pluginJsonLimits heap candidate

/-- The heap of the objects of a clone, which have the prototypes of literals. -/
def cloneHeap (json : JsonValue) : JsHeap JsonPath := fun path =>
  { plainHeap json path with
    prototype := if (plainHeap json path).isArray then .arrayPrototype else .objectPrototype }

end Kurobara.Plugin
