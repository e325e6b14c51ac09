import Kurobara.Application.CanonicalContentHash
import Kurobara.Foundation.CountText
import Mathlib.Algebra.BigOperators.Group.List.Basic

/-! # The size of canonical content

`canonicalContentByteSize` of content that serializes: the bytes of the canonical text are those
of the parts of the value, in whatever order its keys stand.
-/

namespace Kurobara.Application

open Foundation

/-- Content that JSON can express. -/
structure JsonContent where
  value : JsonValue
  isJson : IsJson value

namespace JsonContent

def boolean (value : Bool) : JsonContent :=
  ⟨.boolean value, .boolean value⟩

def number (value : Double) : JsonContent :=
  ⟨.number (.finite value), .number value⟩

def string (value : JsString) : JsonContent :=
  ⟨.string value, .string value⟩

def null : JsonContent :=
  ⟨.null, .null⟩

def array (entries : List JsonContent) : JsonContent where
  value := .array (entries.map JsonContent.value)
  isJson := .array _ fun entry member => by
    obtain ⟨content, _, rfl⟩ := List.mem_map.mp member
    exact content.isJson

/-- The keys that have a value, each with it. -/
def present : List String → List (Option JsonContent) → List (JsString × JsonContent)
  | key :: keys, some content :: rest => (ascii key, content) :: present keys rest
  | _ :: keys, none :: rest => present keys rest
  | _, _ => []

private theorem present_keys (keys : List String) (contents : List (Option JsonContent)) :
    ((present keys contents).map Prod.fst).Sublist (keys.map ascii) := by
  induction keys generalizing contents with
  | nil => cases contents <;> exact .slnil
  | cons key keys ih =>
      rcases contents with _ | ⟨_ | content, rest⟩
      · exact List.nil_sublist _
      · exact .cons _ (ih rest)
      · exact .cons_cons _ (ih rest)

/-- An object with these keys; a key without a value is left out. -/
def object (keys : List String) (contents : List (Option JsonContent))
    (distinct : (keys.map ascii).Nodup) : JsonContent where
  value := .object ((present keys contents).map fun entry => (entry.1, entry.2.value))
  isJson := by
    refine .object _ ?_ fun property member => ?_
    · rw [List.map_map]
      exact (present_keys keys contents).nodup distinct
    · obtain ⟨entry, _, rfl⟩ := List.mem_map.mp member
      exact entry.2.isJson

/-- The canonical text of the content. -/
def canonicalText (content : JsonContent) : JsString :=
  match serializeCanonical (.ofJson content.value) with
  | .ok text => text
  | .error _ => []

private theorem serializeCanonical_canonicalText (content : JsonContent) :
    serializeCanonical (.ofJson content.value) = .ok content.canonicalText ∧
      content.canonicalText = stringify (sortKeys content.value) := by
  have serialized := serializeCanonical_ofJson content.isJson
  rw [canonicalText, serialized]
  exact ⟨rfl, rfl⟩

end JsonContent

/-- `Buffer.byteLength(serializeCanonical(value), "utf8")`. -/
def canonicalContentByteSize (content : JsonContent) : ℕ :=
  byteLength content.canonicalText

private theorem jsonBytesProperties_eq (properties : List (JsString × JsonValue)) :
    jsonBytesProperties properties =
      (properties.map fun property => byteLength (quoted property.1) + 1 +
        jsonBytes property.2).sum := by
  induction properties with
  | nil => rfl
  | cons property rest ih => rw [jsonBytesProperties, ih, List.map_cons, List.sum_cons]

mutual

private theorem jsonBytes_sortKeys : (value : JsonValue) → jsonBytes (sortKeys value) =
    jsonBytes value
  | .null => rfl
  | .boolean _ => rfl
  | .number _ => rfl
  | .string _ => rfl
  | .array entries => by
      rw [sortKeys, jsonBytes, jsonBytes, jsonBytes_sortEntries entries, sortEntries_eq,
        List.length_map]
  | .object properties => by
      rw [sortKeys, jsonBytes, jsonBytes, ← jsonBytes_sortProperties properties,
        sortedByKey_perm.length_eq, jsonBytesProperties_eq, jsonBytesProperties_eq,
        (sortedByKey_perm.map _).sum_eq, sortProperties_eq, List.length_map]

private theorem jsonBytes_sortEntries : (entries : List JsonValue) →
    jsonBytesEntries (sortEntries entries) = jsonBytesEntries entries
  | [] => rfl
  | entry :: rest => by
      rw [sortEntries, jsonBytesEntries, jsonBytesEntries, jsonBytes_sortKeys entry,
        jsonBytes_sortEntries rest]

private theorem jsonBytes_sortProperties : (properties : List (JsString × JsonValue)) →
    jsonBytesProperties (sortProperties properties) = jsonBytesProperties properties
  | [] => rfl
  | (key, value) :: rest => by
      rw [sortProperties, jsonBytesProperties, jsonBytesProperties, jsonBytes_sortKeys value,
        jsonBytes_sortProperties rest]

end

/-- **The size of content is that of its parts.** -/
theorem canonicalContentByteSize_eq (content : JsonContent) :
    canonicalContentByteSize content = jsonBytes content.value := by
  rw [canonicalContentByteSize, content.serializeCanonical_canonicalText.2, byteLength_stringify,
    jsonBytes_sortKeys]

end Kurobara.Application
