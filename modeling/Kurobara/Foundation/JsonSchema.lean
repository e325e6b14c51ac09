import Kurobara.Foundation.JsonText

/-! # JSON Schema

Keywords of JSON Schema as tests of JSON values. A keyword about objects says nothing about other
values. Where an object satisfies `required` and `properties`, its properties can be read.
-/

namespace Kurobara.Foundation

/-- The value of a property, if the value is an object that has it. -/
def JsonValue.property (key : JsString) : JsonValue → Option JsonValue
  | .object properties => properties.lookup key
  | _ => none

/-- A schema is the predicate it checks. -/
abbrev JsonSchema := JsonValue → Bool

namespace JsonSchema

/-- `"type": "object"`. -/
def isObject : JsonSchema
  | .object _ => true
  | _ => false

/-- `"const"` of a string. -/
def constant (text : JsString) : JsonSchema
  | .string value => value == text
  | _ => false

/-- `"type": "string"` with `"enum"`. -/
def enumeration (texts : List JsString) : JsonSchema
  | .string value => texts.contains value
  | _ => false

/-- `false`. -/
def never : JsonSchema := fun _ => false

/-- Every key of the list is a property. -/
def required (keys : List JsString) : JsonSchema
  | .object properties => keys.all fun key => (properties.map Prod.fst).contains key
  | _ => true

/-- `"additionalProperties": false` beside properties of these keys. -/
def noAdditionalProperties (keys : List JsString) : JsonSchema
  | .object properties => properties.all fun property => keys.contains property.1
  | _ => true

/-- Every property that has a schema meets it. -/
def properties (schemas : List (JsString × JsonSchema)) : JsonSchema
  | .object properties => properties.all fun property =>
      match schemas.lookup property.1 with
      | some schema => schema property.2
      | none => true
  | _ => true

/-- Every one of the keywords of a schema. -/
def allOf (schemas : List JsonSchema) : JsonSchema := fun value =>
  schemas.all fun schema => schema value

/-- Exactly one of the schemas accepts. -/
def oneOf (schemas : List JsonSchema) : JsonSchema := fun value =>
  (schemas.countP fun schema => schema value) == 1

end JsonSchema

open JsonSchema

variable {value : JsonValue} {schemas : List (JsString × JsonSchema)} {keys : List JsString}
  {key : JsString}

@[simp] theorem allOf_cons (schema : JsonSchema) (rest : List JsonSchema) :
    allOf (schema :: rest) value = (schema value && allOf rest value) := rfl

@[simp] theorem allOf_nil : allOf [] value = true := rfl

theorem constant_iff {text : JsString} : constant text value = true ↔ value = .string text := by
  cases value <;> simp [constant]

theorem oneOf_exists {alternatives : List JsonSchema} (accepted : oneOf alternatives value = true) :
    ∃ alternative ∈ alternatives, alternative value = true := by
  have count : (alternatives.countP fun schema => schema value) = 1 := eq_of_beq accepted
  exact List.countP_pos_iff.mp (count ▸ Nat.one_pos)

/-- A property that an object has satisfies its schema. -/
theorem properties_lookup {schema : JsonSchema} {found : JsonValue}
    (accepted : JsonSchema.properties schemas value = true) (key : JsString)
    (listed : schemas.lookup key = some schema) (has : value.property key = some found) :
    schema found = true := by
  cases value with
  | object properties =>
      obtain ⟨before, behind, split, _⟩ := List.lookup_eq_some_iff.mp has
      have member : (key, found) ∈ properties :=
        split ▸ List.mem_append_right _ List.mem_cons_self
      have inside := List.all_eq_true.mp accepted (key, found) member
      dsimp only at inside
      rwa [listed] at inside
  | _ => cases has

/-- Fewer properties are tested by the same schemas. -/
theorem properties_fewer {fewer : List (JsString × JsonSchema)}
    (within : ∀ listed ∈ fewer, schemas.lookup listed.1 = some listed.2)
    (accepted : JsonSchema.properties schemas value = true) :
    JsonSchema.properties fewer value = true := by
  cases value with
  | object properties =>
      refine List.all_eq_true.mpr fun property member => ?_
      have inside := List.all_eq_true.mp accepted property member
      cases listed : fewer.lookup property.1 with
      | none => rfl
      | some schema =>
          obtain ⟨before, behind, split, _⟩ := List.lookup_eq_some_iff.mp listed
          have found := within (property.1, schema)
            (split ▸ List.mem_append_right _ List.mem_cons_self)
          dsimp only at found
          rw [found] at inside
          exact inside
  | _ => rfl

end Kurobara.Foundation
