import Kurobara.Kernel.Product

/-! # Normalized JSON values

The JSON values that a capability hands over. An object has its own properties in order;
numbers are finite, and stand as their exact values.
-/

namespace Kurobara.Kernel

/-- A JSON value with exact numbers, its properties in order. -/
inductive NormalizedJsonValue where
  | null
  | boolean (value : Bool)
  | number (value : ℚ)
  | string (value : String)
  | array (entries : List NormalizedJsonValue)
  | object (properties : List (String × NormalizedJsonValue))

/-- The properties of an object. -/
abbrev JsonProperties := List (String × NormalizedJsonValue)

namespace JsonProperties

/-- The value of a key, the first of its name. -/
def property (properties : JsonProperties) (key : String) : Option NormalizedJsonValue :=
  (properties.find? fun entry => entry.1 == key).map Prod.snd

def stringProperty (properties : JsonProperties) (key : String) : Option String :=
  match properties.property key with
  | some (.string value) => some value
  | _ => none

def booleanProperty (properties : JsonProperties) (key : String) : Option Bool :=
  match properties.property key with
  | some (.boolean value) => some value
  | _ => none

def arrayProperty (properties : JsonProperties) (key : String) :
    Option (List NormalizedJsonValue) :=
  match properties.property key with
  | some (.array entries) => some entries
  | _ => none

/-- Both sides are sorted before they are compared, so the order does not count. -/
def hasExactKeys (properties : JsonProperties) (keys : List String) : Bool :=
  (properties.map Prod.fst).isPerm keys

end JsonProperties

/-- The properties of an object with exactly these keys. -/
def exactObject (keys : List String) : NormalizedJsonValue → Option JsonProperties
  | .object properties =>
      if JsonProperties.hasExactKeys properties keys then some properties else none
  | _ => none

mutual

/-- Equality of JSON values, in which the order of the properties of an object does not count. -/
def jsonMatches : NormalizedJsonValue → NormalizedJsonValue → Bool
  | .null, .null => true
  | .boolean left, .boolean right => left == right
  | .number left, .number right => left == right
  | .string left, .string right => left == right
  | .array left, .array right => entriesMatch left right
  | .object left, .object right => left.length == right.length && propertiesMatch left right
  | _, _ => false

def entriesMatch : List NormalizedJsonValue → List NormalizedJsonValue → Bool
  | [], [] => true
  | left :: lefts, right :: rights => jsonMatches left right && entriesMatch lefts rights
  | _, _ => false

/-- Every property of the first list stands in the second one. -/
def propertiesMatch : List (String × NormalizedJsonValue) → JsonProperties → Bool
  | [], _ => true
  | (key, value) :: properties, others =>
      (match JsonProperties.property others key with
        | some other => jsonMatches value other
        | none => false) && propertiesMatch properties others

end

/-- The JSON value of a scalar. -/
def scalarJson : ScalarValue → NormalizedJsonValue
  | .null => .null
  | .boolean value => .boolean value
  | .number value => .number value
  | .string value => .string value

end Kurobara.Kernel
