import Kurobara.Foundation.JsonTree
import Kurobara.Foundation.Keyed
import Mathlib.Data.List.Induction
import Mathlib.Data.List.Perm.Subperm

/-! # Objects of the runtime

Values that refer to objects with an identity: objects may be shared, and may refer to
themselves. A value unfolds to a JSON value when everything it refers to is plain data.
-/

namespace Kurobara.Foundation

variable {Ref : Type}

/-- A value of unknown type; `other` stands for big integers, functions and symbols. -/
inductive JsValue (Ref : Type) where
  | undefined
  | null
  | boolean (value : Bool)
  | number (value : JsNumber)
  | string (value : JsString)
  | object (ref : Ref)
  | other

/-- A property: its value, or an accessor. -/
inductive PropertyDescriptor (Ref : Type) where
  | data (value : JsValue Ref) (enumerable : Bool)
  | accessor (enumerable : Bool)

/-- The prototypes that a validation tells apart. -/
inductive JsPrototype where
  | objectPrototype
  | arrayPrototype
  | null
  | other
  deriving DecidableEq, Repr

/-- An object with its own properties; the `length` of an array is no entry of them. -/
structure JsObject (Ref : Type) where
  isArray : Bool
  length : ℕ
  prototype : JsPrototype
  symbols : ℕ
  properties : List (JsString × PropertyDescriptor Ref)
  distinct : (properties.map Prod.fst).Nodup
  unlisted : isArray = true → ascii "length" ∉ properties.map Prod.fst

/-- The objects of a program. -/
abbrev JsHeap (Ref : Type) := Ref → JsObject Ref

namespace JsObject

/-- The own property of a key. -/
def getOwnPropertyDescriptor (object : JsObject Ref) (key : JsString) :
    Option (PropertyDescriptor Ref) :=
  (object.properties.find? fun property => property.1 == key).map Prod.snd

/-- The names of the own properties, that of an array's length among them. -/
def getOwnPropertyNames (object : JsObject Ref) : List JsString :=
  object.properties.map Prod.fst ++ if object.isArray then [ascii "length"] else []

end JsObject

namespace JsObject

theorem getOwnPropertyDescriptor_iff {object : JsObject Ref} {key : JsString}
    {descriptor : PropertyDescriptor Ref} :
    object.getOwnPropertyDescriptor key = some descriptor ↔
      (key, descriptor) ∈ object.properties := by
  unfold getOwnPropertyDescriptor
  rw [Option.map_eq_some_iff]
  constructor
  · rintro ⟨property, found, rfl⟩
    obtain ⟨member, rfl⟩ := (find?_key_eq_some_iff object.distinct).mp found
    exact member
  · intro member
    exact ⟨_, (find?_key_eq_some_iff object.distinct).mpr ⟨member, rfl⟩, rfl⟩

end JsObject

/-- The value unfolds to plain JSON: every array and object it reaches has the usual prototype and
enumerable data properties only, and none is reached from itself. -/
inductive Inert (heap : JsHeap Ref) : JsValue Ref → JsonValue → Prop where
  | null : Inert heap .null .null
  | boolean (value : Bool) : Inert heap (.boolean value) (.boolean value)
  | number (value : Double) : Inert heap (.number (.finite value)) (.number (.finite value))
  | string (value : JsString) : Inert heap (.string value) (.string value)
  | array (ref : Ref) (values : List (JsValue Ref)) (entries : List JsonValue)
      (isArray : (heap ref).isArray = true) (plain : (heap ref).prototype = .arrayPrototype)
      (named : (heap ref).symbols = 0) (count : (heap ref).properties.length = (heap ref).length)
      (length : values.length = (heap ref).length) (lengths : entries.length = values.length)
      (own : ∀ (index : ℕ) (value : JsValue Ref), values[index]? = some value →
        (heap ref).getOwnPropertyDescriptor (decimalDigits index) = some (.data value true))
      (each : ∀ (index : ℕ) (value : JsValue Ref) (entry : JsonValue),
        values[index]? = some value → entries[index]? = some entry → Inert heap value entry) :
      Inert heap (.object ref) (.array entries)
  | object (ref : Ref) (values : List (JsString × JsValue Ref))
      (properties : List (JsString × JsonValue)) (isObject : (heap ref).isArray = false)
      (plain : (heap ref).prototype = .objectPrototype ∨ (heap ref).prototype = .null)
      (named : (heap ref).symbols = 0)
      (own : (heap ref).properties = values.map fun entry => (entry.1, .data entry.2 true))
      (keys : properties.map Prod.fst = values.map Prod.fst)
      (each : ∀ (index : ℕ) (value : JsString × JsValue Ref) (property : JsString × JsonValue),
        values[index]? = some value → properties[index]? = some property →
          Inert heap value.2 property.2) :
      Inert heap (.object ref) (.object properties)

/-- The entries of an array, read off its indices. -/
theorem Inert.ofEntries {heap : JsHeap Ref} {ref : Ref} {values : List (JsValue Ref)}
    {entries : List JsonValue} (isArray : (heap ref).isArray = true)
    (plain : (heap ref).prototype = .arrayPrototype) (named : (heap ref).symbols = 0)
    (count : (heap ref).properties.length = (heap ref).length)
    (own : List.Forall₂ (fun index value => (heap ref).getOwnPropertyDescriptor
      (decimalDigits index) = some (.data value true)) (List.range (heap ref).length) values)
    (each : List.Forall₂ (Inert heap) values entries) :
    Inert heap (.object ref) (.array entries) := by
  have length := own.length_eq
  rw [List.length_range] at length
  refine .array ref values entries isArray plain named count length.symm each.length_eq.symm ?_ ?_
  · intro index value found
    obtain ⟨inside, rfl⟩ := List.getElem?_eq_some_iff.mp found
    have taken := (List.forall₂_iff_get.mp own).2 index (by rw [List.length_range]; omega) inside
    simpa using taken
  · intro index value entry found read
    obtain ⟨inside, rfl⟩ := List.getElem?_eq_some_iff.mp found
    obtain ⟨written, rfl⟩ := List.getElem?_eq_some_iff.mp read
    exact (List.forall₂_iff_get.mp each).2 index inside written

/-- What an array unfolds to, index by index. -/
theorem Inert.entries {heap : JsHeap Ref} {ref : Ref} {entries : List JsonValue}
    (inert : Inert heap (.object ref) (.array entries)) :
    (heap ref).isArray = true ∧ (heap ref).prototype = .arrayPrototype ∧ (heap ref).symbols = 0 ∧
      (heap ref).properties.length = (heap ref).length ∧ entries.length = (heap ref).length ∧
      ∃ values, List.Forall₂ (fun index value => (heap ref).getOwnPropertyDescriptor
        (decimalDigits index) = some (.data value true)) (List.range (heap ref).length) values ∧
        List.Forall₂ (Inert heap) values entries := by
  cases inert with
  | array _ values _ isArray plain named count length lengths own each =>
      refine ⟨isArray, plain, named, count, lengths.trans length, values, ?_, ?_⟩
      · refine List.forall₂_iff_get.mpr ⟨by rw [List.length_range, length], ?_⟩
        intro index _ inside
        have taken := own index _ (List.getElem?_eq_getElem inside)
        simpa using taken
      · refine List.forall₂_iff_get.mpr ⟨lengths.symm, ?_⟩
        intro index inside written
        exact each index _ _ (List.getElem?_eq_getElem inside) (List.getElem?_eq_getElem written)

/-- The properties of an object, read off its names. -/
theorem Inert.ofProperties {heap : JsHeap Ref} {ref : Ref} {values : List (JsString × JsValue Ref)}
    {properties : List (JsString × JsonValue)} (isObject : (heap ref).isArray = false)
    (plain : (heap ref).prototype = .objectPrototype ∨ (heap ref).prototype = .null)
    (named : (heap ref).symbols = 0)
    (own : List.Forall₂ (fun key value => key = value.1 ∧
      (heap ref).getOwnPropertyDescriptor key = some (.data value.2 true))
      ((heap ref).properties.map Prod.fst) values)
    (each : List.Forall₂ (fun value property => property.1 = value.1 ∧
      Inert heap value.2 property.2) values properties) :
    Inert heap (.object ref) (.object properties) := by
  have length := own.length_eq
  rw [List.length_map] at length
  refine .object ref values properties isObject plain named ?_ ?_ ?_
  · refine List.ext_getElem (by rw [List.length_map, length]) fun index here there => ?_
    rw [List.length_map] at there
    have taken := (List.forall₂_iff_get.mp own).2 index (by rw [List.length_map]; exact here) there
    simp only [List.get_eq_getElem, List.getElem_map] at taken ⊢
    have stored := JsObject.getOwnPropertyDescriptor_iff.mpr
      (List.getElem_mem here : (heap ref).properties[index] ∈ _)
    exact Prod.ext taken.1 (Option.some.inj (stored.symm.trans taken.2))
  · refine List.ext_getElem ?_ fun index here there => ?_
    · rw [List.length_map, List.length_map, each.length_eq]
    · rw [List.length_map] at here there
      rw [List.getElem_map, List.getElem_map]
      exact ((List.forall₂_iff_get.mp each).2 index there here).1
  · intro index value property found read
    obtain ⟨inside, rfl⟩ := List.getElem?_eq_some_iff.mp found
    obtain ⟨written, rfl⟩ := List.getElem?_eq_some_iff.mp read
    exact ((List.forall₂_iff_get.mp each).2 index inside written).2

/-- What an object unfolds to, name by name. -/
theorem Inert.properties {heap : JsHeap Ref} {ref : Ref}
    {properties : List (JsString × JsonValue)}
    (inert : Inert heap (.object ref) (.object properties)) :
    (heap ref).isArray = false ∧
      ((heap ref).prototype = .objectPrototype ∨ (heap ref).prototype = .null) ∧
      (heap ref).symbols = 0 ∧ properties.length = (heap ref).properties.length ∧
      ∃ values : List (JsString × JsValue Ref), List.Forall₂ (fun key value => key = value.1 ∧
        (heap ref).getOwnPropertyDescriptor key = some (.data value.2 true))
        ((heap ref).properties.map Prod.fst) values ∧
        List.Forall₂ (fun value property => property.1 = value.1 ∧
          Inert heap value.2 property.2) values properties := by
  cases inert with
  | object _ values _ isObject plain named own keys each =>
      have length := congrArg List.length keys
      rw [List.length_map, List.length_map] at length
      have owned := congrArg List.length own
      rw [List.length_map] at owned
      refine ⟨isObject, plain, named, length.trans owned.symm, values, ?_, ?_⟩
      · refine List.forall₂_iff_get.mpr ⟨by rw [List.length_map, owned], ?_⟩
        intro index _ inside
        have stored : (values[index].1, PropertyDescriptor.data values[index].2 true) ∈
            (heap ref).properties := by
          rw [own]
          exact List.mem_map.mpr ⟨_, List.getElem_mem inside, rfl⟩
        have name : ((heap ref).properties.map Prod.fst)[index]? = some values[index].1 := by
          rw [own, List.map_map, List.getElem?_map, List.getElem?_eq_getElem inside]
          rfl
        obtain ⟨_, name⟩ := List.getElem?_eq_some_iff.mp name
        rw [List.get_eq_getElem, List.get_eq_getElem, name]
        exact ⟨rfl, JsObject.getOwnPropertyDescriptor_iff.mpr stored⟩
      · refine List.forall₂_iff_get.mpr ⟨length.symm, ?_⟩
        intro index inside written
        have named := congrArg (fun list => list[index]?) keys
        simp only [List.getElem?_map, List.getElem?_eq_getElem inside,
          List.getElem?_eq_getElem written, Option.map_some, Option.some.injEq] at named
        exact ⟨named, each index _ _ (List.getElem?_eq_getElem inside)
          (List.getElem?_eq_getElem written)⟩

/-! ## The indices of an array -/

private theorem decimalDigits_injective : Function.Injective decimalDigits := by
  intro left right same
  rw [← digitsValue_decimalDigits left, same, digitsValue_decimalDigits]

/-- `/^(0|[1-9][0-9]*)$/u`. -/
def isIndexName : JsString → Bool
  | [] => false
  | first :: rest =>
      if first = 48 then rest.isEmpty else isDigitUnit first && rest.all isDigitUnit

private theorem digitUnit_eq {unit : CodeUnit} (digit : isDigitUnit unit = true) :
    decimalDigits (digitsValue [unit]) = [unit] ∧ digitsValue [unit] < 10 := by
  have bounds := digit
  simp only [isDigitUnit, Bool.and_eq_true, decide_eq_true_eq, UInt16.le_iff_toNat_le] at bounds
  have value : digitsValue [unit] = unit.toNat - 48 := by
    rw [digitsValue, List.foldl_cons, List.foldl_nil, Nat.mul_zero, Nat.zero_add]
  have small : digitsValue [unit] < 10 := by
    have upper : (57 : CodeUnit).toNat = 57 := rfl
    omega
  have written : ∀ digit < 10, charUnit (Nat.digitChar digit) = UInt16.ofNat (48 + digit) := by
    decide
  refine ⟨?_, small⟩
  rw [decimalDigits, Nat.toDigits_of_lt_base small, List.map_singleton, written _ small, value]
  refine congrArg (fun unit => [unit]) ?_
  have lower : (48 : CodeUnit).toNat = 48 := rfl
  rw [show 48 + (unit.toNat - 48) = unit.toNat by omega, UInt16.ofNat_toNat]

/-- A name that begins with no zero is that of its value. -/
theorem decimalDigits_digitsValue {first : CodeUnit} {rest : JsString} (nonzero : first ≠ 48)
    (areDigits : ∀ unit ∈ first :: rest, isDigitUnit unit = true) :
    decimalDigits (digitsValue (first :: rest)) = first :: rest ∧
      0 < digitsValue (first :: rest) := by
  induction rest using List.reverseRecOn with
  | nil =>
      obtain ⟨written, _⟩ := digitUnit_eq (areDigits first List.mem_cons_self)
      refine ⟨written, Nat.pos_of_ne_zero fun zero => nonzero ?_⟩
      rw [zero] at written
      exact (List.cons.inj written).1.symm
  | append_singleton rest unit ih =>
      obtain ⟨written, positive⟩ := ih fun other member => areDigits other (by
        rcases List.mem_cons.mp member with rfl | inside
        · exact List.mem_cons_self
        · exact List.mem_cons_of_mem _ (List.mem_append_left _ inside))
      obtain ⟨single, small⟩ := digitUnit_eq (areDigits unit (by simp))
      have value : digitsValue (first :: (rest ++ [unit])) =
          digitsValue (first :: rest) * 10 + digitsValue [unit] := by
        rw [← List.cons_append, digitsValue_append, List.length_singleton, Nat.pow_one]
      rw [decimalDigits, Nat.toDigits_of_lt_base small] at single
      rw [value, decimalDigits, Nat.toDigits_of_base_le (by decide) (by omega), List.map_append,
        show (digitsValue (first :: rest) * 10 + digitsValue [unit]) / 10 =
          digitsValue (first :: rest) by omega,
        show (digitsValue (first :: rest) * 10 + digitsValue [unit]) % 10 =
          digitsValue [unit] by omega, single]
      change decimalDigits _ ++ _ = _ ∧ _
      rw [written]
      exact ⟨rfl, by omega⟩

/-- The names of indices are those their values are written with. -/
theorem isIndexName_iff {key : JsString} :
    isIndexName key = true ↔ decimalDigits (digitsValue key) = key := by
  constructor
  · intro named
    cases key with
    | nil => cases named
    | cons first rest =>
        rw [isIndexName] at named
        split_ifs at named with zero
        · rw [List.isEmpty_iff.mp named, zero]
          decide
        · rw [Bool.and_eq_true, List.all_eq_true] at named
          exact (decimalDigits_digitsValue zero (List.forall_mem_cons.mpr named)).1
  · intro written
    rw [← written]
    rcases Nat.eq_zero_or_pos (digitsValue key) with zero | positive
    · rw [zero]
      decide
    · obtain ⟨first, rest, split, nonzero⟩ := decimalDigits_head positive
      have areDigits : ∀ unit ∈ first :: rest, isDigitUnit unit = true := fun unit member =>
        decimalDigits_isDigit (split ▸ member)
      rw [split, isIndexName, if_neg nonzero, Bool.and_eq_true, List.all_eq_true]
      exact List.forall_mem_cons.mp areDigits

/-- Distinct names that hold every index are the indices when they are as many, which is when each
of them is an index. -/
theorem indexNames_iff {names : List JsString} (distinct : names.Nodup) {length : ℕ}
    (present : ∀ index < length, decimalDigits index ∈ names) :
    names.length = length ↔
      ∀ name ∈ names, isIndexName name = true ∧ digitsValue name < length := by
  have indices : ((List.range length).map decimalDigits).Nodup :=
    List.nodup_range.map decimalDigits_injective
  have size : ((List.range length).map decimalDigits).length = length := by
    rw [List.length_map, List.length_range]
  have inside : ((List.range length).map decimalDigits).Subperm names := by
    refine indices.subperm fun name member => ?_
    obtain ⟨index, below, rfl⟩ := List.mem_map.mp member
    exact present index (List.mem_range.mp below)
  constructor
  · intro count name member
    have same := inside.perm_of_length_le (by rw [size, count])
    obtain ⟨index, below, rfl⟩ := List.mem_map.mp (same.mem_iff.mpr member)
    rw [isIndexName_iff, digitsValue_decimalDigits]
    exact ⟨rfl, List.mem_range.mp below⟩
  · intro named
    have within : names.Subperm ((List.range length).map decimalDigits) := by
      refine distinct.subperm fun name member => ?_
      obtain ⟨index, below⟩ := named name member
      exact List.mem_map.mpr ⟨_, List.mem_range.mpr below, isIndexName_iff.mp index⟩
    have most := within.length_le
    have least := inside.length_le
    omega

/-! ## One unfolding -/

variable {heap : JsHeap Ref}

private theorem dataProperties_injective {lefts rights : List (JsString × JsValue Ref)}
    (same : (lefts.map fun entry => (entry.1, PropertyDescriptor.data entry.2 true)) =
      rights.map fun entry => (entry.1, PropertyDescriptor.data entry.2 true)) :
    lefts = rights := by
  refine (List.map_injective_iff.mpr ?_) same
  rintro ⟨leftKey, left⟩ ⟨rightKey, right⟩ equal
  cases equal
  rfl

/-- A value unfolds in one way. -/
theorem Inert.unique {value : JsValue Ref} {left right : JsonValue}
    (one : Inert heap value left) (other : Inert heap value right) : left = right := by
  induction one generalizing right with
  | null => cases other; rfl
  | boolean value => cases other; rfl
  | number value => cases other; rfl
  | string value => cases other; rfl
  | array ref values entries isArray _ _ _ length lengths own _ ih =>
      cases other with
      | object _ _ _ isObject => rw [isArray] at isObject; cases isObject
      | array _ others entries' _ _ _ _ length' lengths' own' each' =>
          have same : values = others := by
            refine List.ext_getElem? fun index => ?_
            by_cases inside : index < (heap ref).length
            · have here : values[index]? = some values[index] := List.getElem?_eq_getElem _
              have there : others[index]? = some others[index] := List.getElem?_eq_getElem _
              have found := (own index _ here).symm.trans (own' index _ there)
              simp only [Option.some.injEq, PropertyDescriptor.data.injEq, and_true] at found
              rw [here, there, found]
            · rw [List.getElem?_eq_none (by omega), List.getElem?_eq_none (by omega)]
          subst same
          refine congrArg JsonValue.array (List.ext_getElem? fun index => ?_)
          by_cases inside : index < values.length
          · have left : entries[index]? = some entries[index] := List.getElem?_eq_getElem _
            have right : entries'[index]? = some entries'[index] := List.getElem?_eq_getElem _
            have value : values[index]? = some values[index] := List.getElem?_eq_getElem _
            rw [left, right, ih index _ _ value left (each' index _ _ value right)]
          · rw [List.getElem?_eq_none (by omega), List.getElem?_eq_none (by omega)]
  | object ref values properties isObject _ _ own keys _ ih =>
      cases other with
      | array _ _ _ isArray => rw [isObject] at isArray; cases isArray
      | object _ others properties' _ _ _ own' keys' each' =>
          have same := dataProperties_injective (own.symm.trans own')
          subst same
          have size := congrArg List.length keys
          have size' := congrArg List.length keys'
          rw [List.length_map, List.length_map] at size size'
          refine congrArg JsonValue.object (List.ext_getElem? fun index => ?_)
          by_cases inside : index < values.length
          · have left : properties[index]? = some properties[index] := List.getElem?_eq_getElem _
            have right : properties'[index]? = some properties'[index] :=
              List.getElem?_eq_getElem _
            have value : values[index]? = some values[index] := List.getElem?_eq_getElem _
            have named := congrArg (fun list => list[index]?) (keys.trans keys'.symm)
            simp only [List.getElem?_map, left, right, Option.map_some, Option.some.injEq] at named
            rw [left, right, Option.some.injEq]
            exact Prod.ext named (ih index _ _ value left (each' index _ _ value right))
          · rw [List.getElem?_eq_none (by omega), List.getElem?_eq_none (by omega)]

/-- What a value unfolds to is JSON: its numbers are finite, and no key is repeated. -/
theorem Inert.isJson {value : JsValue Ref} {json : JsonValue} (inert : Inert heap value json) :
    IsJson json := by
  induction inert with
  | null => exact .null
  | boolean value => exact .boolean value
  | number value => exact .number value
  | string value => exact .string value
  | array ref values entries _ _ _ _ _ lengths _ _ ih =>
      refine .array entries fun entry member => ?_
      obtain ⟨index, inside, rfl⟩ := List.getElem_of_mem member
      exact ih index _ _ (List.getElem?_eq_getElem (lengths ▸ inside))
        (List.getElem?_eq_getElem inside)
  | object ref values properties _ _ _ own keys _ ih =>
      have size := congrArg List.length keys
      rw [List.length_map, List.length_map] at size
      refine .object properties ?_ fun property member => ?_
      · have distinct := (heap ref).distinct
        rw [own, List.map_map] at distinct
        rw [keys]
        exact distinct
      · obtain ⟨index, inside, rfl⟩ := List.getElem_of_mem member
        exact ih index _ _ (List.getElem?_eq_getElem (size ▸ inside))
          (List.getElem?_eq_getElem inside)

/-! ## The objects of a JSON value -/

/-- A position in a JSON value: the entry to take at each level. -/
abbrev JsonPath := List ℕ

/-- A fresh object for every array and object of a JSON value. -/
def plainValue (path : JsonPath) : JsonValue → JsValue JsonPath
  | .null => .null
  | .boolean value => .boolean value
  | .number value => .number value
  | .string value => .string value
  | .array _ => .object path
  | .object _ => .object path

private def plainEntries (path : JsonPath) (entries : List JsonValue) :
    List (JsString × JsValue JsonPath) :=
  entries.mapIdx fun index entry => (decimalDigits index, plainValue (path ++ [index]) entry)

private def plainProperties (path : JsonPath) (properties : List (JsString × JsonValue)) :
    List (JsString × JsValue JsonPath) :=
  properties.mapIdx fun index property =>
    (property.1, plainValue (path ++ [index]) property.2)

private theorem plainEntries_keys (path : JsonPath) (entries : List JsonValue) :
    (plainEntries path entries).map Prod.fst =
      (List.range entries.length).map decimalDigits := by
  refine List.ext_getElem? fun index => ?_
  rw [plainEntries, List.getElem?_map, List.getElem?_mapIdx, List.getElem?_map]
  by_cases inside : index < entries.length
  · rw [List.getElem?_eq_getElem inside, List.getElem?_range inside]
    rfl
  · rw [List.getElem?_eq_none (by omega), List.getElem?_eq_none (by simpa using inside)]
    rfl

/-- No index is written as `length`. -/
theorem length_ne_index (index : ℕ) : ascii "length" ≠ decimalDigits index := by
  intro same
  have digit := @decimalDigits_isDigit index 108 (same ▸ List.mem_cons_self)
  revert digit
  decide

private theorem plainEntries_distinct (path : JsonPath) (entries : List JsonValue) :
    ((plainEntries path entries).map Prod.fst).Nodup ∧
      ascii "length" ∉ (plainEntries path entries).map Prod.fst := by
  rw [plainEntries_keys]
  refine ⟨List.nodup_range.map decimalDigits_injective, fun member => ?_⟩
  obtain ⟨index, _, same⟩ := List.mem_map.mp member
  exact length_ne_index index same.symm

private theorem plainProperties_keys (path : JsonPath) (properties : List (JsString × JsonValue)) :
    (plainProperties path properties).map Prod.fst = properties.map Prod.fst := by
  refine List.ext_getElem? fun index => ?_
  rw [plainProperties, List.getElem?_map, List.getElem?_mapIdx, List.getElem?_map]
  cases properties[index]? <;> rfl

/-- Own enumerable data properties, if they can be those of one object. -/
def plainObject (isArray : Bool) (length : ℕ) (prototype : JsPrototype)
    (values : List (JsString × JsValue JsonPath)) : JsObject JsonPath :=
  if own : (values.map Prod.fst).Nodup ∧
      (isArray = true → ascii "length" ∉ values.map Prod.fst) then
    ⟨isArray, length, prototype, 0, values.map fun entry => (entry.1, .data entry.2 true),
      by rw [List.map_map]; exact own.1, by rw [List.map_map]; exact own.2⟩
  else ⟨isArray, length, prototype, 0, [], List.nodup_nil, fun _ => List.not_mem_nil⟩

private def JsonValue.object? (path : JsonPath) : JsonValue → JsObject JsonPath
  | .array entries => plainObject true entries.length .arrayPrototype (plainEntries path entries)
  | .object properties => plainObject false 0 .null (plainProperties path properties)
  | _ => plainObject false 0 .null []

/-- What stands in a JSON value at a path. -/
def JsonValue.at : JsonValue → JsonPath → Option JsonValue
  | value, [] => some value
  | .array entries, index :: rest => entries[index]?.bind fun entry => entry.at rest
  | .object properties, index :: rest => properties[index]?.bind fun property => property.2.at rest
  | _, _ :: _ => none

/-- The heap of the fresh objects of a JSON value. -/
def plainHeap (root : JsonValue) : JsHeap JsonPath := fun path =>
  match root.at path with
  | some value => value.object? path
  | none => plainObject false 0 .null []

private theorem at_append (root : JsonValue) (path rest : JsonPath) :
    root.at (path ++ rest) = (root.at path).bind fun value => value.at rest := by
  induction path generalizing root with
  | nil => rw [List.nil_append, JsonValue.at, Option.bind_some]
  | cons index path ih =>
      cases root with
      | array entries =>
          rw [List.cons_append, JsonValue.at, JsonValue.at]
          cases entries[index]? with
          | none => rfl
          | some entry => exact ih entry
      | object properties =>
          rw [List.cons_append, JsonValue.at, JsonValue.at]
          cases properties[index]? with
          | none => rfl
          | some property => exact ih property.2
      | _ => rfl

private theorem plainObject_distinct {isArray : Bool} {length : ℕ} {prototype : JsPrototype}
    {values : List (JsString × JsValue JsonPath)} (distinct : (values.map Prod.fst).Nodup)
    (unlisted : isArray = true → ascii "length" ∉ values.map Prod.fst) :
    (plainObject isArray length prototype values).properties =
      values.map fun entry => (entry.1, .data entry.2 true) := by
  unfold plainObject
  rw [dif_pos ⟨distinct, unlisted⟩]

@[simp] theorem plainObject_shape (isArray : Bool) (length : ℕ) (prototype : JsPrototype)
    (values : List (JsString × JsValue JsonPath)) :
    (plainObject isArray length prototype values).isArray = isArray ∧
      (plainObject isArray length prototype values).length = length ∧
      (plainObject isArray length prototype values).prototype = prototype ∧
      (plainObject isArray length prototype values).symbols = 0 := by
  unfold plainObject
  split_ifs <;> exact ⟨rfl, rfl, rfl, rfl⟩

/-- **The fresh objects of a JSON value unfold to it.** -/
theorem inert_plainHeap {root value : JsonValue} (isJson : IsJson value) :
    ∀ {path : JsonPath}, root.at path = some value →
      Inert (plainHeap root) (plainValue path value) value := by
  induction isJson with
  | null => exact fun _ => .null
  | boolean value => exact fun _ => .boolean value
  | number value => exact fun _ => .number value
  | string value => exact fun _ => .string value
  | array entries _ ih =>
      intro path found
      have here : plainHeap root path =
          plainObject true entries.length .arrayPrototype (plainEntries path entries) := by
        rw [plainHeap, found]
        rfl
      obtain ⟨isArray, length, prototype, symbols⟩ :=
        plainObject_shape true entries.length .arrayPrototype (plainEntries path entries)
      have own := @plainObject_distinct true entries.length .arrayPrototype _
        (plainEntries_distinct path entries).1 fun _ => (plainEntries_distinct path entries).2
      rw [← here] at isArray length prototype symbols own
      refine .array path ((plainEntries path entries).map Prod.snd) entries isArray prototype
        symbols
        ?_ ?_ ?_ ?_ ?_
      · rw [own, length, List.length_map, plainEntries, List.length_mapIdx]
      · rw [length, List.length_map, plainEntries, List.length_mapIdx]
      · rw [List.length_map, plainEntries, List.length_mapIdx]
      · intro index value there
        rw [plainEntries, List.getElem?_map, List.getElem?_mapIdx, Option.map_map,
          Option.map_eq_some_iff] at there
        obtain ⟨entry, inside, rfl⟩ := there
        rw [JsObject.getOwnPropertyDescriptor_iff, own]
        refine List.mem_map.mpr ⟨(decimalDigits index, plainValue (path ++ [index]) entry), ?_, rfl⟩
        refine List.mem_of_getElem? (i := index) ?_
        rw [plainEntries, List.getElem?_mapIdx, inside, Option.map_some]
      · intro index value entry there inside
        rw [plainEntries, List.getElem?_map, List.getElem?_mapIdx, inside, Option.map_some,
          Option.map_some, Option.some.injEq] at there
        subst there
        refine ih entry (List.mem_of_getElem? inside) ?_
        rw [at_append, found, Option.bind_some, JsonValue.at, inside, Option.bind_some,
          JsonValue.at]
  | object properties distinct _ ih =>
      intro path found
      have here : plainHeap root path =
          plainObject false 0 .null (plainProperties path properties) := by
        rw [plainHeap, found]
        rfl
      obtain ⟨isObject, _, prototype, symbols⟩ :=
        plainObject_shape false 0 .null (plainProperties path properties)
      have own := @plainObject_distinct false 0 .null _
        ((plainProperties_keys path properties).symm ▸ distinct) fun isArray => (by cases isArray)
      rw [← here] at isObject prototype symbols own
      refine .object path (plainProperties path properties) properties isObject (.inr prototype)
        symbols own (plainProperties_keys path properties).symm ?_
      intro index value property there inside
      rw [plainProperties, List.getElem?_mapIdx, inside, Option.map_some,
        Option.some.injEq] at there
      subst there
      refine ih property (List.mem_of_getElem? inside) ?_
      rw [at_append, found, Option.bind_some, JsonValue.at, inside, Option.bind_some, JsonValue.at]

/-- Which of the plain prototypes an object has does not matter. -/
theorem Inert.withPrototypes {heap other : JsHeap Ref}
    (same : ∀ ref, other ref = { heap ref with prototype := (other ref).prototype })
    (arrays : ∀ ref, (heap ref).isArray = true → (other ref).prototype = .arrayPrototype)
    (objects : ∀ ref, (heap ref).isArray = false →
      (other ref).prototype = .objectPrototype ∨ (other ref).prototype = .null)
    {value : JsValue Ref} {json : JsonValue} (inert : Inert heap value json) :
    Inert other value json := by
  induction inert with
  | null => exact .null
  | boolean value => exact .boolean value
  | number value => exact .number value
  | string value => exact .string value
  | array ref values entries isArray _ named count length lengths own _ ih =>
      have shape := same ref
      refine .array ref values entries ?_ (arrays ref isArray) ?_ ?_ ?_ lengths ?_ ih
      · rw [shape]; exact isArray
      · rw [shape]; exact named
      · rw [shape]; exact count
      · rw [shape]; exact length
      · intro index value found
        rw [shape]
        exact own index value found
  | object ref values properties isObject _ named own keys _ ih =>
      have shape := same ref
      refine .object ref values properties ?_ (objects ref isObject) ?_ ?_ keys ih
      · rw [shape]; exact isObject
      · rw [shape]; exact named
      · rw [shape]; exact own

end Kurobara.Foundation
