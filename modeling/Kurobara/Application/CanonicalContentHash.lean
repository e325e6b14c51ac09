import Kurobara.Foundation.Keyed
import Kurobara.Foundation.JsonText

/-! # Canonical content

`serializeCanonical`: the JSON text of a content value with the keys of every object in the
order of their code units. Content is hashed, and its size is counted, through this text.
-/

namespace Kurobara.Application

open Foundation

/-- A value of unknown type; `unsupported` stands for a big integer, a function or a symbol. -/
inductive ContentValue where
  | null
  | undefined
  | boolean (value : Bool)
  | number (value : JsNumber)
  | string (value : JsString)
  | array (entries : List ContentValue)
  | object (properties : List (JsString × ContentValue))
  | unsupported (kind : String)

/-- The two kinds of `TypeError` that a value without JSON text is refused with. -/
inductive ContentTypeError where
  | nonFinite
  | unsupported (kind : String)
  deriving DecidableEq, Repr

def ContentTypeError.message : ContentTypeError → String
  | .nonFinite => "Canonical content cannot contain non-finite numbers."
  | .unsupported kind => "Canonical content cannot contain " ++ kind ++ "."

/-- The order of `compareKeys`, by UTF-16 code units. -/
def compareKeys (left right : JsString) : ℤ :=
  if isLess left right then -1 else if isLess right left then 1 else 0

/-- Entries in the order in which a stable sort by `compareKeys` leaves them. -/
def sortedByKey {Value : Type} (entries : List (JsString × Value)) : List (JsString × Value) :=
  entries.mergeSort fun left right => decide (compareKeys left.1 right.1 ≤ 0)

def ContentValue.isUndefined : ContentValue → Bool
  | .undefined => true
  | _ => false

abbrev Serialized := Except ContentTypeError JsString

/-- The texts of all entries, or the first error among them. -/
def joinSerialized (texts : List Serialized) : Serialized :=
  (texts.mapM id).map joinComma

mutual

/-- The text of a value, or the error of the first part that has none. -/
def serializeCanonical : ContentValue → Serialized
  | .null => .ok (ascii "null")
  | .boolean true => .ok (ascii "true")
  | .boolean false => .ok (ascii "false")
  | .string value => .ok (quoted value)
  | .number (.finite value) => .ok value.text
  | .number _ => .error .nonFinite
  | .array entries =>
      (joinSerialized (serializeEntries entries)).map fun text => 91 :: (text ++ [93])
  | .object properties =>
      let entries := sortedByKey (serializeProperties properties)
      (joinSerialized (entries.map fun (key, text) =>
        text.map fun text => quoted key ++ 58 :: text)).map fun text => 123 :: (text ++ [125])
  | .undefined => .error (.unsupported "undefined")
  | .unsupported kind => .error (.unsupported kind)

def serializeEntries : List ContentValue → List Serialized
  | [] => []
  | entry :: rest => serializeCanonical entry :: serializeEntries rest

/-- The properties with a value, each with its text. -/
def serializeProperties : List (JsString × ContentValue) → List (JsString × Serialized)
  | [] => []
  | (key, value) :: rest =>
      if value.isUndefined then serializeProperties rest
      else (key, serializeCanonical value) :: serializeProperties rest

end

mutual

/-- A JSON value as content. -/
def ContentValue.ofJson : JsonValue → ContentValue
  | .null => .null
  | .boolean value => .boolean value
  | .number value => .number value
  | .string value => .string value
  | .array entries => .array (ContentValue.ofEntries entries)
  | .object properties => .object (ContentValue.ofProperties properties)

def ContentValue.ofEntries : List JsonValue → List ContentValue
  | [] => []
  | entry :: rest => ContentValue.ofJson entry :: ContentValue.ofEntries rest

def ContentValue.ofProperties : List (JsString × JsonValue) → List (JsString × ContentValue)
  | [] => []
  | (key, value) :: rest => (key, ContentValue.ofJson value) :: ContentValue.ofProperties rest

end

/-! ## Sorted keys -/

private theorem compareKeys_le {left right : JsString} :
    decide (compareKeys left right ≤ 0) = !isLess right left := by
  unfold compareKeys
  cases less : isLess left right with
  | true =>
      have notGreater : isLess right left = false := by
        cases greater : isLess right left with
        | false => rfl
        | true =>
            rcases not_isLess_total left right with one | two
            · rw [less] at one
              cases one
            · rw [greater] at two
              cases two
      rw [notGreater]
      rfl
  | false => cases isLess right left <;> rfl

section

variable {Value : Type} {entries : List (JsString × Value)}

theorem sortedByKey_perm : (sortedByKey entries).Perm entries :=
  List.mergeSort_perm entries _

private theorem sortedByKey_pairwise :
    (sortedByKey entries).Pairwise fun left right => isLess right.1 left.1 = false := by
  refine List.Pairwise.imp ?_ (List.pairwise_mergeSort ?_ ?_ entries)
  · intro left right before
    rw [compareKeys_le, Bool.not_eq_true'] at before
    exact before
  · intro first second third one two
    rw [compareKeys_le, Bool.not_eq_true'] at one two ⊢
    exact not_isLess_trans one two
  · intro left right
    rw [compareKeys_le, compareKeys_le, Bool.or_eq_true, Bool.not_eq_true', Bool.not_eq_true']
    exact (not_isLess_total left.1 right.1).symm

/-- Under distinct keys the sorted entries do not depend on the order they came in. -/
theorem sortedByKey_unique {others : List (JsString × Value)}
    (distinct : (entries.map Prod.fst).Nodup) (same : entries.Perm others) :
    sortedByKey entries = sortedByKey others := by
  refine List.Perm.eq_of_pairwise ?_ sortedByKey_pairwise sortedByKey_pairwise
    ((sortedByKey_perm.trans same).trans sortedByKey_perm.symm)
  intro left right leftMember rightMember one two
  have key := eq_of_not_isLess two one
  have leftEntry := sortedByKey_perm.mem_iff.mp leftMember
  have rightEntry := same.mem_iff.mpr (sortedByKey_perm.mem_iff.mp rightMember)
  exact List.inj_on_of_nodup_map distinct leftEntry rightEntry key

/-- Sorting by key commutes with a change of the values. -/
theorem sortedByKey_map {Other : Type} (change : Value → Other) :
    sortedByKey (entries.map fun entry => (entry.1, change entry.2)) =
      (sortedByKey entries).map fun entry => (entry.1, change entry.2) := by
  unfold sortedByKey
  rw [List.map_mergeSort]
  intro left _ right _
  rfl

end

mutual

/-- A JSON value with the keys of every object in order. -/
def sortKeys : JsonValue → JsonValue
  | .array entries => .array (sortEntries entries)
  | .object properties => .object (sortedByKey (sortProperties properties))
  | .null => .null
  | .boolean value => .boolean value
  | .number value => .number value
  | .string value => .string value

def sortEntries : List JsonValue → List JsonValue
  | [] => []
  | entry :: rest => sortKeys entry :: sortEntries rest

def sortProperties : List (JsString × JsonValue) → List (JsString × JsonValue)
  | [] => []
  | (key, value) :: rest => (key, sortKeys value) :: sortProperties rest

end

theorem sortEntries_eq (entries : List JsonValue) : sortEntries entries = entries.map sortKeys := by
  induction entries with
  | nil => rfl
  | cons entry rest ih => rw [sortEntries, ih, List.map_cons]

theorem sortProperties_eq (properties : List (JsString × JsonValue)) :
    sortProperties properties = properties.map fun property =>
      (property.1, sortKeys property.2) := by
  induction properties with
  | nil => rfl
  | cons property rest ih => rw [sortProperties, ih, List.map_cons]

private theorem sortProperties_keys (properties : List (JsString × JsonValue)) :
    (sortProperties properties).map Prod.fst = properties.map Prod.fst := by
  rw [sortProperties_eq, List.map_map]
  rfl

private theorem mem_sortedProperties {properties : List (JsString × JsonValue)}
    {property : JsString × JsonValue} :
    property ∈ sortedByKey (sortProperties properties) ↔
      ∃ value, (property.1, value) ∈ properties ∧ sortKeys value = property.2 := by
  rw [sortedByKey_perm.mem_iff, sortProperties_eq, List.mem_map]
  constructor
  · rintro ⟨⟨key, value⟩, member, rfl⟩
    exact ⟨value, member, rfl⟩
  · rintro ⟨value, member, same⟩
    exact ⟨(property.1, value), member, by rw [same]⟩

private theorem sortedProperties_keys (properties : List (JsString × JsonValue)) :
    ((sortedByKey (sortProperties properties)).map Prod.fst).Perm (properties.map Prod.fst) := by
  rw [← sortProperties_keys properties]
  exact sortedByKey_perm.map Prod.fst

private theorem isJson_sortKeys {value : JsonValue} (isJson : IsJson value) : IsJson
    (sortKeys value) := by
  induction isJson with
  | null => exact .null
  | boolean value => exact .boolean value
  | number value => exact .number value
  | string value => exact .string value
  | array entries _ ih =>
      rw [sortKeys, sortEntries_eq]
      refine .array _ fun entry member => ?_
      obtain ⟨original, inside, rfl⟩ := List.mem_map.mp member
      exact ih original inside
  | object properties distinct _ ih =>
      rw [sortKeys]
      refine .object _ ((sortedProperties_keys properties).nodup_iff.mpr distinct) ?_
      intro property member
      obtain ⟨value, inside, same⟩ := mem_sortedProperties.mp member
      rw [← same]
      exact ih (property.1, value) inside

/-! ## The canonical text -/

private theorem joinSerialized_ok (texts : List JsString) :
    joinSerialized (texts.map Except.ok) = .ok (joinComma texts) := by
  have all : (texts.map Except.ok).mapM id = (.ok texts : Except ContentTypeError _) := by
    induction texts with
    | nil => rfl
    | cons text rest ih =>
        rw [List.map_cons, List.mapM_cons, ih]
        rfl
  rw [joinSerialized, all]
  rfl

private theorem isUndefined_ofJson (value : JsonValue) : (ContentValue.ofJson value).isUndefined =
    false := by
  cases value <;> rw [ContentValue.ofJson] <;> rfl

private theorem stringifyProperties_eq (properties : List (JsString × JsonValue)) :
    stringifyProperties properties = properties.map fun property =>
      quoted property.1 ++ 58 :: stringify property.2 := by
  induction properties with
  | nil => rfl
  | cons property rest ih => rw [stringifyProperties, ih, List.map_cons]

private theorem serializeEntries_ofJson {entries : List JsonValue}
    (serialized : ∀ entry ∈ entries,
      serializeCanonical (.ofJson entry) = .ok (stringify (sortKeys entry))) :
    serializeEntries (ContentValue.ofEntries entries) =
      (stringifyEntries (sortEntries entries)).map Except.ok := by
  induction entries with
  | nil => rfl
  | cons entry rest ih =>
      rw [ContentValue.ofEntries, serializeEntries, serialized entry List.mem_cons_self,
        ih fun other member => serialized other (List.mem_cons_of_mem _ member)]
      rfl

private theorem serializeProperties_ofJson {properties : List (JsString × JsonValue)}
    (serialized : ∀ property ∈ properties,
      serializeCanonical (.ofJson property.2) = .ok (stringify (sortKeys property.2))) :
    serializeProperties (ContentValue.ofProperties properties) =
      (sortProperties properties).map fun property =>
        (property.1, Except.ok (stringify property.2)) := by
  induction properties with
  | nil => rfl
  | cons property rest ih =>
      rw [ContentValue.ofProperties, serializeProperties,
        if_neg (by rw [isUndefined_ofJson]; exact Bool.false_ne_true),
        serialized property List.mem_cons_self,
        ih fun other member => serialized other (List.mem_cons_of_mem _ member)]
      rfl

/-- **The canonical text is the JSON text of the value with sorted keys.** -/
theorem serializeCanonical_ofJson {value : JsonValue} (isJson : IsJson value) :
    serializeCanonical (.ofJson value) = .ok (stringify (sortKeys value)) := by
  induction isJson with
  | null => rfl
  | boolean value => cases value <;> rfl
  | number value => rfl
  | string value => rfl
  | array entries _ ih =>
      rw [ContentValue.ofJson, serializeCanonical, serializeEntries_ofJson ih, joinSerialized_ok]
      rfl
  | object properties _ _ ih =>
      rw [ContentValue.ofJson, serializeCanonical]
      dsimp only
      rw [serializeProperties_ofJson ih,
        sortedByKey_map fun value => (Except.ok (stringify value) : Serialized), List.map_map]
      have texts : ((sortedByKey (sortProperties properties)).map
          ((fun entry : JsString × Serialized =>
            entry.2.map fun text => quoted entry.1 ++ 58 :: text) ∘
              fun property => (property.1, Except.ok (stringify property.2)))) =
          (stringifyProperties (sortedByKey (sortProperties properties))).map Except.ok := by
        rw [stringifyProperties_eq, List.map_map]
        rfl
      rw [texts, joinSerialized_ok]
      rfl

/-! ## Values up to the order of their keys -/

/-- Equal up to the order of object keys at every depth. -/
inductive SameJson : JsonValue → JsonValue → Prop where
  | null : SameJson .null .null
  | boolean (value : Bool) : SameJson (.boolean value) (.boolean value)
  | number (value : JsNumber) : SameJson (.number value) (.number value)
  | string (value : JsString) : SameJson (.string value) (.string value)
  | array {lefts rights : List JsonValue} (length : lefts.length = rights.length)
      (entries : ∀ (index : ℕ) (left right : JsonValue), lefts[index]? = some left →
        rights[index]? = some right → SameJson left right) :
      SameJson (.array lefts) (.array rights)
  | object {lefts rights : List (JsString × JsonValue)}
      (keys : (lefts.map Prod.fst).Perm (rights.map Prod.fst))
      (values : ∀ (key : JsString) (left right : JsonValue), (key, left) ∈ lefts →
        (key, right) ∈ rights → SameJson left right) :
      SameJson (.object lefts) (.object rights)

private theorem property_unique {properties : List (JsString × JsonValue)} {key : JsString}
    {left right : JsonValue} (distinct : (properties.map Prod.fst).Nodup)
    (leftMember : (key, left) ∈ properties) (rightMember : (key, right) ∈ properties) :
    left = right :=
  congrArg Prod.snd (List.inj_on_of_nodup_map distinct leftMember rightMember rfl)

/-- Sorting the keys changes their order only. -/
theorem sameJson_sortKeys {value : JsonValue} (isJson : IsJson value) :
    SameJson (sortKeys value) value := by
  induction isJson with
  | null => exact .null
  | boolean value => exact .boolean value
  | number value => exact .number _
  | string value => exact .string value
  | array entries _ ih =>
      rw [sortKeys, sortEntries_eq]
      refine .array (List.length_map _) ?_
      intro index left right leftAt rightAt
      rw [List.getElem?_map, rightAt, Option.map_some] at leftAt
      cases leftAt
      exact ih right (List.mem_of_getElem? rightAt)
  | object properties distinct _ ih =>
      rw [sortKeys]
      refine .object (sortedProperties_keys properties) ?_
      intro key left right leftMember rightMember
      obtain ⟨value, inside, rfl⟩ := mem_sortedProperties.mp leftMember
      rw [property_unique distinct inside rightMember]
      exact ih (key, right) rightMember

private theorem SameJson.sortKeys_eq {left right : JsonValue} (same : SameJson left right)
    (leftJson : IsJson left) (rightJson : IsJson right) : sortKeys left = sortKeys right := by
  induction same with
  | null => rfl
  | boolean value => rfl
  | number value => rfl
  | string value => rfl
  | array length _ ih =>
      cases leftJson with
      | array _ leftEntries =>
          cases rightJson with
          | array _ rightEntries =>
              rw [sortKeys, sortKeys, sortEntries_eq, sortEntries_eq]
              refine congrArg _ (List.ext_getElem (by simpa using length) ?_)
              intro index inLeft inRight
              rw [List.length_map] at inLeft inRight
              rw [List.getElem_map, List.getElem_map]
              exact ih index _ _ (List.getElem?_eq_getElem inLeft)
                (List.getElem?_eq_getElem inRight) (leftEntries _ (List.getElem_mem inLeft))
                (rightEntries _ (List.getElem_mem inRight))
  | @object lefts rights keys _ ih =>
      cases leftJson with
      | object _ leftDistinct leftValues =>
          cases rightJson with
          | object _ rightDistinct rightValues =>
              have distinct : ∀ {properties : List (JsString × JsonValue)},
                  (properties.map Prod.fst).Nodup → (sortProperties properties).Nodup := by
                intro properties nodup
                rw [← sortProperties_keys] at nodup
                exact nodup.of_map
              rw [sortKeys, sortKeys]
              refine congrArg _ (sortedByKey_unique ?_ ?_)
              · rw [sortProperties_keys]
                exact leftDistinct
              · rw [List.perm_ext_iff_of_nodup (distinct leftDistinct) (distinct rightDistinct)]
                intro property
                rw [← sortedByKey_perm.mem_iff,
                  ← (@sortedByKey_perm _ (sortProperties rights)).mem_iff,
                  mem_sortedProperties, mem_sortedProperties]
                constructor
                · rintro ⟨value, member, sorted⟩
                  obtain ⟨⟨key, other⟩, inside, named⟩ := List.mem_map.mp
                    (keys.mem_iff.mp (List.mem_map_of_mem member))
                  cases named
                  refine ⟨other, inside, ?_⟩
                  rw [← sorted]
                  exact (ih _ value other member inside (leftValues _ member)
                    (rightValues _ inside)).symm
                · rintro ⟨value, member, sorted⟩
                  obtain ⟨⟨key, other⟩, inside, named⟩ := List.mem_map.mp
                    (keys.mem_iff.mpr (List.mem_map_of_mem member))
                  cases named
                  refine ⟨other, inside, ?_⟩
                  rw [← sorted]
                  exact ih _ other value inside member (leftValues _ inside)
                    (rightValues _ member)

/-- Values with the same sorted form are the same up to the order of their keys. -/
theorem sameJson_of_sortKeys {left : JsonValue} (leftJson : IsJson left) :
    ∀ {right : JsonValue}, IsJson right → sortKeys left = sortKeys right → SameJson left right := by
  induction leftJson with
  | null =>
      intro right rightJson same
      cases rightJson <;> cases same
      exact .null
  | boolean value =>
      intro right rightJson same
      cases rightJson <;> cases same
      exact .boolean value
  | number value =>
      intro right rightJson same
      cases rightJson <;> cases same
      exact .number _
  | string value =>
      intro right rightJson same
      cases rightJson <;> cases same
      exact .string value
  | array entries _ ih =>
      intro right rightJson same
      cases rightJson with
      | array others areJson =>
          rw [sortKeys, sortKeys, sortEntries_eq, sortEntries_eq, JsonValue.array.injEq] at same
          refine .array (by simpa using congrArg List.length same) ?_
          intro index left right leftAt rightAt
          have sorted := congrArg (fun entries => entries[index]?) same
          simp only [List.getElem?_map, leftAt, rightAt, Option.map_some,
            Option.some.injEq] at sorted
          exact ih left (List.mem_of_getElem? leftAt)
            (areJson right (List.mem_of_getElem? rightAt)) sorted
      | _ => cases same
  | object properties distinct _ ih =>
      intro right rightJson same
      cases rightJson with
      | object others otherDistinct areJson =>
          rw [sortKeys, sortKeys, JsonValue.object.injEq] at same
          have keys := (sortedProperties_keys properties).symm.trans
            (same ▸ sortedProperties_keys others)
          refine .object keys ?_
          intro key left right leftMember rightMember
          have sorted : (key, sortKeys left) ∈ sortedByKey (sortProperties others) := by
            rw [← same]
            exact mem_sortedProperties.mpr ⟨left, leftMember, rfl⟩
          obtain ⟨other, inside, equal⟩ := mem_sortedProperties.mp sorted
          rw [property_unique otherDistinct inside rightMember] at equal
          exact ih (key, left) leftMember (areJson (key, right) rightMember) equal.symm
      | _ => cases same

/-- **Canonical JSON is canonical.** Two JSON values have one canonical text exactly when they
are equal up to the order of their keys, and the text parses back to the value. -/
theorem serializeCanonical_isCanonical {left right : JsonValue} (leftJson : IsJson left)
    (rightJson : IsJson right) :
    (serializeCanonical (.ofJson left) = serializeCanonical (.ofJson right) ↔
      SameJson left right) ∧
    ∃ text parsed, serializeCanonical (.ofJson left) = .ok text ∧
      parseJson text = some parsed ∧ SameJson parsed left := by
  rw [serializeCanonical_ofJson leftJson, serializeCanonical_ofJson rightJson]
  constructor
  · constructor
    · intro same
      have texts := congrArg parseJson (Except.ok.inj same)
      rw [parseJson_stringify (isJson_sortKeys leftJson),
        parseJson_stringify (isJson_sortKeys rightJson)] at texts
      exact sameJson_of_sortKeys leftJson rightJson (Option.some.inj texts)
    · intro same
      rw [same.sortKeys_eq leftJson rightJson]
  · exact ⟨_, _, rfl, parseJson_stringify (isJson_sortKeys leftJson), sameJson_sortKeys leftJson⟩

/-- An object with two keys, in either order. -/
def sampleContent (first second : JsString × JsonValue) : JsonValue :=
  .object [first, second]

private theorem isJson_sampleContent {first second : JsString × JsonValue}
    (apart : first.1 ≠ second.1)
    (firstJson : IsJson first.2) (secondJson : IsJson second.2) :
    IsJson (sampleContent first second) := by
  refine .object _ (by simpa using apart) ?_
  intro property member
  rcases List.mem_cons.mp member with rfl | member
  · exact firstJson
  · rw [List.mem_singleton.mp member]
    exact secondJson

/-- `{"b":[null],"a":"\n"}` and `{"a":"\n","b":[null]}` have one text. -/
theorem serializeCanonical_isCanonical_sample :
    serializeCanonical (.ofJson (sampleContent (ascii "b", .array [.null])
      (ascii "a", .string [10]))) =
    serializeCanonical (.ofJson (sampleContent (ascii "a", .string [10])
      (ascii "b", .array [.null]))) := by
  have list : IsJson (.array [.null]) := .array _ fun entry member => by
    rw [List.mem_singleton.mp member]
    exact .null
  refine (serializeCanonical_isCanonical
    (isJson_sampleContent (by decide) list (.string [10]))
    (isJson_sampleContent (by decide) (.string [10]) list)).1.mpr ?_
  refine .object (List.Perm.swap _ _ _) ?_
  intro key left right leftMember rightMember
  have leftCases : (key, left) = (ascii "b", .array [.null]) ∨
    (key, left) = (ascii "a", .string [10]) := by
    simpa using leftMember
  have rightCases : (key, right) = (ascii "a", .string [10]) ∨
    (key, right) = (ascii "b", .array [.null]) := by
    simpa using rightMember
  have apart : ascii "a" ≠ ascii "b" := by decide
  rcases leftCases with leftSame | leftSame <;> rcases rightCases with rightSame | rightSame <;>
    cases leftSame <;> cases rightSame
  · refine .array rfl ?_
    intro index left right leftAt rightAt
    rw [leftAt] at rightAt
    cases rightAt
    rw [List.mem_singleton.mp (List.mem_of_getElem? leftAt)]
    exact .null
  · exact .string [10]

end Kurobara.Application
