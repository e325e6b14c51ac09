import Kurobara.Foundation.JsonText
import Kurobara.Foundation.TextEncoding

/-! # Byte lengths

The number of UTF-8 bytes of a string of code units, and of the JSON text of a value. The length
of a JSON text is counted along the value: no character crosses the seams of its text.
-/

namespace Kurobara.Foundation

/-! ## Strings -/

/-- A lone surrogate is encoded as the replacement character. -/
def unitBytes (unit : CodeUnit) : ℕ :=
  if unit.toNat < 0x80 then 1 else if unit.toNat < 0x800 then 2 else 3

/-- `new TextEncoder().encode(value).byteLength`. -/
def byteLength : JsString → ℕ
  | [] => 0
  | [unit] => unitBytes unit
  | high :: low :: rest =>
      if isHighSurrogate high && isLowSurrogate low then byteLength rest + 4
      else unitBytes high + byteLength (low :: rest)

/-- No text that follows begins with the second half of a pair. -/
def StartsCharacter (text : JsString) : Prop :=
  ∀ unit ∈ text.head?, isLowSurrogate unit = false

private theorem startsCharacter_cons {unit : CodeUnit} (whole : isLowSurrogate unit = false)
    (rest : JsString) : StartsCharacter (unit :: rest) := by
  intro head found
  cases found
  exact whole

private theorem byteLength_cons {unit : CodeUnit} {rest : JsString}
    (starts : StartsCharacter rest) :
    byteLength (unit :: rest) = unitBytes unit + byteLength rest := by
  cases rest with
  | nil => rfl
  | cons next later =>
      rw [byteLength, starts next rfl, Bool.and_false, if_neg Bool.false_ne_true]

/-- The length of a unit that is no surrogate does not depend on what follows. -/
theorem byteLength_whole {unit : CodeUnit} (whole : isHighSurrogate unit = false)
    (rest : JsString) : byteLength (unit :: rest) = unitBytes unit + byteLength rest := by
  cases rest with
  | nil => rfl
  | cons next later =>
      rw [byteLength, whole, Bool.false_and, if_neg Bool.false_ne_true]

/-- Lengths add up where no pair is cut. -/
theorem byteLength_append (left : JsString) {right : JsString} (starts : StartsCharacter right) :
    byteLength (left ++ right) = byteLength left + byteLength right := by
  induction left using byteLength.induct with
  | case1 => rw [List.nil_append, byteLength, Nat.zero_add]
  | case2 unit => exact byteLength_cons starts
  | case3 high low rest pair ih =>
      rw [List.cons_append, List.cons_append, byteLength, if_pos pair, ih, byteLength, if_pos pair]
      omega
  | case4 high low rest single ih =>
      rw [List.cons_append] at ih
      rw [List.cons_append, List.cons_append, byteLength, if_neg single, ih, byteLength,
        if_neg single]
      omega

theorem isSurrogate_ascii {unit : CodeUnit} (ascii : unit.toNat < 0x80) :
    isHighSurrogate unit = false ∧ isLowSurrogate unit = false := by
  simp [isHighSurrogate, isLowSurrogate, UInt16.le_iff_toNat_le, UInt16.lt_iff_toNat_lt] at *
  omega

/-- ASCII text has one byte a unit. -/
theorem byteLength_ascii {text : JsString} (ascii : ∀ unit ∈ text, unit.toNat < 0x80) :
    byteLength text = text.length := by
  induction text with
  | nil => rfl
  | cons unit rest ih =>
      have small := ascii unit List.mem_cons_self
      rw [byteLength_whole (isSurrogate_ascii small).1,
        ih fun other member => ascii other (List.mem_cons_of_mem _ member), unitBytes,
        if_pos small, List.length_cons, Nat.add_comm]

private theorem utf8Size_eq (character : Char) :
    character.utf8Size = if character.val.toNat < 0x80 then 1
      else if character.val.toNat < 0x800 then 2
      else if character.val.toNat < 0x10000 then 3 else 4 := by
  have one : character.val ≤ 127 ↔ character.val.toNat ≤ 127 := UInt32.le_iff_toNat_le
  have two : character.val ≤ 2047 ↔ character.val.toNat ≤ 2047 := UInt32.le_iff_toNat_le
  have three : character.val ≤ 65535 ↔ character.val.toNat ≤ 65535 := UInt32.le_iff_toNat_le
  change (if character.val ≤ 127 then 1 else if character.val ≤ 2047 then 2
    else if character.val ≤ 65535 then 3 else 4) = _
  rw [if_congr one rfl (if_congr two rfl (if_congr three rfl rfl))]
  split_ifs <;> omega

private theorem byteLength_utf16Char (character : Char) (rest : JsString) :
    byteLength (utf16Char character ++ rest) =
      (String.utf8EncodeChar character).length + byteLength rest := by
  rw [String.length_utf8EncodeChar]
  have valid := character.valid
  simp only [UInt32.isValidChar, Nat.isValidChar] at valid
  have point : character.val.toNat < 0x110000 := by omega
  unfold utf16Char
  dsimp only
  split_ifs with basic
  · have unit : (UInt16.ofNat character.val.toNat).toNat = character.val.toNat := by
      rw [UInt16.toNat_ofNat']
      omega
    have whole : isHighSurrogate (UInt16.ofNat character.val.toNat) = false := by
      simp only [isHighSurrogate, Bool.and_eq_false_iff, decide_eq_false_iff_not,
        UInt16.le_iff_toNat_le, UInt16.lt_iff_toNat_lt, unit, UInt16.reduceToNat]
      omega
    rw [List.singleton_append, byteLength_whole whole, unitBytes, unit, utf8Size_eq]
    split_ifs <;> omega
  · have pair : (isHighSurrogate
      (UInt16.ofNat (0xD800 + (character.val.toNat - 0x10000) / 0x400)) &&
        isLowSurrogate (UInt16.ofNat (0xDC00 + (character.val.toNat - 0x10000) % 0x400))) =
          true := by
      simp only [isHighSurrogate, isLowSurrogate, Bool.and_eq_true, decide_eq_true_eq,
        UInt16.le_iff_toNat_le, UInt16.lt_iff_toNat_lt, UInt16.toNat_ofNat', UInt16.reduceToNat]
      omega
    rw [List.cons_append, List.singleton_append, byteLength, if_pos pair, utf8Size_eq]
    split_ifs <;> omega

/-- **The length of a text is the number of its UTF-8 bytes.** -/
theorem byteLength_utf16 (text : List Char) : byteLength (utf16 text) = (utf8 text).length := by
  induction text with
  | nil => rfl
  | cons character rest ih =>
      rw [utf16, List.flatMap_cons, byteLength_utf16Char, ← utf16, ih, utf8_cons,
        List.length_append]

/-! ## JSON text -/

mutual

/-- The bytes of the JSON text of a value, part by part. -/
def jsonBytes : JsonValue → ℕ
  | .null => 4
  | .boolean value => if value then 4 else 5
  | .number value => byteLength value.jsonText
  | .string value => byteLength (quoted value)
  | .array entries => 2 + (entries.length - 1) + jsonBytesEntries entries
  | .object properties => 2 + (properties.length - 1) + jsonBytesProperties properties

def jsonBytesEntries : List JsonValue → ℕ
  | [] => 0
  | entry :: rest => jsonBytes entry + jsonBytesEntries rest

def jsonBytesProperties : List (JsString × JsonValue) → ℕ
  | [] => 0
  | (key, value) :: rest =>
      byteLength (quoted key) + 1 + jsonBytes value + jsonBytesProperties rest

end

private theorem startsCharacter_text (value : Double) : StartsCharacter value.text := by
  obtain ⟨_, unit, rest, text, begins⟩ := numberText_units value
  obtain ⟨_, _, upper⟩ := beginsNumber begins
  rw [text]
  exact startsCharacter_cons (isSurrogate_ascii (by omega)).2 rest

private theorem startsCharacter_stringify (value : JsonValue) :
    StartsCharacter (stringify value) := by
  cases value with
  | null => exact startsCharacter_cons (by decide) _
  | boolean value => cases value <;> exact startsCharacter_cons (by decide) _
  | string value => exact startsCharacter_cons (by decide) _
  | array entries => exact startsCharacter_cons (by decide) _
  | object properties => exact startsCharacter_cons (by decide) _
  | number value =>
      cases value with
      | finite value => exact startsCharacter_text value
      | infinite negative => exact startsCharacter_cons (by decide) _
      | nan => exact startsCharacter_cons (by decide) _

/-- A comma stands before every text but the first. -/
theorem byteLength_joinComma {texts : List JsString}
    (start : ∀ text ∈ texts, StartsCharacter text) :
    byteLength (joinComma texts) = (texts.length - 1) + (texts.map byteLength).sum := by
  induction texts with
  | nil => rfl
  | cons text rest ih =>
      cases rest with
      | nil => simp [joinComma]
      | cons next rest =>
          have later := ih fun other member => start other (List.mem_cons_of_mem _ member)
          rw [joinComma_cons text (List.cons_ne_nil _ _),
            byteLength_append text (startsCharacter_cons (by decide) _),
            byteLength_whole (by decide), later]
          simp only [List.length_cons, List.map_cons, List.sum_cons, unitBytes]
          rw [if_pos (by decide)]
          omega

private theorem stringifyEntries_start {entries : List JsonValue} {text : JsString}
    (member : text ∈ stringifyEntries entries) : StartsCharacter text := by
  induction entries with
  | nil => cases member
  | cons entry rest ih =>
      rcases List.mem_cons.mp member with rfl | later
      · exact startsCharacter_stringify entry
      · exact ih later

private theorem stringifyProperties_start {properties : List (JsString × JsonValue)}
    {text : JsString}
    (member : text ∈ stringifyProperties properties) : StartsCharacter text := by
  induction properties with
  | nil => cases member
  | cons property rest ih =>
      rcases List.mem_cons.mp member with rfl | later
      · exact startsCharacter_cons (by decide) _
      · exact ih later

private theorem stringifyEntries_length (entries : List JsonValue) :
    (stringifyEntries entries).length = entries.length := by
  induction entries with
  | nil => rfl
  | cons entry rest ih => rw [stringifyEntries, List.length_cons, ih, List.length_cons]

private theorem stringifyProperties_length (properties : List (JsString × JsonValue)) :
    (stringifyProperties properties).length = properties.length := by
  induction properties with
  | nil => rfl
  | cons property rest ih => rw [stringifyProperties, List.length_cons, ih, List.length_cons]

/-- Brackets or braces around joined texts are two bytes more. -/
theorem byteLength_enclosed {opening closing : CodeUnit} (openAscii : opening.toNat < 0x80)
    (closeAscii : closing.toNat < 0x80) {texts : List JsString}
    (start : ∀ text ∈ texts, StartsCharacter text) :
    byteLength (opening :: (joinComma texts ++ [closing])) =
      2 + (texts.length - 1) + (texts.map byteLength).sum := by
  rw [byteLength_whole (isSurrogate_ascii openAscii).1,
    byteLength_append _ (startsCharacter_cons (isSurrogate_ascii closeAscii).2 _),
    byteLength_joinComma start, byteLength, unitBytes, unitBytes, if_pos openAscii,
    if_pos closeAscii]
  omega

mutual

/-- **The JSON text of a value has as many bytes as its parts.** -/
theorem byteLength_stringify : (value : JsonValue) → byteLength (stringify value) = jsonBytes value
  | .null => rfl
  | .boolean true => rfl
  | .boolean false => rfl
  | .number _ => rfl
  | .string _ => rfl
  | .array entries => by
      rw [stringify, byteLength_enclosed (by decide) (by decide) fun _ => stringifyEntries_start,
        stringifyEntries_length, byteLength_entries entries, jsonBytes]
  | .object properties => by
      rw [stringify, byteLength_enclosed (by decide) (by decide) fun _ => stringifyProperties_start,
        stringifyProperties_length, byteLength_properties properties, jsonBytes]

private theorem byteLength_entries : (entries : List JsonValue) →
    ((stringifyEntries entries).map byteLength).sum = jsonBytesEntries entries
  | [] => rfl
  | entry :: rest => by
      rw [stringifyEntries, List.map_cons, List.sum_cons, byteLength_stringify entry,
        byteLength_entries rest, jsonBytesEntries]

private theorem byteLength_properties : (properties : List (JsString × JsonValue)) →
    ((stringifyProperties properties).map byteLength).sum = jsonBytesProperties properties
  | [] => rfl
  | (key, value) :: rest => by
      rw [stringifyProperties, List.map_cons, List.sum_cons,
        byteLength_append _ (startsCharacter_cons (by decide) _), byteLength_whole (by decide),
        byteLength_stringify value, byteLength_properties rest, jsonBytesProperties, unitBytes,
        if_pos (by decide)]
      omega

end

end Kurobara.Foundation
