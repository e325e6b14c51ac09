import Kurobara.Foundation.NumberText

/-! # JSON text

`JSON.stringify` and `JSON.parse` over JSON values. The text of a value without repeated keys
and with finite numbers parses back to the value.
-/

namespace Kurobara.Foundation

/-- The properties of an object stand in the order in which they were created. -/
inductive JsonValue where
  | null
  | boolean (value : Bool)
  | number (value : JsNumber)
  | string (value : JsString)
  | array (entries : List JsonValue)
  | object (properties : List (JsString × JsonValue))

/-! ## Strings -/

/-- A lower-case hexadecimal digit. -/
def hexUnit (digit : ℕ) : CodeUnit :=
  if digit < 10 then UInt16.ofNat (48 + digit) else UInt16.ofNat (87 + digit)

/-- `\\uXXXX`. -/
def hexEscape (unit : CodeUnit) : JsString :=
  [92, 117, hexUnit (unit.toNat / 4096), hexUnit (unit.toNat / 256 % 16),
    hexUnit (unit.toNat / 16 % 16), hexUnit (unit.toNat % 16)]

/-- The letter behind the backslash of a short escape. -/
def escapeLetter (unit : CodeUnit) : Option CodeUnit :=
  if unit = 8 then some 98
  else if unit = 9 then some 116
  else if unit = 10 then some 110
  else if unit = 12 then some 102
  else if unit = 13 then some 114
  else if unit = 34 then some 34
  else if unit = 92 then some 92
  else none

/-- The escape of a unit that needs one, else the unit itself. -/
def escapeUnit (unit : CodeUnit) : JsString :=
  match escapeLetter unit with
  | some letter => [92, letter]
  | none =>
      if unit < 32 ∨ isHighSurrogate unit = true ∨ isLowSurrogate unit = true then hexEscape unit
      else [unit]

/-- The units of a string between its quotes; surrogates stand as they are in pairs only. -/
def quoteUnits : JsString → JsString
  | [] => []
  | [unit] => escapeUnit unit
  | high :: low :: rest =>
      if isHighSurrogate high && isLowSurrogate low then high :: low :: quoteUnits rest
      else escapeUnit high ++ quoteUnits (low :: rest)

/-- A quoted string. -/
def quoted (value : JsString) : JsString :=
  34 :: (quoteUnits value ++ [34])

/-- The value of a hexadecimal digit. -/
def hexValue (unit : CodeUnit) : Option ℕ :=
  if 48 ≤ unit ∧ unit ≤ 57 then some (unit.toNat - 48)
  else if 97 ≤ unit ∧ unit ≤ 102 then some (unit.toNat - 87)
  else if 65 ≤ unit ∧ unit ≤ 70 then some (unit.toNat - 55)
  else none

/-- The unit that four hexadecimal digits name. -/
def readHex (first second third fourth : CodeUnit) : Option CodeUnit := do
  let first ← hexValue first
  let second ← hexValue second
  let third ← hexValue third
  let fourth ← hexValue fourth
  some (UInt16.ofNat (4096 * first + 256 * second + 16 * third + fourth))

/-- The unit of a short escape. -/
def unescapeLetter (letter : CodeUnit) : Option CodeUnit :=
  if letter = 34 ∨ letter = 92 ∨ letter = 47 then some letter
  else if letter = 98 then some 8
  else if letter = 102 then some 12
  else if letter = 110 then some 10
  else if letter = 114 then some 13
  else if letter = 116 then some 9
  else none

/-- A string behind its opening quote, and what follows its closing quote. -/
def readString : JsString → Option (JsString × JsString)
  | [] => none
  | unit :: rest =>
      if unit = 34 then some ([], rest)
      else if unit = 92 then
        match rest with
        | [] => none
        | letter :: rest =>
            if letter = 117 then
              match rest with
              | first :: second :: third :: fourth :: rest =>
                  (readHex first second third fourth).bind fun unit =>
                    (readString rest).map fun (value, rest) => (unit :: value, rest)
              | _ => none
            else
              (unescapeLetter letter).bind fun unit =>
                (readString rest).map fun (value, rest) => (unit :: value, rest)
      else if unit < 32 then none
      else (readString rest).map fun (value, rest) => (unit :: value, rest)

private theorem readHex_hexEscape (unit : CodeUnit) :
    readHex (hexUnit (unit.toNat / 4096)) (hexUnit (unit.toNat / 256 % 16))
      (hexUnit (unit.toNat / 16 % 16)) (hexUnit (unit.toNat % 16)) = some unit := by
  have digit : ∀ digit < 16, hexValue (hexUnit digit) = some digit := by decide
  have bounded : unit.toNat < 65536 := unit.toNat_lt
  rw [readHex, digit _ (by omega), digit _ (by omega), digit _ (by omega), digit _ (by omega)]
  simp only [Option.bind_eq_bind, Option.bind_some, Option.some.injEq]
  rw [← UInt16.toNat_inj, UInt16.toNat_ofNat']
  omega

/-- A plain unit is read as it stands. -/
theorem readString_plain {unit : CodeUnit} {rest : JsString} (noQuote : unit ≠ 34)
    (noEscape : unit ≠ 92) (printable : ¬ unit < 32) :
    readString (unit :: rest) =
      (readString rest).map fun (value, rest) => (unit :: value, rest) := by
  rw [readString.eq_def]
  dsimp only
  rw [if_neg noQuote, if_neg noEscape, if_neg printable]

private theorem readString_escapeUnit (unit : CodeUnit) (rest : JsString) :
    readString (escapeUnit unit ++ rest) =
      (readString rest).map fun (value, rest) => (unit :: value, rest) := by
  unfold escapeUnit
  cases short : escapeLetter unit with
  | some letter =>
      have letters : letter ≠ 117 ∧ unescapeLetter letter = some unit := by
        unfold escapeLetter at short
        split_ifs at short with h₁ h₂ h₃ h₄ h₅ h₆ h₇ <;> cases short <;> subst unit <;> decide
      rw [List.cons_append, List.cons_append, List.nil_append, readString.eq_def]
      dsimp only
      rw [if_neg (by decide), if_pos rfl, if_neg letters.1, letters.2, Option.bind_some]
  | none =>
      dsimp only
      split
      · rw [hexEscape, List.cons_append, List.cons_append, readString.eq_def]
        dsimp only [List.cons_append, List.nil_append]
        rw [if_neg (by decide), if_pos rfl, if_pos rfl, readHex_hexEscape, Option.bind_some]
      · rename_i plain
        have noEscape : unit ≠ 34 ∧ unit ≠ 92 := by
          constructor <;> rintro rfl <;> revert short <;> decide
        exact readString_plain noEscape.1 noEscape.2 fun control => plain (.inl control)

/-- **A string reads back from its quotes.** -/
theorem readString_quoteUnits (value rest : JsString) :
    readString (quoteUnits value ++ 34 :: rest) = some (value, rest) := by
  induction value using quoteUnits.induct with
  | case1 =>
      rw [quoteUnits, List.nil_append, readString.eq_def]
      dsimp only
      rw [if_pos rfl]
  | case2 unit =>
      rw [quoteUnits, readString_escapeUnit, readString.eq_def]
      dsimp only
      rw [if_pos rfl, Option.map_some]
  | case3 high low tail pair ih =>
      have plain : ∀ unit : CodeUnit, 0xD800 ≤ unit → unit ≠ 34 ∧ unit ≠ 92 ∧ ¬ unit < 32 := by
        intro unit large
        rw [UInt16.le_iff_toNat_le] at large
        refine ⟨?_, ?_, ?_⟩
        · rintro rfl
          exact absurd large (by decide)
        · rintro rfl
          exact absurd large (by decide)
        · rw [UInt16.lt_iff_toNat_lt]
          exact fun control => absurd (lt_of_le_of_lt large control) (by decide)
      have surrogates : 0xD800 ≤ high ∧ 0xD800 ≤ low := by
        simp only [Bool.and_eq_true, isHighSurrogate, isLowSurrogate, decide_eq_true_eq] at pair
        exact ⟨pair.1.1, UInt16.le_trans (show (0xD800 : CodeUnit) ≤ 0xDC00 by decide) pair.2.1⟩
      obtain ⟨highQuote, highEscape, highControl⟩ := plain high surrogates.1
      obtain ⟨lowQuote, lowEscape, lowControl⟩ := plain low surrogates.2
      rw [quoteUnits, if_pos pair, List.cons_append, List.cons_append,
        readString_plain highQuote highEscape highControl,
        readString_plain lowQuote lowEscape lowControl, ih]
      rfl
  | case4 high low tail alone ih =>
      rw [quoteUnits, if_neg alone, List.append_assoc, readString_escapeUnit, ih]
      rfl

/-! ## Writing a value -/

/-- `texts.join(",")`. -/
def joinComma : List JsString → JsString
  | [] => []
  | [text] => text
  | text :: next :: rest => text ++ 44 :: joinComma (next :: rest)

/-- The text of a number; JSON writes the others as null. -/
def JsNumber.jsonText : JsNumber → JsString
  | .finite value => value.text
  | _ => ascii "null"

mutual

/-- `JSON.stringify`. -/
def stringify : JsonValue → JsString
  | .null => ascii "null"
  | .boolean true => ascii "true"
  | .boolean false => ascii "false"
  | .number value => value.jsonText
  | .string value => quoted value
  | .array entries => 91 :: (joinComma (stringifyEntries entries) ++ [93])
  | .object properties => 123 :: (joinComma (stringifyProperties properties) ++ [125])

def stringifyEntries : List JsonValue → List JsString
  | [] => []
  | entry :: rest => stringify entry :: stringifyEntries rest

def stringifyProperties : List (JsString × JsonValue) → List JsString
  | [] => []
  | (key, value) :: rest => (quoted key ++ 58 :: stringify value) :: stringifyProperties rest

end

/-! ## Reading a value -/

/-- Space, tab and the line breaks. -/
def isJsonSpace (unit : CodeUnit) : Bool :=
  unit == 32 || unit == 9 || unit == 10 || unit == 13

/-- The text behind its leading white space. -/
def skipSpace (text : JsString) : JsString :=
  text.dropWhile isJsonSpace

/-- A literal name at the head of the text. -/
def readLiteral (literal : String) (value : JsonValue) (text : JsString) :
    Option (JsonValue × JsString) :=
  if text.take (ascii literal).length = ascii literal then
    some (value, text.drop (ascii literal).length)
  else none

/-- The longest run of number units must be the text of a number. -/
def readJsonNumber (text : JsString) : Option (JsonValue × JsString) :=
  (readNumber (text.takeWhile isNumberUnit)).map fun value =>
    (.number value, text.dropWhile isNumberUnit)

/-- A later property of the same key takes the place of the earlier. -/
def setProperty (properties : List (JsString × JsonValue)) (key : JsString) (value : JsonValue) :
    List (JsString × JsonValue) :=
  if properties.any fun property => property.1 == key then
    properties.map fun property => if property.1 == key then (key, value) else property
  else properties ++ [(key, value)]

mutual

/-- A value and what follows it. The fuel bounds the depth and the length of the value. -/
def readValue : ℕ → JsString → Option (JsonValue × JsString)
  | 0, _ => none
  | fuel + 1, text =>
      match skipSpace text with
      | [] => none
      | unit :: rest =>
          if unit = 34 then
            (readString rest).map fun (value, rest) => (.string value, rest)
          else if unit = 91 then
            if (skipSpace rest).head? = some 93 then some (.array [], (skipSpace rest).tail)
            else (readEntries fuel rest).map fun (entries, rest) => (.array entries, rest)
          else if unit = 123 then
            if (skipSpace rest).head? = some 125 then some (.object [], (skipSpace rest).tail)
            else
              (readProperties fuel rest []).map fun (properties, rest) =>
                (.object properties, rest)
          else if unit = 110 then readLiteral "null" .null (unit :: rest)
          else if unit = 116 then readLiteral "true" (.boolean true) (unit :: rest)
          else if unit = 102 then readLiteral "false" (.boolean false) (unit :: rest)
          else readJsonNumber (unit :: rest)

/-- The entries of an array up to its closing bracket. -/
def readEntries : ℕ → JsString → Option (List JsonValue × JsString)
  | 0, _ => none
  | fuel + 1, text =>
      (readValue fuel text).bind fun (entry, rest) =>
        match skipSpace rest with
        | [] => none
        | unit :: rest =>
            if unit = 44 then
              (readEntries fuel rest).map fun (entries, rest) => (entry :: entries, rest)
            else if unit = 93 then some ([entry], rest)
            else none

/-- The properties of an object up to its closing brace, behind those read before. -/
def readProperties : ℕ → JsString → List (JsString × JsonValue) →
    Option (List (JsString × JsonValue) × JsString)
  | 0, _, _ => none
  | fuel + 1, text, before =>
      match skipSpace text with
      | [] => none
      | unit :: rest =>
          if unit = 34 then
            (readString rest).bind fun (key, rest) =>
              match skipSpace rest with
              | [] => none
              | unit :: rest =>
                  if unit = 58 then
                    (readValue fuel rest).bind fun (value, rest) =>
                      match skipSpace rest with
                      | [] => none
                      | unit :: rest =>
                          if unit = 44 then
                            readProperties fuel rest (setProperty before key value)
                          else if unit = 125 then some (setProperty before key value, rest)
                          else none
                  else none
          else none

end

/-- `JSON.parse`, without a value where it throws. -/
def parseJson (text : JsString) : Option JsonValue :=
  match readValue (text.length + 1) text with
  | some (value, rest) => if skipSpace rest = [] then some value else none
  | none => none

/-! ## A value reads back -/

/-- Values that JSON can express: their numbers are finite, and no object repeats a key. -/
inductive IsJson : JsonValue → Prop where
  | null : IsJson .null
  | boolean (value : Bool) : IsJson (.boolean value)
  | number (value : Double) : IsJson (.number (.finite value))
  | string (value : JsString) : IsJson (.string value)
  | array (entries : List JsonValue) (areJson : ∀ entry ∈ entries, IsJson entry) :
      IsJson (.array entries)
  | object (properties : List (JsString × JsonValue)) (distinct : (properties.map Prod.fst).Nodup)
      (areJson : ∀ property ∈ properties, IsJson property.2) : IsJson (.object properties)

theorem skipSpace_cons {unit : CodeUnit} {rest : JsString} (visible : isJsonSpace unit = false) :
    skipSpace (unit :: rest) = unit :: rest := by
  rw [skipSpace, List.dropWhile_cons_of_neg (by rw [visible]; exact Bool.false_ne_true)]

/-- A text begins visibly, and not with a closing bracket or brace. -/
structure BeginsValue (text : JsString) : Prop where
  begins : ∃ unit rest, text = unit :: rest ∧ isJsonSpace unit = false ∧ unit ≠ 93 ∧ unit ≠ 125

theorem beginsNumber {unit : CodeUnit} (begins : isDigitUnit unit = true ∨ unit = 45) :
    isJsonSpace unit = false ∧ 45 ≤ unit.toNat ∧ unit.toNat ≤ 57 := by
  rcases begins with digit | rfl
  · simp only [isDigitUnit, Bool.and_eq_true, decide_eq_true_eq, UInt16.le_iff_toNat_le] at digit
    have lower : 48 ≤ unit.toNat := digit.1
    have upper : unit.toNat ≤ 57 := digit.2
    refine ⟨?_, by omega, upper⟩
    simp only [isJsonSpace, Bool.or_eq_false_iff, beq_eq_false_iff_ne]
    refine ⟨⟨⟨?_, ?_⟩, ?_⟩, ?_⟩ <;> rintro rfl <;> exact absurd lower (by decide)
  · decide

/-- A written value starts with no white space. -/
theorem stringify_begins {value : JsonValue} (isJson : IsJson value) :
    BeginsValue (stringify value) := by
  cases isJson with
  | null => exact ⟨110, _, rfl, by decide⟩
  | boolean value => cases value <;> exact ⟨_, _, rfl, by decide⟩
  | string value => exact ⟨34, _, rfl, by decide⟩
  | array entries _ => exact ⟨91, _, rfl, by decide⟩
  | object properties _ _ => exact ⟨123, _, rfl, by decide⟩
  | number value =>
      obtain ⟨_, unit, rest, text, begins⟩ := numberText_units value
      obtain ⟨visible, lower, upper⟩ := beginsNumber begins
      refine ⟨unit, rest, text, visible, ?_, ?_⟩ <;> rintro rfl <;> exact absurd upper (by decide)

/-- What follows does not change how a text begins, and joined texts begin as the first. -/
theorem BeginsValue.append {text : JsString} (begins : BeginsValue text) (rest : JsString) :
    BeginsValue (text ++ rest) := by
  obtain ⟨unit, more, rfl, visible⟩ := begins
  exact ⟨unit, more ++ rest, rfl, visible⟩

theorem BeginsValue.joined {text : JsString} (begins : BeginsValue text) (texts : List JsString) :
    BeginsValue (joinComma (text :: texts)) := by
  cases texts with
  | nil => exact begins
  | cons next rest => exact begins.append _

/-- Behind an opening bracket, such a text is no closing bracket or brace. -/
theorem BeginsValue.notClosing {text : JsString} (begins : BeginsValue text) :
    (skipSpace text).head? ≠ some 93 ∧ (skipSpace text).head? ≠ some 125 := by
  obtain ⟨unit, rest, rfl, visible, bracket, brace⟩ := begins
  rw [skipSpace_cons visible, List.head?_cons]
  exact ⟨fun same => bracket (Option.some.inj same), fun same => brace (Option.some.inj same)⟩

/-- What may follow a value: nothing that continues a number. -/
def EndsValue (rest : JsString) : Prop :=
  ∀ unit ∈ rest.head?, isNumberUnit unit = false

theorem readLiteral_append (literal : String) (value : JsonValue) (rest : JsString) :
    readLiteral literal value (ascii literal ++ rest) = some (value, rest) := by
  rw [readLiteral, List.take_left, if_pos rfl, List.drop_left]

private theorem readJsonNumber_text (value : Double) {rest : JsString} (ends : EndsValue rest) :
    readJsonNumber (value.text ++ rest) = some (.number (.finite value), rest) := by
  have span := span_append (numberText_units value).1 ends
  rw [List.span_eq_takeWhile_dropWhile, Prod.mk.injEq] at span
  rw [readJsonNumber, span.1, span.2, readNumber_text, Option.map_some]

private theorem readValue_number (value : Double) {rest : JsString} (ends : EndsValue rest)
    (fuel : ℕ) :
    readValue (fuel + 1) (value.text ++ rest) = some (.number (.finite value), rest) := by
  have reads := readJsonNumber_text value ends
  obtain ⟨_, unit, more, text, begins⟩ := numberText_units value
  obtain ⟨visible, lower, upper⟩ := beginsNumber begins
  have other : ∀ named : CodeUnit, named.toNat < 45 ∨ 57 < named.toNat → unit ≠ named := by
    rintro named apart rfl
    omega
  rw [text, List.cons_append] at reads ⊢
  rw [readValue, skipSpace_cons visible]
  dsimp only
  rw [if_neg (other 34 (by decide)), if_neg (other 91 (by decide)), if_neg (other 123 (by decide)),
    if_neg (other 110 (by decide)), if_neg (other 116 (by decide)), if_neg (other 102 (by decide)),
    reads]

private theorem readValue_string (value rest : JsString) (fuel : ℕ) :
    readValue (fuel + 1) (quoted value ++ rest) = some (.string value, rest) := by
  rw [quoted, List.cons_append, List.append_assoc, readValue, skipSpace_cons (by decide)]
  dsimp only
  rw [if_pos rfl, List.singleton_append, readString_quoteUnits, Option.map_some]

/-- What one value must satisfy for lists of such values to be read. -/
def ReadsBack (value : JsonValue) : Prop :=
  ∀ fuel rest, (stringify value).length ≤ fuel → EndsValue rest →
    readValue fuel (stringify value ++ rest) = some (value, rest)

theorem endsValue_cons {unit : CodeUnit} {rest : JsString} (stops : isNumberUnit unit = false) :
    EndsValue (unit :: rest) := by
  intro other member
  cases member
  exact stops

theorem joinComma_cons (text : JsString) {texts : List JsString} (more : texts ≠ []) :
    joinComma (text :: texts) = text ++ 44 :: joinComma texts := by
  cases texts with
  | nil => exact absurd rfl more
  | cons next rest => rfl

private theorem readEntries_stringify {entries : List JsonValue} (nonempty : entries ≠ [])
    (readBack : ∀ entry ∈ entries, ReadsBack entry) :
    ∀ fuel rest, (joinComma (stringifyEntries entries)).length < fuel →
      readEntries fuel (joinComma (stringifyEntries entries) ++ 93 :: rest) =
        some (entries, rest) := by
  induction entries with
  | nil => exact absurd rfl nonempty
  | cons entry others ih =>
      intro fuel rest enough
      cases fuel with
      | zero => omega
      | succ fuel =>
          have head := readBack entry List.mem_cons_self
          by_cases last : others = []
          · subst last
            rw [stringifyEntries, stringifyEntries, joinComma] at enough ⊢
            rw [readEntries, head fuel _ (by omega) (endsValue_cons (by decide)), Option.bind_some]
            dsimp only
            rw [skipSpace_cons (by decide)]
            rfl
          · have more : stringifyEntries others ≠ [] := by
              cases others with
              | nil => exact absurd rfl last
              | cons next others => exact List.cons_ne_nil _ _
            have tail := ih last
              (fun other member => readBack other (List.mem_cons_of_mem _ member)) fuel rest
            rw [stringifyEntries, joinComma_cons _ more] at enough ⊢
            rw [List.length_append, List.length_cons] at enough
            rw [List.append_assoc, List.cons_append, readEntries,
              head fuel _ (by omega) (endsValue_cons (by decide)), Option.bind_some]
            dsimp only
            rw [skipSpace_cons (by decide)]
            dsimp only
            rw [if_pos rfl, tail (by omega), Option.map_some]

theorem setProperty_new {properties : List (JsString × JsonValue)} {key : JsString}
    (new : key ∉ properties.map Prod.fst) (value : JsonValue) :
    setProperty properties key value = properties ++ [(key, value)] := by
  rw [setProperty, if_neg]
  intro found
  obtain ⟨property, member, same⟩ := List.any_eq_true.mp found
  exact new (List.mem_map.mpr ⟨property, member, beq_iff_eq.mp same⟩)

private theorem readProperties_stringify {properties : List (JsString × JsonValue)}
    (nonempty : properties ≠ []) (readBack : ∀ property ∈ properties, ReadsBack property.2) :
    ∀ fuel rest before, (joinComma (stringifyProperties properties)).length < fuel →
      ((before ++ properties).map Prod.fst).Nodup →
      readProperties fuel (joinComma (stringifyProperties properties) ++ 125 :: rest) before =
        some (before ++ properties, rest) := by
  induction properties with
  | nil => exact absurd rfl nonempty
  | cons property others ih =>
      obtain ⟨key, value⟩ := property
      intro fuel rest before enough distinct
      cases fuel with
      | zero => omega
      | succ fuel =>
          have head : ReadsBack value := readBack (key, value) List.mem_cons_self
          have new : key ∉ before.map Prod.fst := by
            intro member
            rw [List.map_append, List.nodup_append] at distinct
            exact distinct.2.2 key member key List.mem_cons_self rfl
          by_cases last : others = []
          · subst last
            rw [stringifyProperties, stringifyProperties, joinComma] at enough ⊢
            simp only [List.length_append, List.length_cons] at enough
            rw [quoted, List.cons_append, List.cons_append, List.append_assoc, List.append_assoc,
              readProperties, skipSpace_cons (by decide)]
            dsimp only
            rw [if_pos rfl, List.singleton_append, readString_quoteUnits, Option.bind_some]
            dsimp only
            rw [List.cons_append, skipSpace_cons (by decide)]
            dsimp only
            rw [if_pos rfl, head fuel _ (by omega) (endsValue_cons (by decide)), Option.bind_some]
            dsimp only
            rw [skipSpace_cons (by decide)]
            dsimp only
            rw [if_neg (by decide), if_pos rfl, setProperty_new new]
          · have more : stringifyProperties others ≠ [] := by
              cases others with
              | nil => exact absurd rfl last
              | cons next others => exact List.cons_ne_nil _ _
            have tail := ih last
              (fun other member => readBack other (List.mem_cons_of_mem _ member)) fuel rest
              (before ++ [(key, value)])
            rw [List.append_assoc, List.singleton_append] at tail
            rw [stringifyProperties, joinComma_cons _ more] at enough ⊢
            simp only [List.length_append, List.length_cons] at enough
            rw [quoted, List.cons_append, List.append_assoc, List.cons_append, List.append_assoc,
              List.append_assoc, readProperties, skipSpace_cons (by decide)]
            dsimp only
            rw [if_pos rfl, List.singleton_append, readString_quoteUnits, Option.bind_some]
            dsimp only
            rw [List.cons_append, skipSpace_cons (by decide)]
            dsimp only
            rw [if_pos rfl, List.cons_append, head fuel _ (by omega) (endsValue_cons (by decide)),
              Option.bind_some]
            dsimp only
            rw [skipSpace_cons (by decide)]
            dsimp only
            rw [if_pos rfl, setProperty_new new, tail (by omega) distinct]

private theorem quoted_length (value : JsString) : 2 ≤ (quoted value).length := by
  rw [quoted, List.length_cons, List.length_append, List.length_singleton]
  omega

/-- **A JSON value reads back from its text**, whatever follows it. -/
theorem IsJson.readsBack {value : JsonValue} (isJson : IsJson value) : ReadsBack value := by
  induction isJson with
  | null =>
      intro fuel rest enough ends
      cases fuel with
      | zero => exact absurd enough (by decide)
      | succ fuel => exact readLiteral_append "null" .null rest
  | boolean value =>
      intro fuel rest enough ends
      cases fuel with
      | zero => cases value <;> exact absurd enough (by decide)
      | succ fuel =>
          cases value
          · exact readLiteral_append "false" (.boolean false) rest
          · exact readLiteral_append "true" (.boolean true) rest
  | number value =>
      intro fuel rest enough ends
      cases fuel with
      | zero =>
          obtain ⟨_, unit, more, text, _⟩ := numberText_units value
          rw [stringify, JsNumber.jsonText, text] at enough
          cases enough
      | succ fuel => exact readValue_number value ends fuel
  | string value =>
      intro fuel rest enough ends
      cases fuel with
      | zero =>
          have long := quoted_length value
          rw [stringify] at enough
          omega
      | succ fuel => exact readValue_string value rest fuel
  | array entries areJson ih =>
      intro fuel rest enough ends
      cases fuel with
      | zero => cases enough
      | succ fuel =>
          rw [stringify, List.length_cons, List.length_append, List.length_singleton] at enough
          rw [stringify, List.cons_append, List.append_assoc, readValue, skipSpace_cons (by decide)]
          dsimp only
          rw [if_neg (by decide), if_pos rfl, List.singleton_append]
          by_cases empty : entries = []
          · subst empty
            rfl
          · have begins : BeginsValue (joinComma (stringifyEntries entries) ++ 93 :: rest) := by
              cases entries with
              | nil => exact absurd rfl empty
              | cons entry others =>
                  exact ((stringify_begins (areJson entry List.mem_cons_self)).joined _).append _
            rw [if_neg begins.notClosing.1, readEntries_stringify empty ih fuel rest (by omega),
              Option.map_some]
  | object properties distinct areJson ih =>
      intro fuel rest enough ends
      cases fuel with
      | zero => cases enough
      | succ fuel =>
          rw [stringify, List.length_cons, List.length_append, List.length_singleton] at enough
          rw [stringify, List.cons_append, List.append_assoc, readValue, skipSpace_cons (by decide)]
          dsimp only
          rw [if_neg (by decide), if_neg (by decide), if_pos rfl, List.singleton_append]
          by_cases empty : properties = []
          · subst empty
            rfl
          · have begins : BeginsValue
              (joinComma (stringifyProperties properties) ++ 125 :: rest) := by
              cases properties with
              | nil => exact absurd rfl empty
              | cons property others =>
                  have quotes : BeginsValue (quoted property.1 ++ 58 :: stringify property.2) :=
                    ⟨34, _, rfl, by decide⟩
                  exact (quotes.joined _).append _
            rw [if_neg begins.notClosing.2,
              readProperties_stringify empty ih fuel rest [] (by omega) distinct, Option.map_some,
              List.nil_append]

/-- **`JSON.parse` undoes `JSON.stringify`** on values that JSON can express. -/
theorem parseJson_stringify {value : JsonValue} (isJson : IsJson value) :
    parseJson (stringify value) = some value := by
  have reads := isJson.readsBack ((stringify value).length + 1) [] (Nat.le_succ _) nofun
  rw [List.append_nil] at reads
  rw [parseJson, reads]
  rfl

end Kurobara.Foundation
