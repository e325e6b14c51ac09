import Kurobara.Foundation.ByteLength

/-! # Printable text

`JSON.stringify` writes lone surrogates and control characters as escapes, so its text is the text
of Unicode characters without control characters. Its UTF-8 bytes decode to it, and none of them
ends a line.
-/

namespace Kurobara.Foundation

/-! ## Characters of units -/

/-- The character of a single unit; a lone surrogate is replaced. -/
def unitCharacter (unit : CodeUnit) : Char :=
  if isHighSurrogate unit || isLowSurrogate unit then Char.ofNat 0xFFFD else Char.ofNat unit.toNat

/-- The character of a surrogate pair. -/
def pairCharacter (high low : CodeUnit) : Char :=
  Char.ofNat (0x10000 + (high.toNat - 0xD800) * 0x400 + (low.toNat - 0xDC00))

/-- The characters that an encoder sees in a string. -/
def characters : JsString → List Char
  | [] => []
  | [unit] => [unitCharacter unit]
  | high :: low :: rest =>
      if isHighSurrogate high && isLowSurrogate low then pairCharacter high low :: characters rest
      else unitCharacter high :: characters (low :: rest)

/-- `Buffer.from(text, "utf8")`. -/
def bufferFrom (text : JsString) : List UInt8 :=
  utf8 (characters text)

private theorem charOfNat_val {point : ℕ} (valid : point.isValidChar) :
    (Char.ofNat point).val.toNat = point := by
  rw [Char.ofNat, dif_pos valid]
  rfl

private theorem isSurrogate_iff (unit : CodeUnit) :
    (isHighSurrogate unit = true ↔ 0xD800 ≤ unit.toNat ∧ unit.toNat < 0xDC00) ∧
      (isLowSurrogate unit = true ↔ 0xDC00 ≤ unit.toNat ∧ unit.toNat < 0xE000) := by
  simp only [isHighSurrogate, isLowSurrogate, Bool.and_eq_true, decide_eq_true_eq,
    UInt16.le_iff_toNat_le, UInt16.lt_iff_toNat_lt, UInt16.reduceToNat, and_self]

/-- A unit that is no surrogate is the text of its character. -/
theorem utf16_unitCharacter {unit : CodeUnit} (high : isHighSurrogate unit = false)
    (low : isLowSurrogate unit = false) :
    utf16 [unitCharacter unit] = [unit] ∧ (unitCharacter unit).val.toNat = unit.toNat := by
  have notHigh := (isSurrogate_iff unit).1.not.mp (by rw [high]; exact Bool.false_ne_true)
  have notLow := (isSurrogate_iff unit).2.not.mp (by rw [low]; exact Bool.false_ne_true)
  have bound : unit.toNat < 65536 := unit.toNat_lt
  have value : (unitCharacter unit).val.toNat = unit.toNat := by
    rw [unitCharacter, high, low, Bool.or_false, if_neg Bool.false_ne_true]
    exact charOfNat_val (by simp only [Nat.isValidChar]; omega)
  refine ⟨?_, value⟩
  rw [utf16, List.flatMap_singleton, utf16Char]
  rw [value, if_pos bound, UInt16.ofNat_toNat]

/-- A surrogate pair is the text of its character. -/
theorem utf16_pairCharacter {high low : CodeUnit}
    (pair : (isHighSurrogate high && isLowSurrogate low) = true) :
    utf16 [pairCharacter high low] = [high, low] ∧
      0x10000 ≤ (pairCharacter high low).val.toNat := by
  rw [Bool.and_eq_true, (isSurrogate_iff high).1, (isSurrogate_iff low).2] at pair
  obtain ⟨⟨highLeast, highMost⟩, lowLeast, lowMost⟩ := pair
  have value : (pairCharacter high low).val.toNat =
      0x10000 + (high.toNat - 0xD800) * 0x400 + (low.toNat - 0xDC00) :=
    charOfNat_val (by simp only [Nat.isValidChar]; omega)
  have beyond : ¬ (pairCharacter high low).val.toNat < 0x10000 := by omega
  have first : UInt16.ofNat (0xD800 + ((pairCharacter high low).val.toNat - 0x10000) / 0x400) =
      high := by
    rw [← UInt16.toNat_inj, UInt16.toNat_ofNat']
    omega
  have second : UInt16.ofNat (0xDC00 + ((pairCharacter high low).val.toNat - 0x10000) % 0x400) =
      low := by
    rw [← UInt16.toNat_inj, UInt16.toNat_ofNat']
    omega
  refine ⟨?_, not_lt.mp beyond⟩
  rw [utf16, List.flatMap_singleton, utf16Char, if_neg beyond, first, second]

private theorem characters_whole {unit : CodeUnit} (whole : isHighSurrogate unit = false)
    (rest : JsString) : characters (unit :: rest) = unitCharacter unit :: characters rest := by
  cases rest with
  | nil => rfl
  | cons next later =>
      rw [characters, whole, Bool.false_and, if_neg Bool.false_ne_true]

/-- The units of a character: one that is no surrogate, or a pair. -/
theorem utf16Char_cases (character : Char) :
    (∃ unit, utf16Char character = [unit] ∧ isHighSurrogate unit = false ∧
        unitCharacter unit = character) ∨
      ∃ high low, utf16Char character = [high, low] ∧
        (isHighSurrogate high && isLowSurrogate low) = true ∧
        pairCharacter high low = character := by
  have valid := character.valid
  simp only [UInt32.isValidChar, Nat.isValidChar] at valid
  have same : ∀ other : Char, other.val.toNat = character.val.toNat → other = character :=
    fun other equal => Char.ext (UInt32.toNat_inj.mp equal)
  unfold utf16Char
  dsimp only
  split_ifs with basic
  · have unit : (UInt16.ofNat character.val.toNat).toNat = character.val.toNat := by
      rw [UInt16.toNat_ofNat']
      omega
    have single : isHighSurrogate (UInt16.ofNat character.val.toNat) = false ∧
        isLowSurrogate (UInt16.ofNat character.val.toNat) = false := by
      rw [← Bool.not_eq_true, ← Bool.not_eq_true, (isSurrogate_iff _).1, (isSurrogate_iff _).2,
        unit]
      omega
    exact .inl ⟨_, rfl, single.1,
      same _ ((utf16_unitCharacter single.1 single.2).2.trans unit)⟩
  · have high : (UInt16.ofNat (0xD800 + (character.val.toNat - 0x10000) / 0x400)).toNat =
        0xD800 + (character.val.toNat - 0x10000) / 0x400 := by
      rw [UInt16.toNat_ofNat']
      omega
    have low : (UInt16.ofNat (0xDC00 + (character.val.toNat - 0x10000) % 0x400)).toNat =
        0xDC00 + (character.val.toNat - 0x10000) % 0x400 := by
      rw [UInt16.toNat_ofNat']
      omega
    refine .inr ⟨_, _, rfl, ?_, same _ ?_⟩
    · rw [Bool.and_eq_true, (isSurrogate_iff _).1, (isSurrogate_iff _).2, high, low]
      omega
    · rw [pairCharacter, high, low]
      refine (charOfNat_val ?_).trans (by omega)
      simp only [Nat.isValidChar]
      omega

/-- **The characters of a text are seen again in its units.** -/
theorem characters_utf16 (text : List Char) : characters (utf16 text) = text := by
  induction text with
  | nil => rfl
  | cons character rest ih =>
      rw [utf16, List.flatMap_cons, ← utf16]
      rcases utf16Char_cases character with ⟨unit, split, whole, same⟩ |
        ⟨high, low, split, pair, same⟩
      · rw [split, List.singleton_append, characters_whole whole, ih, same]
      · rw [split, List.cons_append, List.singleton_append, characters, if_pos pair, ih, same]

/-! ## Printable text -/

/-- A text of characters none of which is a control character of ASCII. -/
def Printable (text : JsString) : Prop :=
  ∃ written : List Char, text = utf16 written ∧ ∀ character ∈ written, 32 ≤ character.val.toNat

private theorem printable_nil : Printable [] :=
  ⟨[], rfl, List.forall_mem_nil _⟩

theorem Printable.append {left right : JsString} (first : Printable left)
    (second : Printable right) : Printable (left ++ right) := by
  obtain ⟨one, rfl, visible⟩ := first
  obtain ⟨other, rfl, shown⟩ := second
  exact ⟨one ++ other, (utf16_append one other).symm,
    List.forall_mem_append.mpr ⟨visible, shown⟩⟩

private theorem printable_unit {unit : CodeUnit} (high : isHighSurrogate unit = false)
    (low : isLowSurrogate unit = false) (visible : 32 ≤ unit.toNat) : Printable [unit] := by
  obtain ⟨text, value⟩ := utf16_unitCharacter high low
  exact ⟨[unitCharacter unit], text.symm, List.forall_mem_singleton.mpr (value ▸ visible)⟩

private theorem printable_pair {high low : CodeUnit}
    (pair : (isHighSurrogate high && isLowSurrogate low) = true) : Printable [high, low] := by
  obtain ⟨text, value⟩ := utf16_pairCharacter pair
  exact ⟨[pairCharacter high low], text.symm, List.forall_mem_singleton.mpr (by omega)⟩

private theorem printable_ascii {text : JsString}
    (visible : ∀ unit ∈ text, 32 ≤ unit.toNat ∧ unit.toNat < 0x80) : Printable text := by
  induction text with
  | nil => exact printable_nil
  | cons unit rest ih =>
      obtain ⟨shown, small⟩ := visible unit List.mem_cons_self
      obtain ⟨high, low⟩ := isSurrogate_ascii small
      exact (printable_unit high low shown).append
        (ih fun other member => visible other (List.mem_cons_of_mem _ member))

/-- A text of a program that is visible. -/
theorem printable_visible {text : JsString}
    (visible : (text.all fun unit => decide (32 ≤ unit.toNat) && decide (unit.toNat < 0x80)) =
      true) :
    Printable text := by
  refine printable_ascii fun unit member => ?_
  have shown := List.all_eq_true.mp visible unit member
  simpa using shown

theorem Printable.cons {unit : CodeUnit} {rest : JsString} (printable : Printable rest)
    (visible : 32 ≤ unit.toNat ∧ unit.toNat < 0x80) : Printable (unit :: rest) :=
  (printable_ascii (List.forall_mem_singleton.mpr visible)).append printable

private theorem hexUnit_visible (digit : ℕ) (hex : digit < 16) :
    32 ≤ (hexUnit digit).toNat ∧ (hexUnit digit).toNat < 0x80 := by
  revert digit
  decide

private theorem printable_escapeUnit (unit : CodeUnit) : Printable (escapeUnit unit) := by
  unfold escapeUnit
  split
  · rename_i letter short
    have visible : 32 ≤ letter.toNat ∧ letter.toNat < 0x80 := by
      unfold escapeLetter at short
      split_ifs at short <;> cases short <;> decide
    exact printable_ascii (List.forall_mem_cons.mpr
      ⟨by decide, List.forall_mem_singleton.mpr visible⟩)
  · have bound : unit.toNat < 65536 := unit.toNat_lt
    split_ifs with hidden
    · refine printable_ascii fun other member => ?_
      simp only [hexEscape, List.mem_cons, List.not_mem_nil, or_false] at member
      rcases member with rfl | rfl | rfl | rfl | rfl | rfl
      · decide
      · decide
      all_goals exact hexUnit_visible _ (by omega)
    · simp only [not_or, Bool.not_eq_true] at hidden
      refine printable_unit hidden.2.1 hidden.2.2 ?_
      have shown := hidden.1
      have control : (32 : CodeUnit).toNat = 32 := rfl
      rw [UInt16.lt_iff_toNat_lt, control] at shown
      omega

private theorem printable_quoteUnits (value : JsString) : Printable (quoteUnits value) := by
  induction value using quoteUnits.induct with
  | case1 => exact printable_nil
  | case2 unit => exact printable_escapeUnit unit
  | case3 high low rest pair ih =>
      rw [quoteUnits, if_pos pair]
      exact (printable_pair pair).append ih
  | case4 high low rest single ih =>
      rw [quoteUnits, if_neg single]
      exact (printable_escapeUnit high).append ih

private theorem printable_quoted (value : JsString) : Printable (quoted value) :=
  ((printable_quoteUnits value).append (printable_visible (by decide))).cons (by decide)

private theorem printable_joinComma {texts : List JsString}
    (each : ∀ text ∈ texts, Printable text) :
    Printable (joinComma texts) := by
  induction texts using joinComma.induct with
  | case1 => exact printable_nil
  | case2 text => exact each text List.mem_cons_self
  | case3 text next rest ih =>
      exact (each text List.mem_cons_self).append
        ((ih fun other member => each other (List.mem_cons_of_mem _ member)).cons (by decide))

private theorem printable_number (value : JsNumber) : Printable value.jsonText := by
  cases value with
  | finite value =>
      refine printable_ascii fun unit member => ?_
      have number := (numberText_units value).1 unit member
      simp only [isNumberUnit, Bool.or_eq_true, beq_iff_eq] at number
      rcases number with ((((digit | rfl) | rfl) | rfl) | rfl) | rfl
      · simp only [isDigitUnit, Bool.and_eq_true, decide_eq_true_eq, UInt16.le_iff_toNat_le,
          UInt16.reduceToNat] at digit
        omega
      all_goals decide
  | infinite _ =>
      change Printable (ascii "null")
      exact printable_visible (by decide)
  | nan =>
      change Printable (ascii "null")
      exact printable_visible (by decide)

mutual

/-- **The JSON text of a value is printable.** -/
theorem printable_stringify : (value : JsonValue) → Printable (stringify value)
  | .null => printable_visible (by decide)
  | .boolean true => printable_visible (by decide)
  | .boolean false => printable_visible (by decide)
  | .number value => printable_number value
  | .string value => printable_quoted value
  | .array entries =>
      ((printable_joinComma (printable_stringifyEntries entries)).append
        (printable_visible (by decide))).cons (by decide)
  | .object properties =>
      ((printable_joinComma (printable_stringifyProperties properties)).append
        (printable_visible (by decide))).cons (by decide)

private theorem printable_stringifyEntries : (entries : List JsonValue) →
    ∀ text ∈ stringifyEntries entries, Printable text
  | [] => List.forall_mem_nil _
  | entry :: rest => List.forall_mem_cons.mpr
      ⟨printable_stringify entry, printable_stringifyEntries rest⟩

private theorem printable_stringifyProperties : (properties : List (JsString × JsonValue)) →
    ∀ text ∈ stringifyProperties properties, Printable text
  | [] => List.forall_mem_nil _
  | (key, value) :: rest => List.forall_mem_cons.mpr
      ⟨(printable_quoted key).append ((printable_stringify value).cons (by decide)),
        printable_stringifyProperties rest⟩

end

/-! ## Its bytes -/

/-- A line of printable text: its bytes are as many as counted, decode to it, and none of them is
a control character. -/
structure IsLine (text : JsString) (written : List Char) : Prop where
  units : text = utf16 written
  shown : ∀ character ∈ written, 32 ≤ character.val.toNat
  bytes : bufferFrom text = utf8 written
  length : (utf8 written).length = byteLength text
  visible : ∀ byte ∈ utf8 written, 32 ≤ byte.toNat

theorem Printable.isLine {text : JsString} (printable : Printable text) :
    ∃ written, IsLine text written := by
  obtain ⟨written, rfl, visible⟩ := printable
  refine ⟨written, rfl, visible, ?_, (byteLength_utf16 written).symm, ?_⟩
  · rw [bufferFrom, characters_utf16]
  · intro byte member
    obtain ⟨character, inside, encoded⟩ := List.mem_flatMap.mp member
    have shown := visible character inside
    by_cases high : 128 ≤ character.val.toNat
    · exact le_trans (by decide) (utf8EncodeChar_high high encoded)
    · rw [utf8EncodeChar_ascii (by omega), List.mem_singleton] at encoded
      rw [encoded, UInt8.toNat_ofNat']
      omega

/-- No unit of a line ends it. -/
theorem IsLine.noFeed {text : JsString} {written : List Char} (line : IsLine text written) :
    10 ∉ text := by
  intro member
  rw [line.units] at member
  obtain ⟨character, inside, encoded⟩ := List.mem_flatMap.mp member
  have other : character ≠ '\n' := by
    rintro rfl
    exact absurd (line.shown _ inside) (by decide)
  exact utf16Char_apart (by decide) other encoded

/-- With its line feed the bytes of a line are one more. -/
theorem IsLine.withFeed {text : JsString} {written : List Char} (line : IsLine text written) :
    bufferFrom (text ++ [10]) = utf8 written ++ [10] := by
  have feed : utf16 ['\n'] = [10] := by decide
  have byte : utf8 ['\n'] = [10] := by decide
  rw [line.units, ← feed, ← utf16_append, bufferFrom, characters_utf16, utf8_append, byte]

end Kurobara.Foundation
