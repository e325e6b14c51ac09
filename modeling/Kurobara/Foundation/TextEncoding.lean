import Kurobara.Foundation.JsString
import Mathlib.Data.List.Basic

/-! # Encodings of text

The UTF-8 bytes and the UTF-16 units of a text of Unicode characters. A byte or unit of an ASCII
character occurs in the encoding of that character alone, so that bytes and units can be scanned
for it without decoding them.
-/

namespace Kurobara.Foundation

/-! ## UTF-8 -/

/-- The bytes of a text. -/
def utf8 (text : List Char) : List UInt8 :=
  text.flatMap String.utf8EncodeChar

/-- The text of bytes, if they encode one. -/
def decodedText (bytes : List UInt8) : Option (List Char) :=
  bytes.toByteArray.utf8Decode?.map Array.toList

@[simp] theorem utf8_nil : utf8 [] = [] :=
  rfl

theorem utf8_cons (character : Char) (text : List Char) :
    utf8 (character :: text) = String.utf8EncodeChar character ++ utf8 text :=
  List.flatMap_cons

@[simp] theorem utf8_append (left right : List Char) :
    utf8 (left ++ right) = utf8 left ++ utf8 right :=
  List.flatMap_append

/-- Bytes of a text decode to it. -/
theorem decodedText_utf8 (text : List Char) : decodedText (utf8 text) = some text := by
  have bytes : (utf8 text).toByteArray = text.utf8Encode := rfl
  rw [decodedText, bytes, List.utf8Decode?_utf8Encode]
  rfl

theorem utf8EncodeChar_ascii {character : Char} (ascii : character.val.toNat < 128) :
    String.utf8EncodeChar character = [UInt8.ofNat character.val.toNat] := by
  unfold String.utf8EncodeChar
  exact if_pos (by omega)

/-- No byte of any other character is an ASCII byte. -/
theorem utf8EncodeChar_high {character : Char} (high : 128 ≤ character.val.toNat) {byte : UInt8}
    (member : byte ∈ String.utf8EncodeChar character) : 128 ≤ byte.toNat := by
  unfold String.utf8EncodeChar at member
  dsimp only at member
  split_ifs at member with one two three
  · omega
  all_goals
    simp only [List.mem_cons, List.not_mem_nil, or_false] at member
    rcases member with rfl | rfl | rfl | rfl <;> simp only [UInt8.toNat_ofNat'] <;> omega

/-- The byte of an ASCII character is no byte of another character. -/
theorem utf8EncodeChar_apart {character special : Char} (ascii : special.val.toNat < 128)
    (other : character ≠ special) :
    UInt8.ofNat special.val.toNat ∉ String.utf8EncodeChar character := by
  intro member
  have small : (UInt8.ofNat special.val.toNat).toNat = special.val.toNat := by
    rw [UInt8.toNat_ofNat']
    omega
  by_cases high : 128 ≤ character.val.toNat
  · have bound := utf8EncodeChar_high high member
    omega
  · rw [utf8EncodeChar_ascii (by omega), List.mem_singleton] at member
    have same := congrArg UInt8.toNat member
    rw [small, UInt8.toNat_ofNat', Nat.mod_eq_of_lt (by omega)] at same
    exact other (Char.ext (UInt32.toNat_inj.mp same.symm))

theorem utf8EncodeChar_ne_nil (character : Char) : String.utf8EncodeChar character ≠ [] :=
  String.utf8EncodeChar_ne_nil

/-! ## UTF-16 -/

/-- The units of a character; one beyond the basic plane has a surrogate pair. -/
def utf16Char (character : Char) : JsString :=
  let point := character.val.toNat
  if point < 0x10000 then [UInt16.ofNat point]
  else [UInt16.ofNat (0xD800 + (point - 0x10000) / 0x400),
    UInt16.ofNat (0xDC00 + (point - 0x10000) % 0x400)]

/-- The units of a text. -/
def utf16 (text : List Char) : JsString :=
  text.flatMap utf16Char

@[simp] theorem utf16_append (left right : List Char) :
    utf16 (left ++ right) = utf16 left ++ utf16 right :=
  List.flatMap_append

/-- The unit of an ASCII character is no unit of another character. -/
theorem utf16Char_apart {character special : Char} (ascii : special.val.toNat < 128)
    (other : character ≠ special) :
    UInt16.ofNat special.val.toNat ∉ utf16Char character := by
  intro member
  have bound : character.val.toNat < 0x110000 := by
    have valid := character.valid
    simp only [UInt32.isValidChar, Nat.isValidChar] at valid
    omega
  have small : (UInt16.ofNat special.val.toNat).toNat = special.val.toNat := by
    rw [UInt16.toNat_ofNat']
    omega
  unfold utf16Char at member
  dsimp only at member
  split_ifs at member with basic
  · have same := congrArg UInt16.toNat (List.mem_singleton.mp member)
    rw [small, UInt16.toNat_ofNat', Nat.mod_eq_of_lt (by omega)] at same
    exact other (Char.ext (UInt32.toNat_inj.mp same.symm))
  · simp only [List.mem_cons, List.not_mem_nil, or_false] at member
    rcases member with high | low
    · have same := congrArg UInt16.toNat high
      rw [small, UInt16.toNat_ofNat'] at same
      omega
    · have same := congrArg UInt16.toNat low
      rw [small, UInt16.toNat_ofNat'] at same
      omega

end Kurobara.Foundation
