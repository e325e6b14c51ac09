import Mathlib.Data.List.TakeDrop
import Mathlib.Data.List.TakeWhile

/-! # Strings of code units

A string of the runtime is a list of UTF-16 code units, in any sequence; lone surrogates are
strings too.
-/

namespace Kurobara.Foundation

/-- A UTF-16 code unit. -/
abbrev CodeUnit := UInt16

/-- A JavaScript string is its code units; a lone surrogate is one of them. -/
abbrev JsString := List CodeUnit

/-- The code unit of a character of the basic plane. -/
def charUnit (character : Char) : CodeUnit :=
  UInt16.ofNat character.toNat

/-- The string of characters of the basic plane. -/
def ascii (text : String) : JsString :=
  text.toList.map charUnit

/-- The first unit of a surrogate pair. -/
def isHighSurrogate (unit : CodeUnit) : Bool :=
  decide (0xD800 ≤ unit) && decide (unit < 0xDC00)

/-- The second unit of a surrogate pair. -/
def isLowSurrogate (unit : CodeUnit) : Bool :=
  decide (0xDC00 ≤ unit) && decide (unit < 0xE000)

/-- `[...value].length`: the code points of a string; a lone surrogate is one. -/
def codePointCount : JsString → ℕ
  | [] => 0
  | [_] => 1
  | high :: low :: rest =>
      if isHighSurrogate high && isLowSurrogate low then codePointCount rest + 1
      else codePointCount (low :: rest) + 1

/-- The white space and line terminators that `String.prototype.trim` removes. -/
def isTrimmedUnit (unit : CodeUnit) : Bool :=
  unit == 0x20 || (0x09 ≤ unit && unit ≤ 0x0D) || unit == 0xA0 || unit == 0x1680 ||
    (0x2000 ≤ unit && unit ≤ 0x200A) || unit == 0x2028 || unit == 0x2029 || unit == 0x202F ||
    unit == 0x205F || unit == 0x3000 || unit == 0xFEFF

/-- `/[0-9]/`. -/
def isDigitUnit (unit : CodeUnit) : Bool :=
  decide (48 ≤ unit) && decide (unit ≤ 57)

/-- A run of units that satisfy a test ends where the next unit does not. -/
theorem span_append {test : CodeUnit → Bool} {run rest : JsString}
    (passes : ∀ unit ∈ run, test unit = true) (ends : ∀ unit ∈ rest.head?, test unit = false) :
    (run ++ rest).span test = (run, rest) := by
  rw [List.span_eq_takeWhile_dropWhile, List.takeWhile_append_of_pos passes,
    List.dropWhile_append_of_pos passes]
  cases rest with
  | nil => simp
  | cons unit rest =>
      have stops := ends unit rfl
      rw [List.takeWhile_cons_of_neg (by simp [stops]),
        List.dropWhile_cons_of_neg (by simp [stops]),
        List.append_nil]

/-! ## The order by code units -/

/-- `left < right` on strings. -/
def isLess : JsString → JsString → Bool
  | _, [] => false
  | [], _ :: _ => true
  | left :: lefts, right :: rights => left < right || (left == right && isLess lefts rights)

/-- Strings none of which is less are equal. -/
theorem eq_of_not_isLess {left right : JsString} (notLess : isLess left right = false)
    (notGreater : isLess right left = false) : left = right := by
  induction left generalizing right with
  | nil =>
      cases right with
      | nil => rfl
      | cons unit right => cases notLess
  | cons unit left ih =>
      cases right with
      | nil => cases notGreater
      | cons other right =>
          simp only [isLess, Bool.or_eq_false_iff, decide_eq_false_iff_not, UInt16.not_lt,
            Bool.and_eq_false_imp, beq_iff_eq] at notLess notGreater
          have same := UInt16.le_antisymm notGreater.1 notLess.1
          rw [same, ih (notLess.2 same) (notGreater.2 same.symm)]

/-- What is not less than a string is not less than those before it. -/
theorem not_isLess_trans {first second third : JsString} (one : isLess second first = false)
    (two : isLess third second = false) : isLess third first = false := by
  induction first generalizing second third with
  | nil => cases third <;> rfl
  | cons unit first ih =>
      cases second with
      | nil => cases one
      | cons middle second =>
          cases third with
          | nil => cases two
          | cons last third =>
              simp only [isLess, Bool.or_eq_false_iff, decide_eq_false_iff_not, UInt16.not_lt,
                Bool.and_eq_false_imp, beq_iff_eq] at one two ⊢
              refine ⟨UInt16.le_trans one.1 two.1, ?_⟩
              rintro rfl
              have same := UInt16.le_antisymm one.1 two.1
              exact ih (one.2 same.symm) (two.2 same)

theorem not_isLess_total (left right : JsString) :
    isLess left right = false ∨ isLess right left = false := by
  induction left generalizing right with
  | nil => exact .inr (by cases right <;> rfl)
  | cons unit left ih =>
      cases right with
      | nil => exact .inl rfl
      | cons other right =>
          simp only [isLess, Bool.or_eq_false_iff, decide_eq_false_iff_not, UInt16.not_lt,
            Bool.and_eq_false_imp, beq_iff_eq]
          rcases UInt16.le_total unit other with before | after
          · by_cases same : unit = other
            · subst same
              rcases ih right with lefts | rights
              · exact .inl ⟨UInt16.le_refl _, fun _ => lefts⟩
              · exact .inr ⟨UInt16.le_refl _, fun _ => rights⟩
            · exact .inr ⟨before, fun equal => absurd equal.symm same⟩
          · by_cases same : unit = other
            · subst same
              rcases ih right with lefts | rights
              · exact .inl ⟨UInt16.le_refl _, fun _ => lefts⟩
              · exact .inr ⟨UInt16.le_refl _, fun _ => rights⟩
            · exact .inl ⟨after, fun equal => absurd equal same⟩

end Kurobara.Foundation
