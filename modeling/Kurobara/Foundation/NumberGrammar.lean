import Kurobara.Foundation.NumberText

/-! # The grammar of numbers

The numbers of RFC 8259 over code units, with their decimals. A text derives a decimal exactly when
it is read as one.
-/

namespace Kurobara.Foundation

/-- One digit or more. -/
def AreDigits (digits : JsString) : Prop :=
  digits ≠ [] ∧ ∀ unit ∈ digits, isDigitUnit unit = true

/-- `int`. -/
inductive WholeText : JsString → Prop where
  | zero : WholeText [48]
  | positive {first : CodeUnit} {rest : JsString} (nonzero : first ≠ 48)
      (digits : AreDigits (first :: rest)) : WholeText (first :: rest)

/-- `[ frac ]`, with its digits. -/
inductive FractionText : JsString → JsString → Prop where
  | absent : FractionText [] []
  | present {digits : JsString} (areDigits : AreDigits digits) : FractionText (46 :: digits) digits

/-- `[ exp ]`, with its value. -/
inductive ExponentText : JsString → ℤ → Prop where
  | absent : ExponentText [] 0
  | unsigned {marker : CodeUnit} {digits : JsString} (marks : marker = 101 ∨ marker = 69)
      (areDigits : AreDigits digits) : ExponentText (marker :: digits) (digitsValue digits)
  | plus {marker : CodeUnit} {digits : JsString} (marks : marker = 101 ∨ marker = 69)
      (areDigits : AreDigits digits) : ExponentText (marker :: 43 :: digits) (digitsValue digits)
  | minus {marker : CodeUnit} {digits : JsString} (marks : marker = 101 ∨ marker = 69)
      (areDigits : AreDigits digits) :
      ExponentText (marker :: 45 :: digits) (-(digitsValue digits : ℤ))

/-- `int [ frac ] [ exp ]`. -/
structure UnsignedText (text : JsString) (significand : ℕ) (exponent : ℤ) : Prop where
  parts : ∃ whole fractionText fraction exponentText power, WholeText whole ∧
    FractionText fractionText fraction ∧ ExponentText exponentText power ∧
    text = whole ++ (fractionText ++ exponentText) ∧
    significand = digitsValue (whole ++ fraction) ∧ exponent = power - fraction.length

/-- `number = [ minus ] int [ frac ] [ exp ]`. -/
inductive NumberText : JsString → Decimal → Prop where
  | unsigned {text : JsString} {significand : ℕ} {exponent : ℤ}
      (unsigned : UnsignedText text significand exponent) :
      NumberText text ⟨false, significand, exponent⟩
  | negative {text : JsString} {significand : ℕ} {exponent : ℤ}
      (unsigned : UnsignedText text significand exponent) :
      NumberText (45 :: text) ⟨true, significand, exponent⟩

private theorem readDigits_iff {text : JsString} {value : ℕ} :
    readDigits text = some value ↔ AreDigits text ∧ digitsValue text = value := by
  have same : (text ≠ [] ∧ text.all isDigitUnit = true) ↔ AreDigits text :=
    and_congr_right fun _ => List.all_eq_true
  unfold readDigits
  split_ifs with digits
  · rw [Option.some.injEq, and_iff_right (same.mp digits)]
  · simp [mt same.mpr digits]

private theorem isDigitUnit_ne {unit other : CodeUnit} (digit : isDigitUnit unit = true)
    (notDigit : isDigitUnit other = false) : unit ≠ other := by
  rintro rfl
  rw [digit] at notDigit
  cases notDigit

private theorem readExponent_iff {text : JsString} {exponent : ℤ} :
    readExponent text = some exponent ↔ ExponentText text exponent := by
  constructor
  · intro read
    cases text with
    | nil =>
        cases read
        exact .absent
    | cons marker rest =>
        rw [readExponent.eq_def] at read
        dsimp only at read
        split_ifs at read with marks
        cases rest with
        | nil => cases read
        | cons sign digits =>
            dsimp only at read
            split_ifs at read with minus plus
            · obtain ⟨value, found, rfl⟩ := Option.map_eq_some_iff.mp read
              obtain ⟨areDigits, rfl⟩ := readDigits_iff.mp found
              exact minus ▸ .minus marks areDigits
            · obtain ⟨value, found, rfl⟩ := Option.map_eq_some_iff.mp read
              obtain ⟨areDigits, rfl⟩ := readDigits_iff.mp found
              exact plus ▸ .plus marks areDigits
            · obtain ⟨value, found, rfl⟩ := Option.map_eq_some_iff.mp read
              obtain ⟨areDigits, rfl⟩ := readDigits_iff.mp found
              exact .unsigned marks areDigits
  · intro derived
    cases derived with
    | absent => rfl
    | @unsigned marker digits marks areDigits =>
        cases digits with
        | nil => exact absurd rfl areDigits.1
        | cons sign digits =>
            have digit := areDigits.2 sign List.mem_cons_self
            rw [readExponent.eq_def]
            dsimp only
            rw [if_pos marks, if_neg (isDigitUnit_ne digit (by decide)),
              if_neg (isDigitUnit_ne digit (by decide)), readDigits_iff.mpr ⟨areDigits, rfl⟩]
            rfl
    | plus marks areDigits =>
        rw [readExponent.eq_def]
        dsimp only
        rw [if_pos marks, if_neg (by decide), if_pos rfl, readDigits_iff.mpr ⟨areDigits, rfl⟩]
        rfl
    | minus marks areDigits =>
        rw [readExponent.eq_def]
        dsimp only
        rw [if_pos marks, if_pos rfl, readDigits_iff.mpr ⟨areDigits, rfl⟩]
        rfl

/-- An exponent begins with no digit, and with no point. -/
theorem ExponentText.head {text : JsString} {exponent : ℤ} (derived : ExponentText text exponent) :
    ∀ unit ∈ text.head?, isDigitUnit unit = false ∧ unit ≠ 46 := by
  have marker : ∀ unit : CodeUnit, unit = 101 ∨ unit = 69 →
      isDigitUnit unit = false ∧ unit ≠ 46 := by
    rintro unit (rfl | rfl) <;> decide
  intro unit found
  cases derived with
  | absent => cases found
  | unsigned marks => exact Option.some.inj found ▸ marker _ marks
  | plus marks => exact Option.some.inj found ▸ marker _ marks
  | minus marks => exact Option.some.inj found ▸ marker _ marks

theorem ExponentText.units {text : JsString} {exponent : ℤ} (derived : ExponentText text exponent) :
    ∀ unit ∈ text, isNumberUnit unit = true := by
  have marker : ∀ unit : CodeUnit, unit = 101 ∨ unit = 69 → isNumberUnit unit = true := by
    rintro unit (rfl | rfl) <;> decide
  have digit : ∀ unit, isDigitUnit unit = true → isNumberUnit unit = true := by
    intro unit digit
    simp only [isNumberUnit, digit, Bool.true_or]
  cases derived with
  | absent => exact List.forall_mem_nil _
  | unsigned marks areDigits =>
      exact List.forall_mem_cons.mpr ⟨marker _ marks, fun unit member =>
        digit unit (areDigits.2 unit member)⟩
  | plus marks areDigits =>
      exact List.forall_mem_cons.mpr ⟨marker _ marks, List.forall_mem_cons.mpr ⟨by decide,
        fun unit member => digit unit (areDigits.2 unit member)⟩⟩
  | minus marks areDigits =>
      exact List.forall_mem_cons.mpr ⟨marker _ marks, List.forall_mem_cons.mpr ⟨by decide,
        fun unit member => digit unit (areDigits.2 unit member)⟩⟩

theorem WholeText.digits {text : JsString} (derived : WholeText text) : AreDigits text := by
  cases derived with
  | zero => exact ⟨List.cons_ne_nil _ _, List.all_eq_true.mp (by decide)⟩
  | positive _ digits => exact digits

/-- The layout of a number's text is its derivation. -/
theorem UnsignedText.layout {text : JsString} {significand : ℕ} {exponent : ℤ}
    (derived : UnsignedText text significand exponent) :
    ∃ whole fraction tail power, IsNumberLayout text whole fraction tail power ∧
      significand = digitsValue (whole ++ fraction) ∧ exponent = power - fraction.length := by
  obtain ⟨whole, fractionText, fraction, exponentText, power, wholeText, fractional, exponential,
    split, significandEq, exponentEq⟩ := derived.parts
  have fractionEq : fractionText = pointed fraction := by
    cases fractional with
    | absent => rfl
    | present areDigits => rw [pointed, if_neg areDigits.1]
  have fractionDigits : ∀ unit ∈ fraction, isDigitUnit unit = true := by
    cases fractional with
    | absent => exact List.forall_mem_nil _
    | present areDigits => exact areDigits.2
  refine ⟨whole, fraction, exponentText, power, ⟨?_, wholeText.digits.1, ?_, wholeText.digits.2,
    fractionDigits, exponential.head, exponential.units, readExponent_iff.mpr exponential⟩,
    significandEq, exponentEq⟩
  · rw [split, fractionEq]
  · intro zero
    cases wholeText with
    | zero => rfl
    | positive nonzero _ => exact absurd (Option.some.inj zero) nonzero

private theorem areDigits_takeWhile {text : JsString} (nonempty : text.takeWhile isDigitUnit ≠ []) :
    AreDigits (text.takeWhile isDigitUnit) :=
  ⟨nonempty, fun _ member => List.mem_takeWhile_imp member⟩

private theorem readUnsigned_iff {text : JsString} {significand : ℕ} {exponent : ℤ} :
    readUnsigned text = some (significand, exponent) ↔ UnsignedText text significand exponent := by
  constructor
  · intro read
    unfold readUnsigned at read
    dsimp only at read
    split_ifs at read with shaped
    · cases read
    rw [not_or, not_and_or, not_not] at shaped
    obtain ⟨nonempty, leading⟩ := shaped
    obtain ⟨⟨fraction, rest⟩, fractional, read⟩ := Option.bind_eq_some_iff.mp read
    obtain ⟨power, exponential, read⟩ := Option.bind_eq_some_iff.mp read
    cases read
    have wholeText : WholeText (text.takeWhile isDigitUnit) := by
      have areDigits := areDigits_takeWhile nonempty
      cases whole : text.takeWhile isDigitUnit with
      | nil => exact absurd whole nonempty
      | cons first digits =>
          rw [whole] at leading areDigits
          by_cases zero : first = 48
          · rcases leading with other | single
            · exact absurd (congrArg some zero) other
            · rw [single]
              exact .zero
          · exact .positive zero areDigits
    obtain ⟨fractionText, split, derived⟩ : ∃ fractionText,
        text.dropWhile isDigitUnit = fractionText ++ rest ∧
          FractionText fractionText fraction := by
      cases behind : text.dropWhile isDigitUnit with
      | nil =>
          rw [behind] at fractional
          cases fractional
          exact ⟨[], rfl, .absent⟩
      | cons point digits =>
          rw [behind, readFraction] at fractional
          split_ifs at fractional with isPoint none
          · cases fractional
            refine ⟨46 :: digits.takeWhile isDigitUnit, ?_, .present (areDigits_takeWhile none)⟩
            rw [isPoint, List.cons_append, List.takeWhile_append_dropWhile]
          · cases fractional
            exact ⟨[], rfl, .absent⟩
    refine ⟨_, fractionText, fraction, rest, power, wholeText, derived,
      readExponent_iff.mp exponential, ?_, rfl, rfl⟩
    rw [← split, List.takeWhile_append_dropWhile]
  · intro derived
    obtain ⟨whole, fraction, tail, power, layout, rfl, rfl⟩ := derived.layout
    exact layout.reads

/-- **The texts of numbers are those that are read as decimals.** -/
theorem readDecimal_iff {text : JsString} {decimal : Decimal} :
    readDecimal text = some decimal ↔ NumberText text decimal := by
  constructor
  · intro read
    rw [readDecimal] at read
    split_ifs at read with minus
    · obtain ⟨⟨significand, exponent⟩, found, rfl⟩ := Option.map_eq_some_iff.mp read
      cases text with
      | nil => cases minus
      | cons sign rest =>
          cases minus
          exact .negative (readUnsigned_iff.mp found)
    · obtain ⟨⟨significand, exponent⟩, found, rfl⟩ := Option.map_eq_some_iff.mp read
      exact .unsigned (readUnsigned_iff.mp found)
  · intro derived
    cases derived with
    | negative unsigned =>
        rw [readDecimal, if_pos (by rfl), List.tail_cons, readUnsigned_iff.mpr unsigned]
        rfl
    | unsigned unsigned =>
        obtain ⟨_, _, _, _, layout, _, _⟩ := unsigned.layout
        obtain ⟨unit, rest, split, digit⟩ := layout.head
        have positive : text.head? ≠ some 45 := by
          rw [split]
          exact fun minus => isDigitUnit_ne digit (by decide) (Option.some.inj minus)
        rw [readDecimal, if_neg positive, readUnsigned_iff.mpr unsigned]
        rfl

theorem NumberText.units {text : JsString} {decimal : Decimal}
    (derived : NumberText text decimal) : ∀ unit ∈ text, isNumberUnit unit = true := by
  cases derived with
  | negative unsigned =>
      obtain ⟨_, _, _, _, layout, _, _⟩ := unsigned.layout
      exact List.forall_mem_cons.mpr ⟨by decide, layout.units⟩
  | unsigned unsigned =>
      obtain ⟨_, _, _, _, layout, _, _⟩ := unsigned.layout
      exact layout.units

end Kurobara.Foundation
