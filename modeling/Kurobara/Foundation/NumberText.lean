import Kurobara.Foundation.Double
import Kurobara.Foundation.JsString
import Mathlib.Tactic.Ring

/-! # The text of a number

How the runtime writes a number and reads a JSON number. A number is written with the fewest
digits that round to it, so it reads back as the same number.
-/

namespace Kurobara.Foundation

/-- A JavaScript number. -/
inductive JsNumber where
  | finite (value : Double)
  | infinite (negative : Bool)
  | nan
  deriving DecidableEq

/-! ## Digits -/

/-- The decimal digits of a natural number. -/
def decimalDigits (value : ℕ) : JsString :=
  (Nat.toDigits 10 value).map charUnit

/-- The natural number of decimal digits. -/
def digitsValue (digits : JsString) : ℕ :=
  digits.foldl (fun value unit => 10 * value + (unit.toNat - 48)) 0

private theorem charUnit_digit {digit : Char} (isDigit : digit.isDigit = true) :
    (charUnit digit).toNat = digit.toNat ∧ isDigitUnit (charUnit digit) = true := by
  have bounds : 48 ≤ digit.toNat ∧ digit.toNat ≤ 57 := by
    simp only [Char.isDigit, Bool.and_eq_true, decide_eq_true_eq, UInt32.le_iff_toNat_le] at isDigit
    exact isDigit
  have same : (charUnit digit).toNat = digit.toNat := by
    rw [charUnit, UInt16.toNat_ofNat']
    exact Nat.mod_eq_of_lt (by omega)
  refine ⟨same, ?_⟩
  simp only [isDigitUnit, Bool.and_eq_true, decide_eq_true_eq, UInt16.le_iff_toNat_le, same]
  exact bounds

theorem decimalDigits_isDigit {value : ℕ} {unit : CodeUnit} (member : unit ∈ decimalDigits value) :
    isDigitUnit unit = true := by
  obtain ⟨digit, inside, rfl⟩ := List.mem_map.mp member
  exact (charUnit_digit (Nat.isDigit_of_mem_toDigits (by decide) (by decide) inside)).2

private theorem decimalDigits_ne_nil {value : ℕ} : decimalDigits value ≠ [] := by
  rw [decimalDigits, ne_eq, List.map_eq_nil_iff]
  exact Nat.toDigits_ne_nil

/-- The digits of a number denote it. -/
theorem digitsValue_decimalDigits (value : ℕ) : digitsValue (decimalDigits value) = value := by
  have same : ∀ (digits : List Char) (start : ℕ), (∀ digit ∈ digits, digit.isDigit = true) →
      (digits.map charUnit).foldl (fun value unit => 10 * value + (unit.toNat - 48)) start =
        Nat.ofDigitChars 10 digits start := by
    intro digits
    induction digits with
    | nil => intro start _; rfl
    | cons digit rest ih =>
        intro start areDigits
        rw [List.map_cons, List.foldl_cons, Nat.ofDigitChars_cons,
          (charUnit_digit (areDigits digit List.mem_cons_self)).1]
        exact ih _ fun other member => areDigits other (List.mem_cons_of_mem _ member)
  rw [digitsValue, decimalDigits, same]
  · exact Nat.ofDigitChars_toDigits (by decide) (by decide)
  · exact fun digit member => Nat.isDigit_of_mem_toDigits (by decide) (by decide) member

/-- A positive number has no leading zero. -/
theorem decimalDigits_head {value : ℕ} (positive : 0 < value) :
    ∃ first rest, decimalDigits value = first :: rest ∧ first ≠ 48 := by
  induction value using Nat.strongRecOn with
  | ind value ih =>
      by_cases small : value < 10
      · refine ⟨charUnit value.digitChar, [], ?_, ?_⟩
        · rw [decimalDigits, Nat.toDigits_of_lt_base small]
          rfl
        · have nonzero : ∀ digit < 10, 0 < digit → charUnit (Nat.digitChar digit) ≠ 48 := by decide
          exact nonzero value small positive
      · obtain ⟨first, rest, split, nonzero⟩ := ih (value / 10) (by omega) (by omega)
        refine ⟨first, rest ++ [charUnit (value % 10).digitChar], ?_, nonzero⟩
        rw [decimalDigits, Nat.toDigits_of_base_le (by decide) (by omega), List.map_append]
        change decimalDigits (value / 10) ++ _ = _
        rw [split]
        rfl

theorem digitsValue_append (left right : JsString) :
    digitsValue (left ++ right) = digitsValue left * 10 ^ right.length + digitsValue right := by
  have shift : ∀ (digits : JsString) (start : ℕ),
      digits.foldl (fun value unit => 10 * value + (unit.toNat - 48)) start =
        start * 10 ^ digits.length + digitsValue digits := by
    intro digits
    induction digits with
    | nil => intro start; simp [digitsValue]
    | cons unit rest ih =>
        intro start
        rw [digitsValue, List.foldl_cons, List.foldl_cons, ih, ih (10 * 0 + _), List.length_cons]
        ring
  rw [digitsValue, List.foldl_append, shift]
  rfl

private theorem digitsValue_zeros (count : ℕ) : digitsValue (List.replicate count 48) = 0 := by
  induction count with
  | zero => rfl
  | succ count ih =>
      rw [List.replicate_succ', digitsValue_append, ih, Nat.zero_mul]
      rfl

/-! ## Writing a number -/

/-- The digits without the zeros at their end. -/
def withoutTrailingZeros (digits : JsString) : JsString :=
  (digits.reverse.dropWhile (· == 48)).reverse

/-- The digits of a number with its point behind `point` of them, as `Number::toString` lays
them out. -/
def formatDigits (digits : JsString) (point : ℤ) : JsString :=
  if digits.length ≤ point ∧ point ≤ 21 then
    digits ++ List.replicate (point - digits.length).toNat 48
  else if 0 < point ∧ point ≤ 21 then
    digits.take point.toNat ++ 46 :: digits.drop point.toNat
  else if -6 < point ∧ point ≤ 0 then
    48 :: 46 :: (List.replicate (-point).toNat 48 ++ digits)
  else
    let fraction := if digits.length = 1 then [] else 46 :: digits.drop 1
    let sign : CodeUnit := if point - 1 < 0 then 45 else 43
    digits.take 1 ++ fraction ++ 101 :: sign :: decimalDigits (point - 1).natAbs

/-- The shortest text of a magnitude. -/
def magnitudeText (magnitude : ℕ) : JsString :=
  let decimal := shortestDecimal magnitude
  let digits := decimalDigits decimal.1
  formatDigits (withoutTrailingZeros digits) (digits.length + decimal.2)

/-- `String(value)` of a finite number. -/
def Double.text (value : Double) : JsString :=
  if value.units = 0 then [48]
  else if value.units < 0 then 45 :: magnitudeText value.units.natAbs
  else magnitudeText value.units.natAbs

/-! ## Reading a number -/

/-- `(-1) ^ negative * significand * 10 ^ exponent`. -/
structure Decimal where
  negative : Bool
  significand : ℕ
  exponent : ℤ
  deriving DecidableEq, Repr

/-- `\d+`, as a number. -/
def readDigits (text : JsString) : Option ℕ :=
  if text ≠ [] ∧ text.all isDigitUnit = true then some (digitsValue text) else none

/-- `(?:[eE][+-]?\d+)?`, as an exponent. -/
def readExponent : JsString → Option ℤ
  | [] => some 0
  | marker :: rest =>
      if marker = 101 ∨ marker = 69 then
        match rest with
        | [] => none
        | sign :: digits =>
            if sign = 45 then (readDigits digits).map fun value : ℕ => (-value : ℤ)
            else if sign = 43 then (readDigits digits).map fun value : ℕ => (value : ℤ)
            else (readDigits rest).map fun value : ℕ => (value : ℤ)
      else none

/-- `(?:\.\d+)?`, with what follows it. -/
def readFraction : JsString → Option (JsString × JsString)
  | [] => some ([], [])
  | point :: rest =>
      if point = 46 then
        if rest.takeWhile isDigitUnit = [] then none
        else some (rest.takeWhile isDigitUnit, rest.dropWhile isDigitUnit)
      else some ([], point :: rest)

/-- `(?:0|[1-9]\d*)(?:\.\d+)?(?:[eE][+-]?\d+)?`. -/
def readUnsigned (text : JsString) : Option (ℕ × ℤ) := do
  let whole := text.takeWhile isDigitUnit
  if whole = [] ∨ (whole.head? = some 48 ∧ whole ≠ [48]) then none
  let (fraction, rest) ← readFraction (text.dropWhile isDigitUnit)
  let exponent ← readExponent rest
  some (digitsValue (whole ++ fraction), exponent - fraction.length)

/-- The text of a JSON number. -/
def readDecimal (text : JsString) : Option Decimal :=
  if text.head? = some 45 then
    (readUnsigned text.tail).map fun (significand, exponent) => ⟨true, significand, exponent⟩
  else
    (readUnsigned text).map fun (significand, exponent) => ⟨false, significand, exponent⟩

/-- The number nearest to a decimal. -/
def Decimal.number (decimal : Decimal) : JsNumber :=
  let magnitude := roundDecimal decimal.significand decimal.exponent
  if bounded : magnitude < 2 ^ doubleBits then
    .finite {
      units := if decimal.negative then -magnitude else magnitude
      representable := by
        have double : isDouble magnitude = true := roundMagnitude_isDouble bounded
        split
        · rw [Int.natAbs_neg, Int.natAbs_natCast]
          exact double
        · rw [Int.natAbs_natCast]
          exact double }
  else .infinite decimal.negative

/-- `Number(text)`, for the text of a JSON number. -/
def readNumber (text : JsString) : Option JsNumber :=
  (readDecimal text).map Decimal.number

/-! ## A number reads back -/

/-- A common factor does not change what a quotient rounds to. -/
theorem roundMagnitude_scale {factor numerator denominator : ℕ} (positive : 0 < factor) :
    roundMagnitude (factor * numerator) (factor * denominator) =
      roundMagnitude numerator denominator := by
  have quotient : ∀ denominator, roundQuotient (factor * numerator) (factor * denominator) =
      roundQuotient numerator denominator := by
    intro denominator
    simp only [roundQuotient, Nat.mul_div_mul_left _ _ positive, Nat.mul_mod_mul_left,
      Nat.mul_left_comm 2 factor, Nat.mul_lt_mul_left positive, Nat.mul_right_inj positive.ne']
  unfold roundMagnitude
  dsimp only
  rw [Nat.mul_div_mul_left _ _ positive, Nat.mul_assoc, quotient]

private theorem roundDecimal_zero (exponent : ℤ) : roundDecimal 0 exponent = 0 := by
  rw [roundDecimal, Nat.zero_mul, Nat.zero_mul]
  simp [roundMagnitude, roundQuotient]

/-- Zeros behind the digits of a decimal make up for a smaller exponent. -/
theorem roundDecimal_zeros (significand zeros : ℕ) (exponent : ℤ) :
    roundDecimal (significand * 10 ^ zeros) exponent =
      roundDecimal significand (exponent + zeros) := by
  unfold roundDecimal
  have lowered : (-exponent).toNat =
      ((-exponent).toNat - (-(exponent + zeros)).toNat) + (-(exponent + zeros)).toNat := by
    omega
  have raised : zeros + exponent.toNat =
      ((-exponent).toNat - (-(exponent + zeros)).toNat) + (exponent + zeros).toNat := by
    omega
  generalize (-exponent).toNat - (-(exponent + zeros)).toNat = shift at lowered raised
  have numerators : significand * 10 ^ zeros * 10 ^ exponent.toNat * 2 ^ doublePlaces =
      10 ^ shift * (significand * 10 ^ (exponent + zeros).toNat * 2 ^ doublePlaces) := by
    rw [Nat.mul_assoc significand, ← Nat.pow_add, raised, Nat.pow_add]
    ring
  rw [numerators, lowered, Nat.pow_add, roundMagnitude_scale (Nat.pow_pos (by decide))]

/-- The units of a number's text. -/
def isNumberUnit (unit : CodeUnit) : Bool :=
  isDigitUnit unit || unit == 43 || unit == 45 || unit == 46 || unit == 69 || unit == 101

/-- A fraction behind its point, or nothing. -/
def pointed (fraction : JsString) : JsString :=
  if fraction = [] then [] else 46 :: fraction

/-- The parts of an unsigned number's text. -/
structure IsNumberLayout (text whole fraction tail : JsString) (exponent : ℤ) : Prop where
  split : text = whole ++ (pointed fraction ++ tail)
  nonempty : whole ≠ []
  leading : whole.head? = some 48 → whole = [48]
  wholeDigits : ∀ unit ∈ whole, isDigitUnit unit = true
  fractionDigits : ∀ unit ∈ fraction, isDigitUnit unit = true
  tailHead : ∀ unit ∈ tail.head?, isDigitUnit unit = false ∧ unit ≠ 46
  tailUnits : ∀ unit ∈ tail, isNumberUnit unit = true
  tailExponent : readExponent tail = some exponent

namespace IsNumberLayout

variable {text whole fraction tail : JsString} {exponent : ℤ}

private theorem afterWhole (layout : IsNumberLayout text whole fraction tail exponent) :
    ∀ unit ∈ (pointed fraction ++ tail).head?, isDigitUnit unit = false := by
  intro unit member
  unfold pointed at member
  split at member
  · exact (layout.tailHead unit member).1
  · cases member
    decide

private theorem readFraction_eq (layout : IsNumberLayout text whole fraction tail exponent) :
    readFraction (pointed fraction ++ tail) = some (fraction, tail) := by
  by_cases empty : fraction = []
  · rw [empty, pointed, if_pos rfl, List.nil_append]
    cases tailEq : tail with
    | nil => rfl
    | cons unit rest =>
        have other := (layout.tailHead unit (by rw [tailEq]; rfl)).2
        rw [readFraction, if_neg other]
  · have ends : ∀ unit ∈ tail.head?, isDigitUnit unit = false :=
      fun unit member => (layout.tailHead unit member).1
    have span := span_append layout.fractionDigits ends
    rw [List.span_eq_takeWhile_dropWhile, Prod.mk.injEq] at span
    rw [pointed, if_neg empty, List.cons_append, readFraction, if_pos rfl, span.1, span.2,
      if_neg empty]

/-- A text with these parts reads as the number of its digits. -/
theorem reads (layout : IsNumberLayout text whole fraction tail exponent) :
    readUnsigned text = some (digitsValue (whole ++ fraction), exponent - fraction.length) := by
  have span := span_append layout.wholeDigits layout.afterWhole
  rw [List.span_eq_takeWhile_dropWhile, Prod.mk.injEq] at span
  have shaped : ¬ (whole = [] ∨ (whole.head? = some 48 ∧ whole ≠ [48])) := by
    rintro (empty | ⟨zero, more⟩)
    · exact layout.nonempty empty
    · exact more (layout.leading zero)
  rw [layout.split, readUnsigned, span.1, span.2, if_neg shaped, layout.readFraction_eq]
  simp only [layout.tailExponent, Option.bind_eq_bind, Option.bind_some]

theorem units (layout : IsNumberLayout text whole fraction tail exponent) :
    ∀ unit ∈ text, isNumberUnit unit = true := by
  have digits : ∀ unit, isDigitUnit unit = true → isNumberUnit unit = true := by
    intro unit digit
    simp only [isNumberUnit, digit, Bool.true_or]
  intro unit member
  rw [layout.split, List.mem_append, List.mem_append] at member
  rcases member with inWhole | inFraction | inTail
  · exact digits unit (layout.wholeDigits unit inWhole)
  · unfold pointed at inFraction
    split at inFraction
    · cases inFraction
    · rcases List.mem_cons.mp inFraction with rfl | inside
      · decide
      · exact digits unit (layout.fractionDigits unit inside)
  · exact layout.tailUnits unit inTail

/-- The text begins with a digit. -/
theorem head (layout : IsNumberLayout text whole fraction tail exponent) :
    ∃ unit rest, text = unit :: rest ∧ isDigitUnit unit = true := by
  cases wholeEq : whole with
  | nil => exact absurd wholeEq layout.nonempty
  | cons unit rest =>
      refine ⟨unit, rest ++ (pointed fraction ++ tail), ?_, ?_⟩
      · rw [layout.split, wholeEq, List.cons_append]
      · exact layout.wholeDigits unit (by rw [wholeEq]; exact List.mem_cons_self)

end IsNumberLayout

private theorem readDigits_decimalDigits (value : ℕ) : readDigits (decimalDigits value) =
    some value := by
  have digits : (decimalDigits value).all isDigitUnit = true :=
    List.all_eq_true.mpr fun unit member => decimalDigits_isDigit member
  rw [readDigits, if_pos ⟨decimalDigits_ne_nil, digits⟩, digitsValue_decimalDigits]

section

variable {digits : JsString} {point : ℤ} {first : CodeUnit} {others : JsString}

private theorem zerosAreDigits {count : ℕ} {unit : CodeUnit}
    (member : unit ∈ List.replicate count 48) :
    isDigitUnit unit = true := by
  rw [List.eq_of_mem_replicate member]
  decide

/-- The parts of an unsigned text that reads as `digits` with the point behind `point` of them. -/
def LaysOut (digits : JsString) (point : ℤ) (text : JsString) : Prop :=
  ∃ whole fraction tail exponent, IsNumberLayout text whole fraction tail exponent ∧
    roundDecimal (digitsValue (whole ++ fraction)) (exponent - fraction.length) =
      roundDecimal (digitsValue digits) (point - digits.length)

/-- A whole number, with zeros for the digits it lacks. -/
theorem laysOut_whole (split : digits = first :: others) (nonzero : first ≠ 48)
    (areDigits : ∀ unit ∈ digits, isDigitUnit unit = true) (long : digits.length ≤ point) :
    LaysOut digits point (digits ++ List.replicate (point - digits.length).toNat 48) := by
  refine ⟨digits ++ List.replicate (point - digits.length).toNat 48, [], [], 0,
    ⟨by simp [pointed], ?_, ?_, ?_, nofun, nofun, nofun, rfl⟩, ?_⟩
  · simp [split]
  · intro zero
    rw [split] at zero
    exact absurd (Option.some.inj zero) nonzero
  · intro unit member
    rcases List.mem_append.mp member with inside | inside
    · exact areDigits unit inside
    · exact zerosAreDigits inside
  · rw [List.append_nil, digitsValue_append, digitsValue_zeros, Nat.add_zero,
      List.length_replicate, roundDecimal_zeros]
    congr 1
    simp only [List.length_nil]
    omega

/-- The point among the digits. -/
theorem laysOut_inside (split : digits = first :: others) (nonzero : first ≠ 48)
    (areDigits : ∀ unit ∈ digits, isDigitUnit unit = true) (positive : 0 < point)
    (short : point < digits.length) :
    LaysOut digits point (digits.take point.toNat ++ 46 :: digits.drop point.toNat) := by
  have fraction : digits.drop point.toNat ≠ [] := by
    rw [ne_eq, List.drop_eq_nil_iff]
    omega
  refine ⟨digits.take point.toNat, digits.drop point.toNat, [], 0,
    ⟨by simp [pointed, fraction], ?_, ?_, ?_, ?_, nofun, nofun, rfl⟩, ?_⟩
  · rw [ne_eq, List.take_eq_nil_iff, split]
    simp
    omega
  · intro zero
    rw [split, List.head?_take, if_neg (by omega)] at zero
    exact absurd (Option.some.inj zero) nonzero
  · exact fun unit member => areDigits unit (List.mem_of_mem_take member)
  · exact fun unit member => areDigits unit (List.mem_of_mem_drop member)
  · rw [List.take_append_drop, List.length_drop]
    congr 1
    omega

/-- A number below one, with zeros between the point and the digits. -/
theorem laysOut_small (split : digits = first :: others)
    (areDigits : ∀ unit ∈ digits, isDigitUnit unit = true) (small : point ≤ 0) :
    LaysOut digits point (48 :: 46 :: (List.replicate (-point).toNat 48 ++ digits)) := by
  refine ⟨[48], List.replicate (-point).toNat 48 ++ digits, [], 0,
    ⟨by simp [pointed, split], by simp, fun _ => rfl, ?_, ?_, nofun, nofun, rfl⟩, ?_⟩
  · exact fun unit member => @zerosAreDigits 1 unit member
  · intro unit member
    rcases List.mem_append.mp member with inside | inside
    · exact zerosAreDigits inside
    · exact areDigits unit inside
  · rw [← List.append_assoc, ← List.replicate_one, List.replicate_append_replicate,
      digitsValue_append, digitsValue_zeros, Nat.zero_mul, Nat.zero_add]
    congr 1
    rw [List.length_append, List.length_replicate]
    omega

/-- One digit before the point, and an exponent. -/
theorem laysOut_exponent (split : digits = first :: others) (nonzero : first ≠ 48)
    (areDigits : ∀ unit ∈ digits, isDigitUnit unit = true) :
    LaysOut digits point (digits.take 1 ++
      (if digits.length = 1 then [] else 46 :: digits.drop 1) ++
      101 :: (if point - 1 < 0 then 45 else 43) :: decimalDigits (point - 1).natAbs) := by
  have fraction : (if digits.length = 1 then [] else 46 :: digits.drop 1) =
      pointed (digits.drop 1) := by
    unfold pointed
    rw [split]
    cases others with
    | nil => rfl
    | cons _ _ => rfl
  refine ⟨digits.take 1, digits.drop 1,
    101 :: (if point - 1 < 0 then 45 else 43) :: decimalDigits (point - 1).natAbs, point - 1,
    ⟨by rw [fraction, List.append_assoc], ?_, ?_, ?_, ?_, ?_, ?_, ?_⟩, ?_⟩
  · simp [split]
  · intro zero
    rw [split] at zero
    exact absurd (Option.some.inj zero) nonzero
  · exact fun unit member => areDigits unit (List.mem_of_mem_take member)
  · exact fun unit member => areDigits unit (List.mem_of_mem_drop member)
  · intro unit member
    cases member
    decide
  · intro unit member
    rcases List.mem_cons.mp member with rfl | member
    · decide
    rcases List.mem_cons.mp member with rfl | member
    · split <;> decide
    · simp only [isNumberUnit, decimalDigits_isDigit member, Bool.true_or]
  · rw [readExponent, if_pos (.inl rfl)]
    by_cases negative : point - 1 < 0
    · rw [if_pos negative, if_pos rfl, readDigits_decimalDigits, Option.map_some]
      congr 1
      omega
    · rw [if_neg negative, if_neg (by decide), if_pos rfl, readDigits_decimalDigits,
        Option.map_some]
      congr 1
      omega
  · rw [List.take_append_drop, List.length_drop]
    congr 1
    rw [split]
    simp only [List.length_cons]
    omega

/-- **The laid out digits of a number read back**, wherever their point stands. -/
theorem laysOut_formatDigits (split : digits = first :: others) (nonzero : first ≠ 48)
    (areDigits : ∀ unit ∈ digits, isDigitUnit unit = true) :
    LaysOut digits point (formatDigits digits point) := by
  unfold formatDigits
  by_cases whole : digits.length ≤ point ∧ point ≤ 21
  · rw [if_pos whole]
    exact laysOut_whole split nonzero areDigits whole.1
  rw [if_neg whole]
  by_cases inside : 0 < point ∧ point ≤ 21
  · rw [if_pos inside]
    exact laysOut_inside split nonzero areDigits inside.1 (by omega)
  rw [if_neg inside]
  by_cases small : -6 < point ∧ point ≤ 0
  · rw [if_pos small]
    exact laysOut_small split areDigits small.2
  · rw [if_neg small]
    exact laysOut_exponent split nonzero areDigits

end

/-- Trailing zeros only move the exponent. -/
theorem withoutTrailingZeros_split (digits : JsString) :
    ∃ count, digits = withoutTrailingZeros digits ++ List.replicate count 48 := by
  refine ⟨(digits.reverse.takeWhile (· == 48)).length, ?_⟩
  have zeros : digits.reverse.takeWhile (· == 48) =
      List.replicate (digits.reverse.takeWhile (· == 48)).length 48 := by
    rw [List.eq_replicate_iff]
    refine ⟨rfl, fun unit member => ?_⟩
    have isZero := List.mem_takeWhile_imp member
    exact beq_iff_eq.mp isZero
  rw [← List.reverse_replicate, ← zeros, withoutTrailingZeros, ← List.reverse_append,
    List.takeWhile_append_dropWhile, List.reverse_reverse]

/-- The text of a magnitude reads as a decimal that rounds to it. -/
theorem magnitudeText_reads {magnitude : ℕ} (double : isDouble magnitude = true)
    (positive : 0 < magnitude) :
    ∃ whole fraction tail exponent,
      IsNumberLayout (magnitudeText magnitude) whole fraction tail exponent ∧
      roundDecimal (digitsValue (whole ++ fraction)) (exponent - fraction.length) = magnitude := by
  have rounds := roundDecimal_shortest double
  unfold magnitudeText
  generalize shortestDecimal magnitude = decimal at rounds ⊢
  obtain ⟨significand, exponent⟩ := decimal
  dsimp only at rounds ⊢
  have nonzero : 0 < significand := by
    rcases Nat.eq_zero_or_pos significand with zero | some
    · rw [zero, roundDecimal_zero] at rounds
      omega
    · exact some
  obtain ⟨first, rest, split, leading⟩ := decimalDigits_head nonzero
  obtain ⟨count, zeros⟩ := withoutTrailingZeros_split (decimalDigits significand)
  have value := digitsValue_decimalDigits significand
  have areDigits : ∀ unit ∈ withoutTrailingZeros (decimalDigits significand),
      isDigitUnit unit = true := by
    intro unit member
    refine @decimalDigits_isDigit significand unit ?_
    rw [zeros]
    exact List.mem_append_left _ member
  generalize withoutTrailingZeros (decimalDigits significand) = digits at zeros areDigits ⊢
  have lengths : (decimalDigits significand).length = digits.length + count := by
    rw [zeros, List.length_append, List.length_replicate]
  rw [zeros, digitsValue_append, digitsValue_zeros, List.length_replicate, Nat.add_zero] at value
  cases digits with
  | nil =>
      rw [split, List.nil_append] at zeros
      cases count with
      | zero => cases zeros
      | succ count =>
          rw [List.replicate_succ, List.cons.injEq] at zeros
          exact absurd zeros.1 leading
  | cons unit others =>
      have same : unit = first := by
        rw [split, List.cons_append, List.cons.injEq] at zeros
        exact zeros.1.symm
      obtain ⟨whole, fraction, tail, power, layout, reads⟩ :=
        @laysOut_formatDigits _ ((decimalDigits significand).length + exponent) unit others rfl
          (same ▸ leading) areDigits
      refine ⟨whole, fraction, tail, power, layout, ?_⟩
      have point : ((decimalDigits significand).length : ℤ) + exponent -
          ((unit :: others).length : ℤ) = exponent + count := by
        rw [lengths]
        push_cast
        ring
      rw [reads, point, ← roundDecimal_zeros, value, rounds]

private theorem Decimal.number_eq {decimal : Decimal} {value : Double}
    (rounds : roundDecimal decimal.significand decimal.exponent = value.units.natAbs)
    (sign : (if decimal.negative then -(value.units.natAbs : ℤ) else value.units.natAbs) =
      value.units) :
    decimal.number = .finite value := by
  have double := value.representable
  simp only [isDouble, Bool.and_eq_true, decide_eq_true_eq] at double
  unfold Decimal.number
  rw [dif_pos (rounds ▸ double.2)]
  congr 1
  apply Double.ext
  refine Eq.trans ?_ sign
  dsimp only
  rw [rounds]

/-- **A number reads back from its text.** -/
theorem readNumber_text (value : Double) : readNumber value.text = some (.finite value) := by
  unfold Double.text
  split
  · rename_i zero
    have reads : readDecimal [48] = some ⟨false, 0, 0⟩ := rfl
    rw [readNumber, reads, Option.map_some]
    refine congrArg some (@Decimal.number_eq ⟨false, 0, 0⟩ value ?_ ?_)
    · rw [zero]
      exact roundDecimal_zero 0
    · rw [zero]
      rfl
  · rename_i nonzero
    obtain ⟨whole, fraction, tail, exponent, layout, rounds⟩ :=
      magnitudeText_reads value.representable (Int.natAbs_pos.mpr nonzero)
    split
    · rename_i negative
      rw [readNumber, readDecimal, List.head?_cons, if_pos rfl, List.tail_cons, layout.reads,
        Option.map_some, Option.map_some]
      refine congrArg some (@Decimal.number_eq ⟨true, _, _⟩ value rounds ?_)
      rw [if_pos rfl]
      omega
    · rename_i nonnegative
      obtain ⟨unit, rest, text, digit⟩ := layout.head
      have unsigned : (magnitudeText value.units.natAbs).head? ≠ some 45 := by
        rw [text, List.head?_cons]
        rintro ⟨⟩
        revert digit
        decide
      rw [readNumber, readDecimal, if_neg unsigned, layout.reads, Option.map_some, Option.map_some]
      refine congrArg some (@Decimal.number_eq ⟨false, _, _⟩ value rounds ?_)
      rw [if_neg Bool.false_ne_true]
      omega

/-- The text of a number is of number units, and begins with a digit or a minus sign. -/
theorem numberText_units (value : Double) :
    (∀ unit ∈ value.text, isNumberUnit unit = true) ∧
      ∃ unit rest, value.text = unit :: rest ∧ (isDigitUnit unit = true ∨ unit = 45) := by
  unfold Double.text
  split
  · refine ⟨?_, 48, [], rfl, .inl (by decide)⟩
    intro unit member
    rw [List.mem_singleton.mp member]
    decide
  · rename_i nonzero
    obtain ⟨whole, fraction, tail, exponent, layout, _⟩ :=
      magnitudeText_reads value.representable (Int.natAbs_pos.mpr nonzero)
    split
    · refine ⟨?_, 45, _, rfl, .inr rfl⟩
      intro unit member
      rcases List.mem_cons.mp member with rfl | member
      · decide
      · exact layout.units unit member
    · obtain ⟨unit, rest, text, digit⟩ := layout.head
      exact ⟨layout.units, unit, rest, text, .inl digit⟩

end Kurobara.Foundation
