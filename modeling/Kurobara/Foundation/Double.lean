import Mathlib.Tactic.Ring

/-! # Double-precision numbers

The finite doubles as exact integers: a magnitude counts units of the smallest positive double,
`2 ^ -1074`, and is a double when the bits below its 53 leading ones vanish. A decimal rounds to
the nearest double, ties to even, and every double is the rounding of a shortest decimal. The
sign of zero is not kept.
-/

namespace Kurobara.Foundation

/-- The binary places of a double behind the point, and so its decimal places. -/
def doublePlaces : ℕ := 1074

/-- The bits of the greatest double, down to those places. -/
def doubleBits : ℕ := 2098

/-- The place of the lowest bit that a double of this magnitude can have. -/
def lowestPlace (magnitude : ℕ) : ℕ :=
  magnitude.log2 - 52

/-- The magnitudes of finite doubles. -/
def isDouble (magnitude : ℕ) : Bool :=
  decide (magnitude % 2 ^ lowestPlace magnitude = 0) && decide (magnitude < 2 ^ doubleBits)

/-- A finite double, in units of `2 ^ -1074`. -/
structure Double where
  units : ℤ
  representable : isDouble units.natAbs = true
  deriving DecidableEq

theorem Double.ext {left right : Double} (same : left.units = right.units) : left = right := by
  cases left
  cases right
  cases same
  rfl

/-- The quotient, rounded to the nearest integer, ties to even. -/
def roundQuotient (numerator denominator : ℕ) : ℕ :=
  let quotient := numerator / denominator
  let rest := numerator % denominator
  if 2 * rest < denominator ∨ (2 * rest = denominator ∧ quotient % 2 = 0) then quotient
  else quotient + 1

/-- The quotient, rounded to the nearest magnitude with 53 leading bits. -/
def roundMagnitude (numerator denominator : ℕ) : ℕ :=
  let place := lowestPlace (numerator / denominator)
  roundQuotient numerator (denominator * 2 ^ place) * 2 ^ place

/-- The magnitude to which `significand * 10 ^ exponent` rounds. -/
def roundDecimal (significand : ℕ) (exponent : ℤ) : ℕ :=
  roundMagnitude (significand * 10 ^ exponent.toNat * 2 ^ doublePlaces) (10 ^ (-exponent).toNat)

theorem roundQuotient_exact {quotient denominator : ℕ} (positive : 0 < denominator) :
    roundQuotient (quotient * denominator) denominator = quotient := by
  simp [roundQuotient, Nat.mul_div_cancel _ positive, positive]

/-- A multiple of the denominator whose quotient is a double rounds to that quotient. -/
theorem roundMagnitude_exact {magnitude denominator : ℕ} (double : isDouble magnitude = true)
    (positive : 0 < denominator) :
    roundMagnitude (magnitude * denominator) denominator = magnitude := by
  simp only [isDouble, Bool.and_eq_true, decide_eq_true_eq] at double
  obtain ⟨leading, split⟩ := Nat.dvd_of_mod_eq_zero double.1
  unfold roundMagnitude
  simp only [Nat.mul_div_cancel _ positive]
  have shifted : magnitude * denominator =
      leading * (denominator * 2 ^ lowestPlace magnitude) := by
    calc magnitude * denominator
        = 2 ^ lowestPlace magnitude * leading * denominator := by rw [← split]
      _ = leading * (denominator * 2 ^ lowestPlace magnitude) := by ring
  rw [shifted, roundQuotient_exact (Nat.mul_pos positive (Nat.two_pow_pos _)), Nat.mul_comm,
    ← split]

private theorem roundQuotient_le_succ {numerator denominator : ℕ} :
    roundQuotient numerator denominator ≤ numerator / denominator + 1 := by
  unfold roundQuotient
  dsimp only
  split
  · exact Nat.le_succ _
  · exact le_refl _

/-- What is rounded below the greatest double is a double. -/
theorem roundMagnitude_isDouble {numerator denominator : ℕ}
    (bounded : roundMagnitude numerator denominator < 2 ^ doubleBits) :
    isDouble (roundMagnitude numerator denominator) = true := by
  have leading_le : roundQuotient numerator
      (denominator * 2 ^ lowestPlace (numerator / denominator)) ≤ 2 ^ 53 := by
    refine le_trans roundQuotient_le_succ (Nat.succ_le_of_lt ?_)
    rw [← Nat.div_div_eq_div_mul]
    refine Nat.div_lt_of_lt_mul ?_
    rw [← Nat.pow_add]
    refine lt_of_lt_of_le Nat.lt_log2_self (Nat.pow_le_pow_right (by decide) ?_)
    unfold lowestPlace
    omega
  simp only [isDouble, bounded, decide_true, Bool.and_true, decide_eq_true_eq]
  unfold roundMagnitude at bounded ⊢
  dsimp only at bounded ⊢
  generalize roundQuotient numerator (denominator * 2 ^ lowestPlace (numerator / denominator)) =
    leading at leading_le ⊢
  generalize lowestPlace (numerator / denominator) = place
  rcases Nat.lt_or_eq_of_le leading_le with small | full
  · -- The result has no bit below its place, which is not above the lowest it may have.
    refine Nat.mod_eq_zero_of_dvd (dvd_trans (Nat.pow_dvd_pow 2 ?_) (Nat.dvd_mul_left _ _))
    rcases Nat.eq_zero_or_pos leading with none | some
    · simp [none, lowestPlace]
    · have within : leading * 2 ^ place < 2 ^ (place + 53) := by
        rw [Nat.pow_add, Nat.mul_comm]
        exact Nat.mul_lt_mul_of_pos_left small (Nat.two_pow_pos place)
      have top := (Nat.log2_lt (Nat.mul_pos some (Nat.two_pow_pos place)).ne').mpr within
      unfold lowestPlace
      omega
  · rw [full, ← Nat.pow_add, lowestPlace, Nat.log2_two_pow]
    exact Nat.mod_eq_zero_of_dvd (Nat.pow_dvd_pow 2 (by omega))

/-! ## The shortest decimal -/

/-- The significands next to an exact decimal after digits are dropped, the nearest first. -/
def decimalCandidates (exact dropped : ℕ) : List ℕ :=
  let below := exact / 10 ^ dropped
  if roundQuotient exact (10 ^ dropped) = below then [below, below + 1] else [below + 1, below]

/-- The digits of a magnitude without rounding, all places behind the point among them. -/
def exactDecimal (magnitude : ℕ) : ℕ :=
  magnitude * 5 ^ doublePlaces

/-- The nearest decimal without the dropped digits, if it rounds to the magnitude. -/
def decimalWithout (magnitude dropped : ℕ) : Option (ℕ × ℤ) :=
  ((decimalCandidates (exactDecimal magnitude) dropped).find? fun significand =>
    roundDecimal significand (dropped - doublePlaces) == magnitude).map fun significand =>
      (significand, (dropped - doublePlaces : ℤ))

/-- The significand and exponent of a decimal with the fewest digits that rounds to the
magnitude, and of those the nearest to it. -/
def shortestDecimal (magnitude : ℕ) : ℕ × ℤ :=
  ((List.range (Nat.toDigits 10 (exactDecimal magnitude)).length).reverse.findSome?
    (decimalWithout magnitude)).getD (exactDecimal magnitude, -doublePlaces)

private theorem roundDecimal_exact {magnitude : ℕ} (double : isDouble magnitude = true) :
    roundDecimal (exactDecimal magnitude) (-doublePlaces) = magnitude := by
  have raised : (-(doublePlaces : ℤ)).toNat = 0 := Int.toNat_neg_natCast doublePlaces
  have lowered : (-(-(doublePlaces : ℤ))).toNat = doublePlaces := by
    rw [neg_neg, Int.toNat_natCast]
  have scaled : exactDecimal magnitude * 10 ^ (-(doublePlaces : ℤ)).toNat * 2 ^ doublePlaces =
      magnitude * 10 ^ (-(-(doublePlaces : ℤ))).toNat := by
    rw [raised, lowered, exactDecimal, Nat.pow_zero, Nat.mul_one, Nat.mul_assoc, ← Nat.mul_pow]
  unfold roundDecimal
  rw [scaled]
  exact roundMagnitude_exact double (Nat.pow_pos (by decide))

private theorem roundDecimal_without {magnitude dropped : ℕ} {decimal : ℕ × ℤ}
    (chosen : decimalWithout magnitude dropped = some decimal) :
    roundDecimal decimal.1 decimal.2 = magnitude := by
  obtain ⟨significand, rounds, rfl⟩ := Option.map_eq_some_iff.mp chosen
  have round := List.find?_some rounds
  simp only [beq_iff_eq] at round
  exact round

/-- **The shortest decimal of a double rounds to it.** -/
theorem roundDecimal_shortest {magnitude : ℕ} (double : isDouble magnitude = true) :
    roundDecimal (shortestDecimal magnitude).1 (shortestDecimal magnitude).2 = magnitude := by
  unfold shortestDecimal
  generalize (List.range _).reverse = places
  cases found : places.findSome? (decimalWithout magnitude) with
  | none =>
      rw [Option.getD_none]
      exact roundDecimal_exact double
  | some decimal =>
      rw [Option.getD_some]
      obtain ⟨dropped, _, chosen⟩ := List.exists_of_findSome?_eq_some found
      exact roundDecimal_without chosen

end Kurobara.Foundation
