import Kurobara.Foundation.Double
import Mathlib.Algebra.Order.Ring.Rat
import Mathlib.Data.Rat.Cast.Order

/-! # Sums of doubles

Decimals that are read as doubles and added from the left, each sum rounded to the nearest
double. Whole numbers whose sum has at most 53 bits are added without rounding.
-/

namespace Kurobara.Foundation

/-- The double nearest to a rational from zero on, if it is below the greatest double. -/
def nearestDouble (value : ℚ) : ℚ :=
  roundMagnitude (value.num.toNat * 2 ^ doublePlaces) value.den / 2 ^ doublePlaces

/-- A running sum, rounded to the nearest double after each addition. -/
def sumDoublesFrom (total : ℚ) (values : List ℚ) : ℚ :=
  values.foldl (fun total value => nearestDouble (total + nearestDouble value)) total

private theorem isDouble_whole {number : ℕ} (bounded : number < 2 ^ 53) :
    isDouble (number * 2 ^ doublePlaces) = true := by
  have below : number * 2 ^ doublePlaces < 2 ^ (53 + doublePlaces) := by
    generalize doublePlaces = places
    rw [Nat.pow_add]
    exact Nat.mul_lt_mul_of_pos_right bounded (Nat.two_pow_pos places)
  have place : lowestPlace (number * 2 ^ doublePlaces) ≤ doublePlaces := by
    rcases Nat.eq_zero_or_pos number with rfl | positive
    · simp [lowestPlace]
    · have top := (Nat.log2_lt (Nat.mul_pos positive (Nat.two_pow_pos _)).ne').mpr below
      unfold lowestPlace
      omega
  have divides : 2 ^ lowestPlace (number * 2 ^ doublePlaces) ∣ number * 2 ^ doublePlaces :=
    Dvd.dvd.mul_left (Nat.pow_dvd_pow 2 place) number
  have inRange : number * 2 ^ doublePlaces < 2 ^ doubleBits :=
    lt_of_lt_of_le below (Nat.pow_le_pow_right (by decide) (by decide))
  rw [isDouble, decide_eq_true (Nat.mod_eq_zero_of_dvd divides), decide_eq_true inRange]
  rfl

/-- A whole number of at most 53 bits is a double. -/
theorem nearestDouble_whole {number : ℕ} (bounded : number < 2 ^ 53) :
    nearestDouble number = number := by
  have rounds := roundMagnitude_exact (isDouble_whole bounded) Nat.one_pos
  rw [Nat.mul_one] at rounds
  rw [nearestDouble, Rat.num_natCast, Rat.den_natCast, Int.toNat_natCast, rounds, Nat.cast_mul,
    Nat.cast_pow, Nat.cast_ofNat]
  exact mul_div_cancel_right₀ _ (pow_ne_zero _ two_ne_zero)

/-- Whole numbers below 2^53 are summed without rounding. -/
theorem sumDoublesFrom_whole {total : ℕ} {values : List ℕ} (bounded : total + values.sum < 2 ^ 53) :
    sumDoublesFrom total (values.map Nat.cast) = (total + values.sum : ℕ) := by
  induction values generalizing total with
  | nil => rfl
  | cons value values ih =>
      rw [List.sum_cons] at bounded
      have here : value < 2 ^ 53 := by omega
      have next : total + value < 2 ^ 53 := by omega
      have rest := ih (show total + value + values.sum < 2 ^ 53 by omega)
      rw [List.sum_cons, ← Nat.add_assoc, ← rest, List.map_cons]
      simp only [sumDoublesFrom, List.foldl_cons, nearestDouble_whole here]
      rw [← Nat.cast_add, nearestDouble_whole next]

/-- Two doubles differ by at most some units of the last place of the greater one. -/
def doublesAreClose (units : ℕ) (left right : ℚ) : Bool :=
  decide (nearestDouble |left - right| ≤ units / 2 ^ 52 * max 1 (max |left| |right|))

theorem doublesAreClose_self (units : ℕ) (value : ℚ) :
    doublesAreClose units value value = true := by
  have none : nearestDouble 0 = 0 := by
    have whole : nearestDouble (0 : ℕ) = (0 : ℕ) := nearestDouble_whole (by decide)
    rwa [Nat.cast_zero] at whole
  rw [doublesAreClose, sub_self, abs_zero, none, decide_eq_true_eq]
  exact mul_nonneg (div_nonneg (Nat.cast_nonneg _) (pow_nonneg zero_le_two _))
    (le_trans zero_le_one (le_max_left _ _))

end Kurobara.Foundation
