import Kurobara.Foundation.ByteLength

/-! # Numbers that count

The double of a counter, and a bound on the length of its text.
-/

namespace Kurobara.Foundation

/-- The greatest count that one more does not leave unchanged. -/
def greatestCount : ℕ := 2 ^ 53

private theorem isDouble_count {count : ℕ} (exact : count ≤ greatestCount) :
    isDouble (count * 2 ^ doublePlaces) = true := by
  rcases Nat.eq_zero_or_pos count with rfl | positive
  · rw [Nat.zero_mul, isDouble, Nat.zero_mod, decide_eq_true rfl,
      decide_eq_true (Nat.two_pow_pos _)]
    rfl
  · have small : count * 2 ^ doublePlaces < 2 ^ doubleBits := by
      calc count * 2 ^ doublePlaces
          ≤ greatestCount * 2 ^ doublePlaces := Nat.mul_le_mul_right _ exact
        _ < 2 ^ doubleBits := by
            rw [greatestCount, ← Nat.pow_add]
            exact Nat.pow_lt_pow_right (by decide) (by decide)
    rw [isDouble, decide_eq_true small, Bool.and_true, decide_eq_true_eq]
    refine Nat.mod_eq_zero_of_dvd ?_
    rcases Nat.lt_or_eq_of_le exact with below | rfl
    · refine dvd_trans (Nat.pow_dvd_pow 2 ?_) (Nat.dvd_mul_left _ _)
      have bound : count * 2 ^ doublePlaces < 2 ^ (53 + doublePlaces) := by
        rw [Nat.pow_add 2 53 doublePlaces]
        have unit : 0 < 2 ^ doublePlaces := Nat.two_pow_pos _
        generalize 2 ^ doublePlaces = scale at unit ⊢
        exact Nat.mul_lt_mul_of_pos_right below unit
      have top := (Nat.log2_lt (Nat.mul_pos positive (Nat.two_pow_pos _)).ne').mpr bound
      clear small bound
      generalize count * 2 ^ doublePlaces = magnitude at top ⊢
      unfold lowestPlace
      omega
    · rw [greatestCount, ← Nat.pow_add, lowestPlace, Nat.log2_two_pow]
      exact Nat.pow_dvd_pow 2 (by omega)

/-- A counter as a number: incremented one by one, it stays at `2 ^ 53`. -/
def Double.ofCount (count : ℕ) : Double :=
  ⟨(min count greatestCount * 2 ^ doublePlaces : ℕ),
    by rw [Int.natAbs_natCast]; exact isDouble_count (Nat.min_le_right _ _)⟩

/-! ## Its text -/

/-- The shortest decimal of a count drops no less than the places behind the point. -/
theorem shortestDecimal_count {count : ℕ} (positive : 0 < count) (exact : count ≤ greatestCount) :
    (shortestDecimal (count * 2 ^ doublePlaces)).1 ≤ count + 1 ∧
      0 ≤ (shortestDecimal (count * 2 ^ doublePlaces)).2 ∧
      (shortestDecimal (count * 2 ^ doublePlaces)).2 ≤ 16 := by
  have scaled : exactDecimal (count * 2 ^ doublePlaces) = count * 10 ^ doublePlaces := by
    rw [exactDecimal, Nat.mul_assoc, ← Nat.mul_pow]
  have whole : decimalWithout (count * 2 ^ doublePlaces) doublePlaces = some (count, 0) := by
    have rounds : roundDecimal count (doublePlaces - doublePlaces) = count * 2 ^ doublePlaces := by
      rw [sub_self, roundDecimal, Int.toNat_zero, Int.neg_zero, Int.toNat_zero, Nat.pow_zero,
        Nat.mul_one]
      have rounded := @roundMagnitude_exact _ 1 (isDouble_count exact) Nat.one_pos
      rwa [Nat.mul_one] at rounded
    rw [decimalWithout, scaled, decimalCandidates, Nat.mul_div_cancel _ (Nat.pow_pos (by decide)),
      roundQuotient_exact (Nat.pow_pos (by decide)), if_pos rfl, List.find?_cons_of_pos, sub_self]
    · rfl
    · rw [beq_iff_eq]
      exact rounds
  have long : doublePlaces < (Nat.toDigits 10 (count * 10 ^ doublePlaces)).length := by
    rw [← not_le, Nat.length_toDigits_le_iff (by decide) (by decide), not_lt]
    exact Nat.le_mul_of_pos_left _ positive
  have short : (Nat.toDigits 10 (count * 10 ^ doublePlaces)).length ≤ 17 + doublePlaces := by
    rw [Nat.length_toDigits_le_iff (by decide) (by decide),
      Nat.pow_add 10 17 doublePlaces]
    have unit : 0 < 10 ^ doublePlaces := Nat.pow_pos (by decide)
    generalize 10 ^ doublePlaces = scale at unit ⊢
    exact Nat.mul_lt_mul_of_pos_right (lt_of_le_of_lt exact (by decide)) unit
  unfold shortestDecimal
  rw [scaled]
  generalize (Nat.toDigits 10 (count * 10 ^ doublePlaces)).length = places at long short
  cases found : (List.range places).reverse.findSome?
      (decimalWithout (count * 2 ^ doublePlaces)) with
  | none =>
      have refused := List.findSome?_eq_none_iff.mp found doublePlaces
        (List.mem_reverse.mpr (List.mem_range.mpr long))
      rw [whole] at refused
      cases refused
  | some decimal =>
      obtain ⟨skipped, dropped, later, split, chosen, none⟩ := List.findSome?_eq_some_iff.mp found
      have member : dropped ∈ (List.range places).reverse := split ▸ List.mem_append_right _
        List.mem_cons_self
      have below := List.mem_range.mp (List.mem_reverse.mp member)
      have least : doublePlaces ≤ dropped := by
        have descending : (List.range places).reverse.Pairwise (· > ·) :=
          List.pairwise_reverse.mpr List.pairwise_lt_range
        have inside : doublePlaces ∈ (List.range places).reverse :=
          List.mem_reverse.mpr (List.mem_range.mpr long)
        rw [split] at descending inside
        rcases List.mem_append.mp inside with before | after
        · rw [none _ before] at whole
          cases whole
        · rcases List.mem_cons.mp after with same | after
          · exact same.le
          · exact (List.rel_of_pairwise_cons (List.pairwise_append.mp descending).2.1 after).le
      obtain ⟨significand, rounds, rfl⟩ := Option.map_eq_some_iff.mp chosen
      rw [Option.getD_some]
      dsimp only
      refine ⟨?_, by omega, by omega⟩
      have candidate := List.mem_of_find?_eq_some rounds
      have quotient : exactDecimal (count * 2 ^ doublePlaces) / 10 ^ dropped ≤ count := by
        rw [scaled]
        refine Nat.div_le_of_le_mul ?_
        rw [Nat.mul_comm]
        exact Nat.mul_le_mul_right _ (Nat.pow_le_pow_right (by decide) least)
      unfold decimalCandidates at candidate
      dsimp only at candidate
      split_ifs at candidate <;>
        simp only [List.mem_cons, List.not_mem_nil, or_false] at candidate <;> omega

private theorem withoutTrailingZeros_length (digits : JsString) :
    (withoutTrailingZeros digits).length ≤ digits.length := by
  rw [withoutTrailingZeros, List.length_reverse]
  exact le_trans (List.length_dropWhile_le _ _) (List.length_reverse ..).le

theorem decimalDigits_length {value places : ℕ} (positive : 0 < places)
    (below : value < 10 ^ places) : (decimalDigits value).length ≤ places := by
  rw [decimalDigits, List.length_map]
  exact (Nat.length_toDigits_le_iff (by decide) positive).mpr below

private theorem formatDigits_length {digits : JsString} {point : ℤ} (short : digits.length ≤ 17)
    (least : 0 ≤ point) (most : point ≤ 33) : (formatDigits digits point).length ≤ 60 := by
  unfold formatDigits
  split_ifs
  · rw [List.length_append, List.length_replicate]
    omega
  · rw [List.length_append, List.length_cons, List.length_take, List.length_drop]
    omega
  · rw [List.length_cons, List.length_cons, List.length_append, List.length_replicate]
    omega
  all_goals
    have exponent : (decimalDigits (point - 1).natAbs).length ≤ 2 :=
      decimalDigits_length (by decide) (by omega)
    simp only [List.length_append, List.length_cons, List.length_take, List.length_drop,
      List.length_nil]
    omega

/-- **The text of a count is short.** -/
theorem text_ofCount_length (count : ℕ) : (Double.ofCount count).text.length ≤ 60 := by
  unfold Double.text Double.ofCount
  dsimp only
  split_ifs with zero negative
  · decide
  · omega
  · rw [Int.natAbs_natCast]
    have positive : 0 < min count greatestCount := by
      rw [Nat.pos_iff_ne_zero]
      intro none
      rw [none, Nat.zero_mul] at zero
      exact zero rfl
    obtain ⟨small, least, most⟩ := shortestDecimal_count positive (Nat.min_le_right _ _)
    have digits : (decimalDigits (shortestDecimal
        (min count greatestCount * 2 ^ doublePlaces)).1).length ≤ 17 := by
      refine decimalDigits_length (by decide) (lt_of_le_of_lt small ?_)
      refine lt_of_le_of_lt (Nat.succ_le_succ (Nat.min_le_right _ _)) ?_
      decide
    unfold magnitudeText
    dsimp only
    exact formatDigits_length (le_trans (withoutTrailingZeros_length _) digits) (by omega)
      (by omega)

private theorem isNumberUnit_ascii {unit : CodeUnit} (number : isNumberUnit unit = true) :
    unit.toNat < 0x80 := by
  simp only [isNumberUnit, Bool.or_eq_true, beq_iff_eq] at number
  rcases number with ((((digit | rfl) | rfl) | rfl) | rfl) | rfl
  · have bound := (beginsNumber (.inl digit)).2.2
    omega
  all_goals decide

theorem byteLength_ofCount (count : ℕ) : byteLength (Double.ofCount count).text ≤ 60 := by
  rw [byteLength_ascii fun unit member =>
    isNumberUnit_ascii ((numberText_units _).1 unit member)]
  exact text_ofCount_length count

end Kurobara.Foundation
