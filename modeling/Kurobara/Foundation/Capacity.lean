import Mathlib.Algebra.Order.BigOperators.Group.List
import Mathlib.Algebra.Order.Monoid.Unbundled.Pow

/-! # Charges against slots

Charges of some key, each covered by a slot of that key. When no key has more than a given
number of charges, the charges add up to at most that many times the slots.
-/

namespace Kurobara.Foundation

universe u v w

variable {Charge : Type u} {Key : Type v} {Amount : Type w} [AddCommMonoid Amount]

/-- A sum is split by any selection. -/
theorem sum_map_filter_add {amount : Charge → Amount} (selects : Charge → Bool)
    (charges : List Charge) :
    ((charges.filter selects).map amount).sum +
        ((charges.filter fun charge => !selects charge).map amount).sum =
      (charges.map amount).sum := by
  rw [← List.sum_append, ← List.map_append]
  exact ((List.filter_append_perm selects charges).map amount).sum_eq

variable [BEq Key] [LawfulBEq Key] [PartialOrder Amount] [IsOrderedAddMonoid Amount]
  {key : Charge → Key} {amount : Charge → Amount} {slots : List (Key × Amount)}
  {charges : List Charge}

/-- **Covered charges fit their slots.** -/
theorem sum_le_of_covered {most : ℕ} (nonneg : ∀ slot ∈ slots, 0 ≤ slot.2)
    (counted : ∀ known, charges.countP (fun charge => key charge == known) ≤ most)
    (covered : ∀ charge ∈ charges, ∃ slot ∈ slots,
      slot.1 = key charge ∧ amount charge ≤ slot.2) :
    (charges.map amount).sum ≤ (slots.map fun slot => most • slot.2).sum := by
  classical
  induction slots generalizing charges with
  | nil =>
      cases charges with
      | nil => simp
      | cons charge charges => simpa using covered charge List.mem_cons_self
  | cons slot slots ih =>
      -- The charges that the first slot covers; the other slots cover the rest.
      let fits (charge : Charge) : Bool := key charge == slot.1 && decide (amount charge ≤ slot.2)
      have here : ((charges.filter fits).map amount).sum ≤ most • slot.2 := by
        have each : ∀ charged ∈ (charges.filter fits).map amount, charged ≤ slot.2 := by
          intro charged member
          obtain ⟨charge, selected, rfl⟩ := List.mem_map.mp member
          have fitting := (List.mem_filter.mp selected).2
          rw [Bool.and_eq_true, decide_eq_true_eq] at fitting
          exact fitting.2
        have few : ((charges.filter fits).map amount).length ≤ most := by
          rw [List.length_map, ← List.countP_eq_length_filter]
          refine (List.countP_mono_left ?_).trans (counted slot.1)
          intro charge _ fitting
          rw [Bool.and_eq_true] at fitting
          exact fitting.1
        calc ((charges.filter fits).map amount).sum
            ≤ ((charges.filter fits).map amount).length • slot.2 := List.sum_le_card_nsmul _ _ each
          _ ≤ most • slot.2 := nsmul_le_nsmul_left (nonneg slot List.mem_cons_self) few
      have rest : ((charges.filter fun charge => !fits charge).map amount).sum ≤
          (slots.map fun slot => most • slot.2).sum := by
        refine ih (fun other member => nonneg other (List.mem_cons_of_mem _ member)) ?_ ?_
        · intro known
          exact ((List.filter_sublist).countP_le).trans (counted known)
        · intro charge selected
          obtain ⟨member, unfitting⟩ := List.mem_filter.mp selected
          obtain ⟨found, listed, same, bound⟩ := covered charge member
          rcases List.mem_cons.mp listed with rfl | later
          · have fitting : fits charge = true := by
              rw [Bool.and_eq_true, beq_iff_eq, decide_eq_true_eq]
              exact ⟨same.symm, bound⟩
            rw [fitting] at unfitting
            cases unfitting
          · exact ⟨found, later, same, bound⟩
      calc (charges.map amount).sum
          = ((charges.filter fits).map amount).sum +
              ((charges.filter fun charge => !fits charge).map amount).sum :=
            (sum_map_filter_add fits charges).symm
        _ ≤ most • slot.2 + (slots.map fun slot => most • slot.2).sum := add_le_add here rest
        _ = ((slot :: slots).map fun slot => most • slot.2).sum := by
            rw [List.map_cons, List.sum_cons]

end Kurobara.Foundation
