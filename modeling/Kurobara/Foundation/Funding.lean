import Mathlib.Algebra.Order.BigOperators.Group.List
import Mathlib.Algebra.Order.Group.Defs

/-! # Requests funded from one limit

Requests made one after the other, each for at most what the earlier ones left of a limit.
When none spends more than it requested, all together spend at most the limit.
-/

namespace Kurobara.Foundation

universe u v

variable {Request : Type u} {Amount : Type v} [AddCommGroup Amount] [PartialOrder Amount]

/-- Each request is for at most what the earlier ones left. -/
def Funded (requested spent : Request → Amount) : Amount → List Request → Prop
  | _, [] => True
  | limit, request :: later =>
      requested request ≤ limit ∧ Funded requested spent (limit - spent request) later

variable {requested spent : Request → Amount} {limit : Amount}
    {requests earlier later : List Request}
  {request : Request}

private theorem funded_append : Funded requested spent limit (earlier ++ later) ↔
    Funded requested spent limit earlier ∧
      Funded requested spent (limit - (earlier.map spent).sum) later := by
  induction earlier generalizing limit with
  | nil => simp [Funded]
  | cons first earlier ih =>
      rw [List.cons_append, Funded, Funded, ih, List.map_cons, List.sum_cons, and_assoc,
        sub_sub]

theorem funded_concat : Funded requested spent limit (earlier ++ [request]) ↔
    Funded requested spent limit earlier ∧
      requested request ≤ limit - (earlier.map spent).sum := by
  rw [funded_append, Funded, Funded, and_true]

/-- What a request is for is left by those before it. -/
theorem Funded.requested_le
    (funded : Funded requested spent limit (earlier ++ request :: later)) :
    requested request ≤ limit - (earlier.map spent).sum :=
  (funded_append.mp funded).2.1

/-- **Funded requests spend at most the limit.** -/
theorem Funded.sum_le [IsOrderedAddMonoid Amount]
    (funded : Funded requested spent limit requests) (nonneg : 0 ≤ limit)
    (within : ∀ request ∈ requests, spent request ≤ requested request) :
    (requests.map spent).sum ≤ limit := by
  induction requests generalizing limit with
  | nil => simpa using nonneg
  | cons first later ih =>
      have affordable : spent first ≤ limit := (within first List.mem_cons_self).trans funded.1
      have rest := ih funded.2 (sub_nonneg.mpr affordable)
        fun request member => within request (List.mem_cons_of_mem _ member)
      rw [List.map_cons, List.sum_cons]
      exact le_sub_iff_add_le'.mp rest

end Kurobara.Foundation
