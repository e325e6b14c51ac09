import Kurobara.Foundation.Capacity
import Kurobara.Kernel.Run.Routing
import Mathlib.Algebra.Order.Ring.Rat

/-! # The worst case of a hard quote

A plan that `hardQuoteFitsPlan` accepts bounds whatever its attempts reserve: the largest
bound of each node covers every route that may be reserved there, once for each attempt that
the retry policy allows.
-/

namespace Kurobara.Kernel

open Foundation

variable {snapshots : List RunPlanRouteSnapshot} {bounds : List (String × Amount)}

/-! ## The largest bound of each node -/

/-- Some bound of the node is at least the amount. -/
def CoversAmount (bounds : List (String × Amount)) (nodeKey : String) (amount : Amount) : Prop :=
  ∃ bound ∈ bounds, bound.1 = nodeKey ∧ amount ≤ bound.2

private theorem maximumBoundByNode_nonneg (nonneg : ∀ bound ∈ bounds, 0 ≤ bound.2) :
    ∀ bound ∈ maximumBoundByNode snapshots bounds, 0 ≤ bound.2 := by
  induction snapshots generalizing bounds with
  | nil => exact nonneg
  | cons snapshot rest ih =>
      refine ih ?_
      intro bound member
      split at member
      · obtain ⟨known, listed, rfl⟩ := List.mem_map.mp member
        have kept := nonneg known listed
        split
        · exact le_max_of_le_left kept
        · exact kept
      · rcases List.mem_append.mp member with listed | last
        · exact nonneg bound listed
        · rw [List.mem_singleton.mp last]
          exact le_max_left _ _

/-- A bound is never lowered, and every route is covered. -/
theorem maximumBoundByNode_covers {nodeKey : String} {amount : Amount}
    (known : CoversAmount bounds nodeKey amount ∨ ∃ snapshot ∈ snapshots,
      snapshot.nodeKey = nodeKey ∧ snapshot.reservableUpperBound = amount) :
    CoversAmount (maximumBoundByNode snapshots bounds) nodeKey amount := by
  induction snapshots generalizing bounds with
  | nil =>
      rcases known with covered | ⟨snapshot, member, _⟩
      · exact covered
      · cases member
  | cons snapshot rest ih =>
      refine ih ?_
      rcases known with ⟨bound, member, same, below⟩ | ⟨route, member, same, rfl⟩
      · left
        split
        · refine ⟨_, List.mem_map_of_mem member, ?_⟩
          split
          · exact ⟨same, below.trans (le_max_left _ _)⟩
          · exact ⟨same, below⟩
        · exact ⟨bound, List.mem_append_left _ member, same, below⟩
      · rcases List.mem_cons.mp member with rfl | later
        · left
          split
          · rename_i listed
            obtain ⟨bound, inside, named⟩ := List.any_eq_true.mp listed
            refine ⟨_, List.mem_map_of_mem inside, ?_⟩
            rw [if_pos named]
            exact ⟨(beq_iff_eq.mp named).trans same, le_max_right _ _⟩
          · exact ⟨_, List.mem_append_right _ (List.mem_singleton_self _), same, le_max_right _ _⟩
        · exact .inr ⟨route, later, same, rfl⟩

/-! ## The quote -/

private theorem compensatedAmountSum_eq_some {amounts : List Amount} {total : Amount}
    (summed : compensatedAmountSum amounts = some total) : total = amounts.sum := by
  unfold compensatedAmountSum at summed
  split at summed
  · exact (Option.some.inj summed).symm
  · cases summed

/-- A hard quote that fits bounds the largest bound of each node, for every attempt. -/
theorem hardQuoteFitsPlan_bounds {budget : BudgetLimit} {quote : CostQuote}
    {retryPolicy : RetryPolicy}
    (fits : hardQuoteFitsPlan snapshots budget quote retryPolicy = true)
    (hard : quote.guarantee = .hard) :
    ∃ upperBound, quote.upperBound = some upperBound ∧ upperBound ≤ budget.limit ∧
      ((maximumBoundByNode snapshots []).map fun bound =>
        bound.2 * (retryPolicy.maxAttemptsPerStep : Amount)).sum ≤ upperBound := by
  unfold hardQuoteFitsPlan at fits
  rw [hard] at fits
  split at fits
  · rename_i soft
    exact absurd soft (by decide)
  split at fits
  · cases fits
  rename_i upperBound given
  split at fits
  · cases fits
  rename_i within
  split at fits
  · cases fits
  rename_i worst summed
  simp only [Bool.or_eq_true, not_or, Bool.not_eq_true, amountExceeds_eq_false_iff] at within
  simp only [Bool.not_eq_true', Bool.or_eq_false_iff, amountExceeds_eq_false_iff] at fits
  exact ⟨upperBound, given, within.2, compensatedAmountSum_eq_some summed ▸ fits.1⟩

theorem validateRunPlanRouteSnapshots_fits {workflow : CompiledWorkflow} {budget : BudgetLimit}
    {quote : CostQuote} {policyFactsHash : ContentHash} {retryPolicy : RetryPolicy}
    {accepted : List RunPlanRouteSnapshot}
    (validated : validateRunPlanRouteSnapshots workflow budget quote policyFactsHash snapshots
      retryPolicy = .ok accepted) :
    hardQuoteFitsPlan snapshots budget quote retryPolicy = true ∧
      1 ≤ retryPolicy.maxAttemptsPerStep := by
  unfold validateRunPlanRouteSnapshots at validated
  split at validated
  · cases validated
  rename_i policy
  split at validated
  · cases validated
  split at validated
  · cases validated
  rename_i fits
  simp only [retryPolicyIsValid, Bool.not_eq_true', Bool.not_eq_false, Bool.and_eq_true,
    decide_eq_true_eq] at policy
  exact ⟨by simpa using fits, policy.2.1⟩

/-- **A hard quote bounds its charges.** Charges of nodes, each the bound of an admitted route
of its node, and no more of a node than the retry policy allows, add up to at most the bound
of the quote. -/
theorem hardQuote_bounds {Charge : Type} {nodeKey : Charge → String} {amount : Charge → Amount}
    {charges : List Charge} {workflow : CompiledWorkflow} {budget : BudgetLimit}
    {quote : CostQuote} {policyFactsHash : ContentHash} {retryPolicy : RetryPolicy}
    {accepted : List RunPlanRouteSnapshot} {upperBound : Amount}
    (validated : validateRunPlanRouteSnapshots workflow budget quote policyFactsHash snapshots
      retryPolicy = .ok accepted)
    (hard : quote.guarantee = .hard) (given : quote.upperBound = some upperBound)
    (admitted : ∀ charge ∈ charges, ∃ route ∈ snapshots,
      route.nodeKey = nodeKey charge ∧ route.reservableUpperBound = amount charge)
    (counted : ∀ key, (charges.countP fun charge => nodeKey charge == key : ℤ) ≤
      retryPolicy.maxAttemptsPerStep) :
    (charges.map amount).sum ≤ upperBound ∧ (charges.map amount).sum ≤ budget.limit := by
  obtain ⟨fits, positive⟩ := validateRunPlanRouteSnapshots_fits validated
  obtain ⟨quoted, quotedEq, within, bounded⟩ := hardQuoteFitsPlan_bounds fits hard
  rw [given] at quotedEq
  cases quotedEq
  have few : ∀ key, charges.countP (fun charge => nodeKey charge == key) ≤
      retryPolicy.maxAttemptsPerStep.toNat := by
    intro key
    have limit := counted key
    omega
  have covered : ∀ charge ∈ charges, CoversAmount (maximumBoundByNode snapshots [])
      (nodeKey charge) (amount charge) := by
    intro charge member
    exact maximumBoundByNode_covers (.inr (admitted charge member))
  have nonneg : ∀ bound ∈ maximumBoundByNode snapshots [], (0 : Amount) ≤ bound.2 :=
    maximumBoundByNode_nonneg fun bound member => absurd member List.not_mem_nil
  have slots : ((maximumBoundByNode snapshots []).map fun bound =>
      retryPolicy.maxAttemptsPerStep.toNat • bound.2) =
        (maximumBoundByNode snapshots []).map fun bound =>
          bound.2 * (retryPolicy.maxAttemptsPerStep : Amount) := by
    refine List.map_congr_left fun bound _ => ?_
    have cast : ((retryPolicy.maxAttemptsPerStep.toNat : ℤ) : Amount) =
        (retryPolicy.maxAttemptsPerStep : Amount) := by
      rw [Int.toNat_of_nonneg (le_trans (by decide) positive)]
    rw [nsmul_eq_mul, mul_comm, ← cast, Int.cast_natCast]
  have total : (charges.map amount).sum ≤ upperBound :=
    (slots ▸ sum_le_of_covered nonneg few covered).trans bounded
  exact ⟨total, total.trans within⟩

end Kurobara.Kernel
