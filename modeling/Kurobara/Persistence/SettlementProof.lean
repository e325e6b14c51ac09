import Kurobara.Kernel.Run.Convergent
import Kurobara.Persistence.AttemptReceipts
import Mathlib.Algebra.BigOperators.Group.List.Basic

/-! # The proofs of a convergence

What the settlement phase has checked once it accepts, and that neither the step phase nor
the settlement phase finds a failure in steps and reservations that are exact.
-/

namespace Kurobara.Persistence

open Foundation Kernel

variable {input : EvaluateRunConvergenceInput} {orderedSteps : List StepRun}
  {settlements : List ResultManifestAttemptSettlement}

/-! ## Settlements of reservations -/

private theorem toSettlement_some {reservation : CostReservation}
    {settlement : ResultManifestAttemptSettlement}
    (converted : toSettlement reservation = some settlement) :
    reservation.state ≠ .reserved ∧ settlement.attemptId = reservation.attemptId ∧
      settlement.reservationId = reservation.reservationId ∧
        settlement.settledAmount.getD 0 = settledAmountOf reservation := by
  unfold toSettlement at converted
  unfold settledAmountOf
  cases state : reservation.state <;> rw [state] at converted <;> cases converted <;>
    exact ⟨CostReservationState.noConfusion, rfl, rfl, rfl⟩

private theorem toSettlement_isSome {reservation : CostReservation}
    (done : reservation.state ≠ .reserved) :
    ∃ settlement, toSettlement reservation = some settlement := by
  unfold toSettlement
  cases state : reservation.state with
  | reserved => exact absurd state done
  | settled settledAmount releasedAmount settledAt usageEntryId => exact ⟨_, rfl⟩
  | released releasedAt => exact ⟨_, rfl⟩

/-- Settlements in the order of their reservations settle the same amounts. -/
theorem settledAmounts_eq {reservations : List CostReservation}
    (converted : reservations.map toSettlement = settlements.map some) :
    settlements.map (fun settlement => settlement.settledAmount.getD 0) =
      reservations.map settledAmountOf := by
  induction reservations generalizing settlements with
  | nil =>
      cases settlements with
      | nil => rfl
      | cons settlement settlements => cases converted
  | cons reservation reservations ih =>
      cases settlements with
      | nil => cases converted
      | cons settlement settlements =>
          simp only [List.map_cons, List.cons.injEq] at converted
          rw [List.map_cons, List.map_cons, ih converted.2, (toSettlement_some converted.1).2.2.2]

/-- What the settlements settle, exactly. -/
def settledTotal (settlements : List ResultManifestAttemptSettlement) : Amount :=
  (settlements.map fun settlement => settlement.settledAmount.getD 0).sum

/-! ## The settlement phase -/

/-- What the settlement phase has checked of the settlements that it orders. -/
structure SettlementsAreProved (input : EvaluateRunConvergenceInput)
    (orderedSteps : List StepRun) (settlements : List ResultManifestAttemptSettlement) :
    Prop where
  unshared : (input.reservations.map CostReservation.attemptId).Nodup
  attempts : ((orderedSteps.flatMap StepRun.attempts).map Attempt.attemptId).Perm
    (input.reservations.map CostReservation.attemptId)
  reserved : input.cost.reserved = 0
  ordered : ∃ reservations : List CostReservation, reservations.Perm input.reservations ∧
    reservations.map CostReservation.attemptId =
      (orderedSteps.flatMap StepRun.attempts).map Attempt.attemptId ∧
    reservations.map toSettlement = settlements.map some
  balanced : doubleAmountsEqual (nearestDouble input.cost.spent) (expectedSpent
    input.plan.budget.spent (settlements.map (·.settledAmount.getD 0))) = true

/-- What a proved settlement phase establishes. -/
theorem evaluateSettlementConvergenceProof_proved
    (proved : evaluateSettlementConvergenceProof input orderedSteps = .ok (.proved settlements)) :
    SettlementsAreProved input orderedSteps settlements := by
  unfold evaluateSettlementConvergenceProof at proved
  dsimp only at proved
  split at proved
  · cases proved
  rename_i matched
  split at proved
  · cases proved
  rename_i settled
  split at proved
  · cases proved
  rename_i ordered looked
  split at proved
  · cases proved
  rename_i balanced
  cases proved
  simp only [Bool.or_eq_true, not_or, Bool.not_eq_true', Bool.not_eq_false, bne_iff_ne, ne_eq,
    not_not, decide_eq_true_eq, List.any_eq_true, not_exists, not_and] at matched settled balanced
  obtain ⟨⟨unshared, length⟩, bound⟩ := matched
  -- The distinct attempts of the reservations are attempts of the steps, and as many.
  have attempts : ((orderedSteps.flatMap StepRun.attempts).map Attempt.attemptId).Perm
      (input.reservations.map CostReservation.attemptId) := by
    have inside : input.reservations.map CostReservation.attemptId ⊆
        (orderedSteps.flatMap StepRun.attempts).map Attempt.attemptId := by
      intro attemptId listed
      obtain ⟨reservation, member, rfl⟩ := List.mem_map.mp listed
      obtain ⟨stepRun, found, matches_⟩ := (Option.any_eq_true _ _).mp (bound reservation member)
      unfold reservationMatchesAttempt at matches_
      split at matches_
      · cases matches_
      · rename_i attempt located
        refine List.mem_map.mpr ⟨attempt, List.mem_flatMap.mpr
          ⟨stepRun, List.mem_of_find?_eq_some found, List.mem_of_find?_eq_some located⟩, ?_⟩
        simpa using List.find?_some located
    refine ((List.subperm_of_subset unshared inside).perm_of_length_le ?_).symm
    rw [List.length_map, List.length_map, length]
  obtain ⟨reservations, found, converted⟩ := map_bind_eq_some (mapM_eq_some_iff.mp looked)
  have located : ((orderedSteps.flatMap StepRun.attempts).map Attempt.attemptId).map
      (fun searched => input.reservations.find? (CostReservation.attemptId · == searched)) =
        reservations.map some := by
    rw [List.map_map]
    exact found
  refine ⟨unshared, attempts, (amountsEqual_iff.mp settled.1).2, ?_, balanced⟩
  exact ⟨reservations, lookup_perm unshared located attempts, lookup_keys unshared located,
    converted⟩

namespace SettlementsAreProved

variable (proof : SettlementsAreProved input orderedSteps settlements)

include proof

/-- The settlements settle what the reservations of the Run do. -/
theorem total : settledTotal settlements = (input.reservations.map settledAmountOf).sum := by
  obtain ⟨reservations, same, _, converted⟩ := proof.ordered
  rw [settledTotal, settledAmounts_eq converted]
  exact (same.map settledAmountOf).sum_eq

/-- Each attempt is settled once, and in its place. -/
theorem attemptIds : settlements.map ResultManifestAttemptSettlement.attemptId =
    (orderedSteps.flatMap StepRun.attempts).map Attempt.attemptId := by
  obtain ⟨reservations, -, keys, converted⟩ := proof.ordered
  rw [← keys]
  clear keys proof
  induction reservations generalizing settlements with
  | nil =>
      cases settlements with
      | nil => rfl
      | cons settlement settlements => cases converted
  | cons reservation reservations ih =>
      cases settlements with
      | nil => cases converted
      | cons settlement settlements =>
          simp only [List.map_cons, List.cons.injEq] at converted
          rw [List.map_cons, List.map_cons, ih converted.2, (toSettlement_some converted.1).2.1]

end SettlementsAreProved

/-! ## Exact steps -/

/-- The steps of a Run, each materialized once from its node. -/
structure StepsAreMaterialized (plan : RunPlan) (run : Run) (stepRuns : List StepRun) : Prop where
  nodes : plan.compiledWorkflow.nodeKeys.Nodup
  nodeKeys : (stepRuns.map StepRun.nodeKey).Nodup
  stepRunIds : (stepRuns.map StepRun.stepRunId).Nodup
  identified : ∀ stepRun ∈ stepRuns, stepIdentityIsValid plan run stepRun = true
  blocked : ∀ stepRun ∈ stepRuns, stepRun.state = .skipped → blockedBy stepRun stepRuns ≠ []

/-- A step is blocked by a blocking step of a node that it depends on. -/
theorem blockedBy_ne_nil_iff {stepRun : StepRun} {stepRuns : List StepRun}
    (distinct : (stepRuns.map StepRun.nodeKey).Nodup) :
    blockedBy stepRun stepRuns ≠ [] ↔
      ∃ blocker ∈ stepRuns, blocker.nodeKey ∈ stepRun.dependsOn ∧
        stateBlocks blocker.state = true := by
  constructor
  · intro blocked
    obtain ⟨dependency, blocks⟩ := List.exists_mem_of_ne_nil _ blocked
    obtain ⟨named, blocking⟩ := List.mem_filter.mp blocks
    obtain ⟨blocker, found, state⟩ := (Option.any_eq_true _ _).mp blocking
    obtain ⟨member, rfl⟩ := (find?_key_eq_some_iff distinct).mp found
    exact ⟨blocker, member, named, state⟩
  · rintro ⟨blocker, member, named, state⟩
    have found : stepOfNode stepRuns blocker.nodeKey = some blocker :=
      (find?_key_eq_some_iff distinct).mpr ⟨member, rfl⟩
    exact List.ne_nil_of_mem (List.mem_filter.mpr ⟨named, by rw [found]; exact state⟩)

theorem stepIdentityIsValid_known {plan : RunPlan} {run : Run} {stepRun : StepRun}
    (identified : stepIdentityIsValid plan run stepRun = true) :
    stepRun.nodeKey ∈ plan.compiledWorkflow.nodeKeys ∧ stepRun.workspaceId = run.workspaceId ∧
      stepRun.runId = run.runId := by
  unfold stepIdentityIsValid at identified
  split at identified
  · cases identified
  · rename_i node found
    simp only [Bool.and_eq_true, beq_iff_eq] at identified
    refine ⟨List.mem_map.mpr ⟨node, List.mem_of_find?_eq_some found, ?_⟩, identified.1.1,
      identified.1.2⟩
    simpa using List.find?_some found

/-- On coherent steps of the plan the step phase raises no invariant failure. -/
theorem evaluateStepConvergenceProof_exact
    (steps : StepsAreMaterialized input.plan input.run input.stepRuns)
    (coherent : ∀ stepRun ∈ input.stepRuns, terminalStepState stepRun.state = true →
      attemptsAreCoherent stepRun = true) (failure : RunConvergenceInvariantFailure) :
    evaluateStepConvergenceProof input ≠ .error failure := by
  intro failed
  unfold evaluateStepConvergenceProof at failed
  dsimp only at failed
  split at failed
  · rename_i mismatched
    rw [Bool.or_eq_true] at mismatched
    rcases mismatched with duplicate | unknown
    · rw [Bool.not_eq_true', decide_eq_false_iff_not] at duplicate
      exact duplicate steps.nodeKeys
    · obtain ⟨stepRun, member, invalid⟩ := List.any_eq_true.mp unknown
      have identified := steps.identified stepRun member
      have known : (input.plan.compiledWorkflow.nodes.map CompiledWorkflowNode.key).contains
          stepRun.nodeKey = true :=
        List.contains_iff_mem.mpr (stepIdentityIsValid_known identified).1
      rw [known, identified] at invalid
      cases invalid
  split at failed
  · cases failed
  split at failed
  · cases failed
  rename_i terminal
  split at failed
  · cases failed
  split at failed
  · rename_i incoherent
    obtain ⟨stepRun, member, invalid⟩ := List.any_eq_true.mp incoherent
    have ended : terminalStepState stepRun.state = true := by
      by_contra opened
      exact terminal (List.any_eq_true.mpr ⟨stepRun, member, by simpa using opened⟩)
    rw [coherent stepRun member ended] at invalid
    cases invalid
  split at failed
  · rename_i unblocked
    obtain ⟨stepRun, member, invalid⟩ := List.any_eq_true.mp unblocked
    rw [Bool.and_eq_true, beq_iff_eq, beq_iff_eq] at invalid
    exact steps.blocked stepRun member invalid.1 (List.length_eq_zero_iff.mp invalid.2)
  split at failed <;> cases failed

/-- The steps in the order of their nodes are the steps of the Run. -/
theorem orderedSteps_perm (proved : StepsAreProved input orderedSteps)
    (nodes : input.plan.compiledWorkflow.nodeKeys.Nodup) : orderedSteps.Perm input.stepRuns := by
  refine lookup_perm proved.distinct proved.ordered
    ((List.perm_ext_iff_of_nodup nodes proved.distinct).mpr fun nodeKey => ?_)
  constructor
  · intro member
    have listed := List.mem_map_of_mem (f := stepOfNode input.stepRuns) member
    rw [proved.ordered] at listed
    obtain ⟨stepRun, inside, found⟩ := List.mem_map.mp listed
    obtain ⟨stepMember, rfl⟩ := (find?_key_eq_some_iff proved.distinct).mp found.symm
    exact List.mem_map_of_mem stepMember
  · intro member
    obtain ⟨stepRun, inside, rfl⟩ := List.mem_map.mp member
    exact proved.known stepRun inside

/-! ## Exact reservations -/

theorem ReservationBinds.matches_ {run : Run} {stepRun : StepRun} {attempt : Attempt}
    {reservation : CostReservation} (binds : ReservationBinds stepRun attempt reservation)
    (owned : attempt ∈ stepRun.attempts) (distinct : (stepRun.attempts.map Attempt.attemptId).Nodup)
    (workspace : stepRun.workspaceId = run.workspaceId) (ofRun : stepRun.runId = run.runId)
    (amount : 0 ≤ reservation.amount) :
    reservationMatchesAttempt run stepRun reservation = true := by
  have found : stepRun.attempts.find? (·.attemptId == reservation.attemptId) = some attempt :=
    (find?_key_eq_some_iff distinct).mpr ⟨owned, binds.attemptId.symm⟩
  simp only [reservationMatchesAttempt, found, Bool.and_eq_true, beq_iff_eq]
  exact ⟨⟨⟨⟨⟨⟨binds.workspaceId.trans workspace, binds.runId.trans ofRun⟩, binds.stepRunId⟩,
    binds.reservationId⟩, binds.operationKey⟩, binds.unit⟩, amountsEqual_iff.mpr
      ⟨amount, binds.amount⟩⟩

/-- The spend of a Run is balanced for the prover: whatever the order in which it adds what the
reservations settled, the doubles agree with the recorded spend. -/
def SpendIsBalanced (budget : BudgetLimit) (cost : ResultManifestCost)
    (reservations : List CostReservation) : Prop :=
  ∀ amounts : List Amount, amounts.Perm (reservations.map settledAmountOf) →
    doubleAmountsEqual (nearestDouble cost.spent) (expectedSpent budget.spent amounts) = true

/-- Whole amounts, with a spend of at most 53 bits. -/
structure SpendIsWhole (budget : BudgetLimit) (cost : ResultManifestCost)
    (reservations : List CostReservation) : Prop where
  initial : ∃ number : ℕ, budget.spent = number
  settled : ∀ reservation ∈ reservations, ∃ number : ℕ, settledAmountOf reservation = number
  bounded : cost.spent < 2 ^ 53

private theorem exists_map_natCast {amounts : List Amount}
    (whole : ∀ amount ∈ amounts, ∃ number : ℕ, amount = number) :
    ∃ numbers : List ℕ, amounts = numbers.map Nat.cast := by
  induction amounts with
  | nil => exact ⟨[], rfl⟩
  | cons amount amounts ih =>
      obtain ⟨⟨number, rfl⟩, rest⟩ := List.forall_mem_cons.mp whole
      obtain ⟨numbers, rfl⟩ := ih rest
      exact ⟨number :: numbers, rfl⟩

/-- The exact spend of whole amounts is balanced. -/
theorem SpendIsWhole.balanced {budget : BudgetLimit} {cost : ResultManifestCost}
    {reservations : List CostReservation} (whole : SpendIsWhole budget cost reservations)
    (exact : cost.spent = budget.spent + (reservations.map settledAmountOf).sum) :
    SpendIsBalanced budget cost reservations := by
  intro amounts same
  obtain ⟨initial, initialEq⟩ := whole.initial
  obtain ⟨numbers, rfl⟩ : ∃ numbers : List ℕ, amounts = numbers.map Nat.cast := by
    refine exists_map_natCast fun amount member => ?_
    obtain ⟨reservation, inside, rfl⟩ := List.mem_map.mp (same.mem_iff.mp member)
    exact whole.settled reservation inside
  have spent : cost.spent = (initial + numbers.sum : ℕ) := by
    rw [exact, initialEq, ← same.sum_eq, Nat.cast_add]
    exact congrArg _ (map_list_sum (Nat.castAddMonoidHom ℚ) numbers).symm
  have bounded : initial + numbers.sum < 2 ^ 53 := by
    have below := whole.bounded
    rw [spent] at below
    exact_mod_cast below
  have expected : expectedSpent budget.spent (numbers.map Nat.cast) =
    (initial + numbers.sum : ℕ) := by
    have fromZero : 0 + numbers.sum < 2 ^ 53 := by omega
    have summed := sumDoublesFrom_whole fromZero
    rw [Nat.cast_zero, Nat.zero_add] at summed
    rw [expectedSpent, initialEq, nearestDouble_whole (show initial < 2 ^ 53 by omega), summed,
      ← Nat.cast_add, nearestDouble_whole bounded]
  rw [expected, spent, nearestDouble_whole bounded, doubleAmountsEqual,
    isAmount_iff.mpr (Nat.cast_nonneg _), doublesAreClose_self]
  rfl

/-- Exact reservations are only refused for doubles that do not add up. -/
theorem evaluateSettlementConvergenceProof_exact
    (steps : StepsAreMaterialized input.plan input.run input.stepRuns)
    (proved : StepsAreProved input orderedSteps)
    (exact : ReservationsAreExact input.stepRuns input.reservations)
    {failure : RunConvergenceInvariantFailure}
    (failed : evaluateSettlementConvergenceProof input orderedSteps = .error failure) :
    failure.code = .costProofInvalid ∧
      ¬ SpendIsBalanced input.plan.budget input.cost input.reservations := by
  have same := orderedSteps_perm proved steps.nodes
  have attempts : ((orderedSteps.flatMap StepRun.attempts).map Attempt.attemptId).Perm
      (input.reservations.map CostReservation.attemptId) :=
    (List.Perm.map _ (List.Perm.flatMap_right _ same)).trans exact.attempts
  unfold evaluateSettlementConvergenceProof at failed
  dsimp only at failed
  split at failed
  · rename_i mismatched
    rw [Bool.or_eq_true, Bool.or_eq_true] at mismatched
    rcases mismatched with (shared | length) | unbound
    · rw [Bool.not_eq_true', decide_eq_false_iff_not] at shared
      exact absurd exact.unshared shared
    · rw [bne_iff_ne] at length
      have equal := attempts.length_eq
      rw [List.length_map, List.length_map] at equal
      exact absurd equal.symm length
    · obtain ⟨reservation, member, invalid⟩ := List.any_eq_true.mp unbound
      obtain ⟨stepRun, stepMember, attempt, owned, binds⟩ := exact.bound reservation member
      have found : orderedSteps.find? (·.stepRunId == reservation.stepRunId) = some stepRun := by
        refine (find?_key_eq_some_iff ((same.map StepRun.stepRunId).nodup_iff.mpr
          steps.stepRunIds)).mpr ⟨same.mem_iff.mpr stepMember, binds.stepRunId.symm⟩
      obtain ⟨_, workspace, ofRun⟩ :=
        stepIdentityIsValid_known (steps.identified stepRun stepMember)
      have distinct : (stepRun.attempts.map Attempt.attemptId).Nodup :=
        (List.nodup_flatMap.mp (List.map_flatMap .. ▸ exact.attemptIds)).1 stepRun stepMember
      rw [found, Option.any_some, binds.matches_ owned distinct workspace ofRun
        (exact.exact reservation member).amount] at invalid
      cases invalid
  split at failed
  · cases failed
  rename_i settled
  rw [Bool.or_eq_true, not_or] at settled
  have concluded : ∀ reservation ∈ input.reservations, reservation.state ≠ .reserved := by
    intro reservation member reserved
    exact settled.2 (List.any_eq_true.mpr ⟨reservation, member, beq_iff_eq.mpr reserved⟩)
  split at failed
  · rename_i unsettled
    obtain ⟨settlements, looked⟩ : ∃ settlements, (orderedSteps.flatMap StepRun.attempts).mapM
        (fun attempt => (reservationOfAttempt input.reservations attempt.attemptId).bind
          toSettlement) = some settlements := by
      refine mapM_exists fun attempt member => ?_
      obtain ⟨stepRun, stepMember, owned⟩ := List.mem_flatMap.mp member
      obtain ⟨reservation, inside, binds⟩ :=
        exact.of_attempt (same.mem_iff.mp stepMember) owned
      have found : reservationOfAttempt input.reservations attempt.attemptId = some reservation :=
        (find?_key_eq_some_iff exact.unshared).mpr ⟨inside, binds.attemptId⟩
      rw [found]
      exact toSettlement_isSome (concluded reservation inside)
    rw [looked] at unsettled
    cases unsettled
  rename_i settlements looked
  split at failed
  · rename_i unbalanced
    obtain ⟨reservations, found, converted⟩ := map_bind_eq_some (mapM_eq_some_iff.mp looked)
    have located : ((orderedSteps.flatMap StepRun.attempts).map Attempt.attemptId).map
        (fun searched => input.reservations.find? (CostReservation.attemptId · == searched)) =
          reservations.map some := by
      rw [List.map_map]
      exact found
    have amounts := (lookup_perm exact.unshared located attempts).map settledAmountOf
    cases failed
    refine ⟨rfl, fun balanced => ?_⟩
    rw [settledAmounts_eq converted, balanced _ amounts] at unbalanced
    cases unbalanced
  · cases failed

end Kurobara.Persistence
