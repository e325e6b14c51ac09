import Kurobara.Kernel.Step.Conclusion
import Kurobara.Kernel.Step.EffectThreshold
import Kurobara.Persistence.CostLedger
import Mathlib.Tactic.Linarith

/-! # The receipts of attempts

The reservations of a Run and the attempts of its steps: each reservation holds the terms
of one attempt, every attempt has one, and it is reserved exactly while the attempt is
open. A planned command keeps this together with the movement of the ledger that it
requires.
-/

namespace Kurobara.Persistence

open Foundation Kernel

/-! ## Bound reservations -/

/-- A reservation with the terms of an attempt, concluded when the attempt is. -/
structure ReservationBinds (stepRun : StepRun) (attempt : Attempt)
    (reservation : CostReservation) : Prop where
  workspaceId : reservation.workspaceId = stepRun.workspaceId
  runId : reservation.runId = stepRun.runId
  stepRunId : reservation.stepRunId = stepRun.stepRunId
  attemptId : reservation.attemptId = attempt.attemptId
  reservationId : reservation.reservationId = attempt.costReservationId
  operationKey : reservation.operationKey = attempt.operationKey
  unit : reservation.unit = attempt.reservationUnit
  amount : reservation.amount = attempt.reservedAmount
  concluded : reservation.state ≠ .reserved ↔ attemptIsTerminal attempt.state = true

private def IsBound (stepRuns : List StepRun) (reservation : CostReservation) : Prop :=
  ∃ stepRun ∈ stepRuns, ∃ attempt ∈ stepRun.attempts, ReservationBinds stepRun attempt reservation

/-- Reservations and attempts, one for one. -/
structure ReservationsAreExact (stepRuns : List StepRun) (reservations : List CostReservation) :
    Prop where
  distinct : (reservations.map CostReservation.reservationId).Nodup
  unshared : (reservations.map CostReservation.attemptId).Nodup
  attempts : ((stepRuns.flatMap StepRun.attempts).map Attempt.attemptId).Perm
    (reservations.map CostReservation.attemptId)
  bound : ∀ reservation ∈ reservations, IsBound stepRuns reservation
  exact : ∀ reservation ∈ reservations, ReceiptIsExact reservation

/-- A step with the identity of another. -/
structure SameStep (stepRun next : StepRun) : Prop where
  workspaceId : next.workspaceId = stepRun.workspaceId
  runId : next.runId = stepRun.runId
  stepRunId : next.stepRunId = stepRun.stepRunId
  nodeKey : next.nodeKey = stepRun.nodeKey
  dependsOn : next.dependsOn = stepRun.dependsOn

theorem freshTransition_sameStep (stepRun : StepRun) (planned : StepTransitionPlan)
    (context : StepCommandContext) :
    SameStep stepRun (freshTransition stepRun planned context).stepRun :=
  ⟨rfl, rfl, rfl, rfl, rfl⟩

private theorem ReservationBinds.rebind {stepRun next : StepRun} {attempt replacement : Attempt}
    {reservation : CostReservation} (binds : ReservationBinds stepRun attempt reservation)
    (same : SameStep stepRun next) (terms : SameTerms attempt replacement)
    (state : attemptIsTerminal replacement.state = attemptIsTerminal attempt.state) :
    ReservationBinds next replacement reservation where
  workspaceId := binds.workspaceId.trans same.workspaceId.symm
  runId := binds.runId.trans same.runId.symm
  stepRunId := binds.stepRunId.trans same.stepRunId.symm
  attemptId := binds.attemptId.trans terms.identity.symm
  reservationId := binds.reservationId.trans terms.reservation.symm
  operationKey := binds.operationKey.trans terms.operationKey.symm
  unit := binds.unit.trans terms.unit.symm
  amount := binds.amount.trans terms.amount.symm
  concluded := by rw [state]; exact binds.concluded

section

variable {before after : List StepRun} {stepRun next : StepRun} {reservation : CostReservation}

theorem IsBound.append (bound : IsBound before reservation) :
    IsBound (before ++ [stepRun]) reservation := by
  obtain ⟨owner, member, attempt, owned, binds⟩ := bound
  exact ⟨owner, List.mem_append_left _ member, attempt, owned, binds⟩

/-- A reservation stays bound when the attempts of one step are replaced by attempts that
it binds as well. -/
theorem IsBound.replace (bound : IsBound (before ++ stepRun :: after) reservation)
    (rebound : ∀ attempt ∈ stepRun.attempts, ReservationBinds stepRun attempt reservation →
      ∃ replacement ∈ next.attempts, ReservationBinds next replacement reservation) :
    IsBound (before ++ next :: after) reservation := by
  obtain ⟨owner, member, attempt, owned, binds⟩ := bound
  rcases List.mem_append.mp member with earlier | rest
  · exact ⟨owner, List.mem_append_left _ earlier, attempt, owned, binds⟩
  rcases List.mem_cons.mp rest with rfl | later
  · obtain ⟨replacement, inside, binds⟩ := rebound attempt owned binds
    exact ⟨next, List.mem_append_right _ List.mem_cons_self, replacement, inside, binds⟩
  · exact ⟨owner, List.mem_append_right _ (List.mem_cons_of_mem _ later), attempt, owned, binds⟩

end

private theorem flatMap_attemptIds {before after : List StepRun} {stepRun next : StepRun}
    (identities : next.attempts.map Attempt.attemptId = stepRun.attempts.map Attempt.attemptId) :
    ((before ++ next :: after).flatMap StepRun.attempts).map Attempt.attemptId =
      ((before ++ stepRun :: after).flatMap StepRun.attempts).map Attempt.attemptId := by
  simp only [List.flatMap_append, List.flatMap_cons, List.map_append, identities]

theorem replaceAttempt_attemptIds (stepRun : StepRun) (replacement : Attempt) :
    (replaceAttempt stepRun replacement).map Attempt.attemptId =
      stepRun.attempts.map Attempt.attemptId := by
  rw [replaceAttempt, List.map_map]
  apply List.map_congr_left
  intro known _
  by_cases same : known.attemptId = replacement.attemptId
  · simp [same]
  · simp [same]

/-- The attempts that a replacement leaves alone. -/
theorem mem_replaceAttempt_of_ne {stepRun : StepRun} {known replacement : Attempt}
    (member : known ∈ stepRun.attempts) (different : known.attemptId ≠ replacement.attemptId) :
    known ∈ replaceAttempt stepRun replacement :=
  List.mem_map.mpr ⟨known, member, if_neg (by simpa using different)⟩

theorem replaceAttempt_cases {stepRun : StepRun} {known replacement : Attempt}
    (member : known ∈ replaceAttempt stepRun replacement) :
    known = replacement ∨ known ∈ stepRun.attempts := by
  obtain ⟨attempt, owned, rfl⟩ := List.mem_map.mp member
  by_cases same : attempt.attemptId = replacement.attemptId
  · exact .inl (if_pos (beq_iff_eq.mpr same))
  · exact .inr (by rwa [if_neg (by simpa using same)])

namespace ReservationsAreExact

variable {before after : List StepRun} {stepRun next : StepRun}
  {reservations : List CostReservation}

theorem empty : ReservationsAreExact [] [] :=
  ⟨List.nodup_nil, List.nodup_nil, List.Perm.refl _, by simp, by simp⟩

theorem attemptIds (exact : ReservationsAreExact before reservations) :
    ((before.flatMap StepRun.attempts).map Attempt.attemptId).Nodup :=
  exact.attempts.nodup_iff.mpr exact.unshared

/-- The reservation of an attempt. -/
theorem of_attempt (exact : ReservationsAreExact before reservations) {attempt : Attempt}
    (member : stepRun ∈ before) (owned : attempt ∈ stepRun.attempts) :
    ∃ reservation ∈ reservations, ReservationBinds stepRun attempt reservation := by
  have listed : attempt.attemptId ∈ reservations.map CostReservation.attemptId :=
    exact.attempts.mem_iff.mp
      (List.mem_map_of_mem (List.mem_flatMap.mpr ⟨stepRun, member, owned⟩))
  obtain ⟨reservation, inside, same⟩ := List.mem_map.mp listed
  obtain ⟨owner, ownerMember, other, otherOwned, binds⟩ := exact.bound reservation inside
  obtain ⟨rfl, rfl⟩ := owner_unique exact.attemptIds ownerMember member otherOwned owned
    (binds.attemptId.symm.trans same)
  exact ⟨reservation, inside, binds⟩

/-- A reservation for an attempt of a step binds it. -/
theorem binds_of_attemptId (exact : ReservationsAreExact before reservations) {attempt : Attempt}
    (member : stepRun ∈ before) (owned : attempt ∈ stepRun.attempts)
    {reservation : CostReservation} (inside : reservation ∈ reservations)
    (same : reservation.attemptId = attempt.attemptId) :
    ReservationBinds stepRun attempt reservation := by
  obtain ⟨other, otherInside, binds⟩ := exact.of_attempt member owned
  have equal : other = reservation := List.inj_on_of_nodup_map exact.unshared otherInside inside
    (binds.attemptId.trans same.symm)
  exact equal ▸ binds

/-- A step that is materialized has no attempt yet. -/
theorem materialized (exact : ReservationsAreExact before reservations)
    (noAttempts : stepRun.attempts = []) :
    ReservationsAreExact (before ++ [stepRun]) reservations := by
  refine ⟨exact.distinct, exact.unshared, ?_,
    fun reservation member => (exact.bound reservation member).append, exact.exact⟩
  simpa [List.flatMap_append, noAttempts] using exact.attempts

/-- A command that leaves the attempts alone, or replaces one under its terms by an attempt
that is as open. -/
theorem replaced (exact : ReservationsAreExact (before ++ stepRun :: after) reservations)
    (same : SameStep stepRun next)
    (identities : next.attempts.map Attempt.attemptId = stepRun.attempts.map Attempt.attemptId)
    (kept : ∀ attempt ∈ stepRun.attempts, ∃ replacement ∈ next.attempts,
      SameTerms attempt replacement ∧
        attemptIsTerminal replacement.state = attemptIsTerminal attempt.state) :
    ReservationsAreExact (before ++ next :: after) reservations := by
  refine ⟨exact.distinct, exact.unshared, ?_, ?_, exact.exact⟩
  · rw [flatMap_attemptIds identities]
    exact exact.attempts
  · intro reservation member
    refine (exact.bound reservation member).replace ?_
    intro attempt owned binds
    obtain ⟨replacement, inside, terms, state⟩ := kept attempt owned
    exact ⟨replacement, inside, binds.rebind same terms state⟩

/-- A claimed attempt comes with its reservation. -/
theorem claimed (exact : ReservationsAreExact (before ++ stepRun :: after) reservations)
    (same : SameStep stepRun next) {attempt : Attempt} {reservation : CostReservation}
    (attempts : next.attempts = stepRun.attempts ++ [attempt])
    (fresh : ∀ known ∈ reservations, known.reservationId ≠ reservation.reservationId ∧
      known.attemptId ≠ reservation.attemptId)
    (binds : ReservationBinds next attempt reservation) (receipt : ReceiptIsExact reservation) :
    ReservationsAreExact (before ++ next :: after) (reservations ++ [reservation]) := by
  refine ⟨?_, ?_, ?_, ?_, ?_⟩
  · rw [List.map_append, List.nodup_append]
    refine ⟨exact.distinct, List.nodup_singleton _, ?_⟩
    intro identity listed other otherListed
    obtain ⟨known, member, rfl⟩ := List.mem_map.mp listed
    rw [List.mem_singleton.mp otherListed]
    exact (fresh known member).1
  · rw [List.map_append, List.nodup_append]
    refine ⟨exact.unshared, List.nodup_singleton _, ?_⟩
    intro identity listed other otherListed
    obtain ⟨known, member, rfl⟩ := List.mem_map.mp listed
    rw [List.mem_singleton.mp otherListed]
    exact (fresh known member).2
  · have known := exact.attempts
    simp only [List.flatMap_append, List.flatMap_cons, List.map_append, attempts, List.map_cons,
      List.map_nil, List.append_assoc] at known ⊢
    rw [binds.attemptId]
    refine List.Perm.trans ?_ (List.Perm.append_right [attempt.attemptId] known)
    simp only [List.append_assoc]
    exact List.Perm.append_left _ (List.Perm.append_left _ List.perm_append_comm)
  · intro known member
    rcases List.mem_append.mp member with earlier | last
    · refine (exact.bound known earlier).replace ?_
      intro owned inside bound
      refine ⟨owned, attempts ▸ List.mem_append_left _ inside, ?_⟩
      exact bound.rebind same (.refl owned) rfl
    · rw [List.mem_singleton.mp last]
      refine ⟨next, List.mem_append_right _ List.mem_cons_self, attempt, ?_, binds⟩
      rw [attempts]
      exact List.mem_append_right _ (List.mem_singleton_self _)
  · intro known member
    rcases List.mem_append.mp member with earlier | last
    · exact exact.exact known earlier
    · rw [List.mem_singleton.mp last]
      exact receipt

/-- A concluded attempt comes with its receipt. -/
theorem concluded {earlier later : List CostReservation}
    {reservation receipt : CostReservation} {attempt replacement : Attempt}
    (exact : ReservationsAreExact (before ++ stepRun :: after) (earlier ++ reservation :: later))
    (same : SameStep stepRun next) (owned : attempt ∈ stepRun.attempts)
    (attempts : next.attempts = replaceAttempt stepRun replacement)
    (terms : SameTerms attempt replacement)
    (ended : attemptIsTerminal replacement.state = true)
    (binds : ReservationBinds stepRun attempt reservation)
    (records : receipt = { reservation with state := receipt.state })
    (done : receipt.state ≠ .reserved) (adds : ReceiptIsExact receipt) :
    ReservationsAreExact (before ++ next :: after) (earlier ++ receipt :: later) := by
  have reservationId : receipt.reservationId = reservation.reservationId := by rw [records]
  have attemptId : receipt.attemptId = reservation.attemptId := by rw [records]
  have inNext : replacement ∈ next.attempts := by
    rw [attempts]
    exact mem_replaceAttempt owned terms.identity
  have bindsReceipt : ReservationBinds next replacement receipt := by
    refine ⟨?_, ?_, ?_, ?_, ?_, ?_, ?_, ?_, iff_of_true done ended⟩ <;> rw [records]
    · exact binds.workspaceId.trans same.workspaceId.symm
    · exact binds.runId.trans same.runId.symm
    · exact binds.stepRunId.trans same.stepRunId.symm
    · exact binds.attemptId.trans terms.identity.symm
    · exact binds.reservationId.trans terms.reservation.symm
    · exact binds.operationKey.trans terms.operationKey.symm
    · exact binds.unit.trans terms.unit.symm
    · exact binds.amount.trans terms.amount.symm
  have others : ∀ known ∈ earlier ++ later, known.attemptId ≠ reservation.attemptId := by
    have unshared := exact.unshared
    rw [List.map_append, List.map_cons, List.nodup_middle, List.nodup_cons, ← List.map_append]
      at unshared
    intro known member equal
    exact unshared.1 (equal ▸ List.mem_map_of_mem member)
  have rebound : ∀ known ∈ earlier ++ later, IsBound (before ++ next :: after) known := by
    intro known member
    have listed : known ∈ earlier ++ reservation :: later := by
      rcases List.mem_append.mp member with left | right
      · exact List.mem_append_left _ left
      · exact List.mem_append_right _ (List.mem_cons_of_mem _ right)
    refine (exact.bound known listed).replace ?_
    intro other otherOwned otherBinds
    have different : other.attemptId ≠ replacement.attemptId := by
      rw [← otherBinds.attemptId, terms.identity, ← binds.attemptId]
      exact others known member
    refine ⟨other, ?_, otherBinds.rebind same (.refl other) rfl⟩
    rw [attempts]
    exact mem_replaceAttempt_of_ne otherOwned different
  refine ⟨?_, ?_, ?_, ?_, ?_⟩
  · simpa only [List.map_append, List.map_cons, reservationId] using exact.distinct
  · simpa only [List.map_append, List.map_cons, attemptId] using exact.unshared
  · have identities : next.attempts.map Attempt.attemptId =
        stepRun.attempts.map Attempt.attemptId := by
      rw [attempts]
      exact replaceAttempt_attemptIds stepRun replacement
    rw [flatMap_attemptIds identities]
    simpa only [List.map_append, List.map_cons, attemptId] using exact.attempts
  · intro known member
    rcases List.mem_append.mp member with left | rest
    · exact rebound known (List.mem_append_left _ left)
    rcases List.mem_cons.mp rest with rfl | right
    · exact ⟨next, List.mem_append_right _ List.mem_cons_self, replacement, inNext, bindsReceipt⟩
    · exact rebound known (List.mem_append_right _ right)
  · intro known member
    rcases List.mem_append.mp member with left | rest
    · exact exact.exact known (List.mem_append_left _ left)
    rcases List.mem_cons.mp rest with rfl | right
    · exact adds
    · exact exact.exact known (List.mem_append_right _ (List.mem_cons_of_mem _ right))

end ReservationsAreExact

/-! ## Commands and the ledger -/

/-- `toReservation`: the reservation that a claim asks for. -/
def reservationOfClaim (stepRun : StepRun) (preparation : AttemptPreparation)
    (createdAt : Instant) : CostReservation where
  amount := preparation.reservedAmount
  attemptId := preparation.attemptId
  createdAt := createdAt
  operationKey := preparation.operationKey
  reservationId := preparation.costReservationId
  runId := stepRun.runId
  stepRunId := stepRun.stepRunId
  unit := preparation.reservationUnit
  workspaceId := stepRun.workspaceId
  state := .reserved

/-- The movement of the ledger that a command requires: a claim reserves, a conclusion
carries the receipt of a release or of a settlement, and other commands ask for nothing. -/
inductive LedgerMove (budget : BudgetLimit) (stepRun : StepRun) (before : CostLedger) :
    StepCommand → CostLedger → Prop where
  | silent (command : StepCommand) (unclaimed : command.type ≠ .claimStepAttempt)
      (asks : command.settlement = none) : LedgerMove budget stepRun before command before
  | reserved (preparation : AttemptPreparation) (createdAt : Instant) (decision : RoutingDecision)
      (granted : CostReservation) (result : CostReservationResult) (after : CostLedger)
      (answered : reserveStepCost before budget
        (reservationOfClaim stepRun preparation createdAt) = (result, after))
      (given : result.reservation = some granted) :
      LedgerMove budget stepRun before (.claimStepAttempt preparation)
        { after with routingDecisions := after.routingDecisions ++ [decision] }
  | released (command : StepCommand) (input : CostReservationRelease)
      (concluded : CostReservation) (result : CostReservationReleaseResult) (after : CostLedger)
      (answered : releaseStepCost before input = .ok (result, after))
      (given : result.reservation = some concluded)
      (receipt : command.settlement = receiptOf concluded) :
      LedgerMove budget stepRun before command after
  | settled (command : StepCommand) (usage : UsageEntry) (concluded : CostReservation)
      (result : CostReservationSettlementResult) (after : CostLedger)
      (answered : settleStepCost before usage = .ok (result, after))
      (given : result.reservation = some concluded)
      (receipt : command.settlement = receiptOf concluded) :
      LedgerMove budget stepRun before command after

/-- What the movement of a command leaves in the ledger. -/
inductive LedgerDelta (stepRun : StepRun) (before after : CostLedger) : StepCommand → Prop where
  | silent (command : StepCommand) (unclaimed : command.type ≠ .claimStepAttempt)
      (asks : command.settlement = none) (kept : after = before) :
      LedgerDelta stepRun before after command
  | granted (preparation : AttemptPreparation) (createdAt : Instant) (moved : CostLedger)
      (grant : CostGrant before (reservationOfClaim stepRun preparation createdAt) moved)
      (reservations : after.reservations = moved.reservations) (cost : after.cost = moved.cost) :
      LedgerDelta stepRun before after (.claimStepAttempt preparation)
  | concluded (command : StepCommand) (receipt : CostReservation) (proof : AttemptSettlementProof)
      (carries : command.settlement = some proof) (given : receiptOf receipt = some proof)
      (conclusion : CostConclusion before receipt after) : LedgerDelta stepRun before after command

theorem CostConclusion.done {before after : CostLedger} {concluded : CostReservation}
    (conclusion : CostConclusion before concluded after) : concluded.state ≠ .reserved := by
  cases conclusion <;> assumption

private theorem receiptOf_isSome {reservation : CostReservation}
    (done : reservation.state ≠ .reserved) :
    ∃ proof, receiptOf reservation = some proof := by
  unfold receiptOf
  cases state : reservation.state with
  | reserved => exact absurd state done
  | settled settledAmount releasedAmount settledAt usageEntryId => exact ⟨_, rfl⟩
  | released releasedAt => exact ⟨_, rfl⟩

theorem LedgerMove.delta {budget : BudgetLimit} {stepRun : StepRun} {before after : CostLedger}
    {command : StepCommand} (move : LedgerMove budget stepRun before command after) :
    LedgerDelta stepRun before after command := by
  cases move with
  | silent command unclaimed asks => exact .silent command unclaimed asks rfl
  | reserved preparation createdAt decision granted result moved answered given =>
      exact .granted preparation createdAt moved (reserveStepCost_grant answered given) rfl rfl
  | released command input concluded result after answered given receipt =>
      have conclusion := releaseStepCost_conclusion answered given
      obtain ⟨proof, recorded⟩ := receiptOf_isSome conclusion.done
      exact .concluded command concluded proof (receipt.trans recorded) recorded conclusion
  | settled command usage concluded result after answered given receipt =>
      have conclusion := settleStepCost_conclusion answered given
      obtain ⟨proof, recorded⟩ := receiptOf_isSome conclusion.done
      exact .concluded command concluded proof (receipt.trans recorded) recorded conclusion

/-- A receipt that matches an attempt is for it. -/
theorem receiptOf_attemptId {reservation : CostReservation} {attempt : Attempt}
    {proof : AttemptSettlementProof} (receipt : receiptOf reservation = some proof)
    (matched : settlementMatches attempt proof = true) :
    reservation.attemptId = attempt.attemptId := by
  unfold receiptOf at receipt
  split at receipt
  · cases receipt
  · cases receipt
    simp only [settlementMatches, settlementIdentityMatches, Bool.and_eq_true,
      beq_iff_eq] at matched
    exact matched.1.1.1.1.1
  · cases receipt
    simp only [settlementMatches, settlementIdentityMatches, Bool.and_eq_true,
      beq_iff_eq] at matched
    exact matched.1.1.1.1.1.1

/-- The cost of a Run is the spend and the reservations of its plan and of its ledger. -/
structure CostIsBalanced (budget : BudgetLimit) (ledger : CostLedger) : Prop where
  unit : ledger.cost.unit = budget.unit
  reserved : ledger.cost.reserved = budget.reserved + (ledger.reservations.map reservedAmountOf).sum
  spent : ledger.cost.spent = budget.spent + (ledger.reservations.map settledAmountOf).sum

/-- Ledger, attempts and cost totals agree. -/
structure LedgerIsExact (budget : BudgetLimit) (stepRuns : List StepRun) (ledger : CostLedger) :
    Prop where
  receipts : ReservationsAreExact stepRuns ledger.reservations
  balanced : CostIsBalanced budget ledger

namespace LedgerIsExact

variable {budget : BudgetLimit} {before after : List StepRun} {stepRun next : StepRun}
  {ledger moved : CostLedger}

theorem congr (exact : LedgerIsExact budget before ledger)
    (reservations : moved.reservations = ledger.reservations) (cost : moved.cost = ledger.cost) :
    LedgerIsExact budget before moved := by
  refine ⟨reservations ▸ exact.receipts, ?_, ?_, ?_⟩ <;> rw [cost]
  · exact exact.balanced.unit
  · rw [reservations]
    exact exact.balanced.reserved
  · rw [reservations]
    exact exact.balanced.spent

/-- An attempt that is claimed with a granted reservation. -/
theorem claimed (exact : LedgerIsExact budget (before ++ stepRun :: after) ledger)
    (stepRunIds : ((before ++ stepRun :: after).map StepRun.stepRunId).Nodup)
    (same : SameStep stepRun next) {preparation : AttemptPreparation}
    {occurredAt createdAt : Instant}
    (attempts : next.attempts = stepRun.attempts ++ [claimedAttempt stepRun preparation occurredAt])
    (fresh : ∀ known ∈ stepRun.attempts, known.attemptId ≠ preparation.attemptId)
    (grant : CostGrant ledger (reservationOfClaim stepRun preparation createdAt) moved) :
    LedgerIsExact budget (before ++ next :: after) moved := by
  cases grant with
  | existing existing member matched =>
      -- A recorded reservation is bound to an attempt of this step, but the attempt is new.
      obtain ⟨owner, ownerMember, attempt, owned, binds⟩ := exact.receipts.bound existing member
      simp only [reservationMatches, reservationOfClaim, Bool.and_eq_true, beq_iff_eq] at matched
      have ownerEq : owner = stepRun := List.inj_on_of_nodup_map stepRunIds ownerMember
        (List.mem_append_right _ List.mem_cons_self)
        (binds.stepRunId.symm.trans matched.1.1.2)
      exact absurd (binds.attemptId.symm.trans matched.1.1.1.1.1.2)
        (fresh attempt (ownerEq ▸ owned))
  | created amount unknown =>
      refine ⟨exact.receipts.claimed same attempts unknown ?_ ?_, ?_⟩
      · exact ⟨same.workspaceId.symm, same.runId.symm, same.stepRunId.symm, rfl, rfl, rfl, rfl, rfl,
          iff_of_false (fun done => done rfl) Bool.noConfusion⟩
      · exact ⟨amount, le_refl _, le_refl _, fun done => absurd rfl done⟩
      · refine ⟨exact.balanced.unit, ?_, ?_⟩
        · simp [CostLedger.persistReservation, exact.balanced.reserved, reservedAmountOf,
            reservationOfClaim, add_assoc]
        · simp [CostLedger.persistReservation, exact.balanced.spent, settledAmountOf,
            reservationOfClaim]

/-- An attempt that is concluded with a matching receipt. -/
theorem concluded (exact : LedgerIsExact budget (before ++ stepRun :: after) ledger)
    (same : SameStep stepRun next) {attempt replacement : Attempt} {receipt : CostReservation}
    {proof : AttemptSettlementProof} (owned : attempt ∈ stepRun.attempts)
    (attempts : next.attempts = replaceAttempt stepRun replacement)
    (terms : SameTerms attempt replacement) (opened : attemptIsTerminal attempt.state = false)
    (ended : attemptIsTerminal replacement.state = true) (given : receiptOf receipt = some proof)
    (matched : settlementMatches attempt proof = true)
    (conclusion : CostConclusion ledger receipt moved) :
    LedgerIsExact budget (before ++ next :: after) moved := by
  have member : stepRun ∈ before ++ stepRun :: after :=
    List.mem_append_right _ List.mem_cons_self
  have sameAttempt := receiptOf_attemptId given matched
  cases conclusion with
  | existing inside done =>
      have binds := exact.receipts.binds_of_attemptId member owned inside sameAttempt
      rw [binds.concluded.mp done] at opened
      cases opened
  | fresh reservation _ inside reserved records done adds movedTo cost =>
      have binds : ReservationBinds stepRun attempt reservation := by
        refine exact.receipts.binds_of_attemptId member owned inside ?_
        rw [← sameAttempt, records]
      obtain ⟨earlier, later, split, replaced⟩ := replaceReservation_split exact.receipts.distinct
        inside reserved (by rw [records] : receipt.reservationId = reservation.reservationId)
      have receipts := exact.receipts
      have balanced := exact.balanced
      rw [split] at receipts
      refine ⟨?_, ?_⟩
      · rw [movedTo, replaced]
        exact receipts.concluded same owned attempts terms ended binds records done adds
      · have reservedSum := balanced.reserved
        have spentSum := balanced.spent
        have spentBefore : settledAmountOf reservation = 0 := by simp [settledAmountOf, reserved]
        have heldBefore : reservedAmountOf reservation = reservation.amount := by
          simp [reservedAmountOf, reserved]
        have heldAfter : reservedAmountOf receipt = 0 := by simp [reservedAmountOf, done]
        rw [split] at reservedSum spentSum
        simp only [List.map_append, List.map_cons, List.sum_append, List.sum_cons, spentBefore,
          heldBefore] at reservedSum spentSum
        refine ⟨?_, ?_, ?_⟩
        · rw [cost]
          exact balanced.unit
        · rw [cost, movedTo, replaced]
          simp only [List.map_append, List.map_cons, List.sum_append, List.sum_cons, heldAfter]
          linarith
        · rw [cost, movedTo, replaced]
          simp only [List.map_append, List.map_cons, List.sum_append, List.sum_cons]
          linarith

/-- A command that asks nothing of the ledger. -/
theorem silent (exact : LedgerIsExact budget (before ++ stepRun :: after) ledger)
    (same : SameStep stepRun next)
    (identities : next.attempts.map Attempt.attemptId = stepRun.attempts.map Attempt.attemptId)
    (kept : ∀ attempt ∈ stepRun.attempts, ∃ replacement ∈ next.attempts,
      SameTerms attempt replacement ∧
        attemptIsTerminal replacement.state = attemptIsTerminal attempt.state) :
    LedgerIsExact budget (before ++ next :: after) ledger :=
  ⟨exact.receipts.replaced same identities kept, exact.balanced⟩

end LedgerIsExact

end Kurobara.Persistence
