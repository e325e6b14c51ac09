import Kurobara.Application.DagRunSettlement
import Kurobara.Application.DagSchedulingUnitOfWork
import Kurobara.Application.RunFinalization

/-! # Settlement of a cancelling Run

A Run with its steps, its ledger and the recipe cell that it may belong to. Whatever the
order of commands and transitions, the cancellation of a Run proves its ledger, and the pass
over a closed Run settles it by a command that the Run accepts, with its cell skipped. The
transaction of the pass takes none of that: it knows the end of a converged Run only, so a
closed Run stays cancelling.
-/

namespace Kurobara.Application

open Foundation Kernel Persistence

variable {Value : Type}

/-! ## The ledger proof -/

/-- The attempts of a step name it. -/
def AttemptsAreOwned (stepRuns : List StepRun) : Prop :=
  ∀ stepRun ∈ stepRuns, ∀ attempt ∈ stepRun.attempts, attempt.stepRunId = stepRun.stepRunId

private def UnitsAreShared (budget : BudgetLimit) (reservations : List CostReservation) : Prop :=
  ∀ reservation ∈ reservations, reservation.unit = budget.unit

/-- A planned command leaves the attempts of its step with the step. -/
theorem stepDelta_owned {stepRun : StepRun} {occurredAt : Instant} {command : StepCommand}
    {planned : StepTransitionPlan} (delta : StepDelta stepRun occurredAt command planned)
    (owned : ∀ attempt ∈ stepRun.attempts, attempt.stepRunId = stepRun.stepRunId) :
    ∀ attempt ∈ planned.attempts, attempt.stepRunId = stepRun.stepRunId := by
  intro next member
  cases delta with
  | claimed preparation details valid fresh =>
      rcases List.mem_append.mp member with earlier | last
      · exact owned next earlier
      · rw [List.mem_singleton.mp last]
        rfl
  | continued attempt replacement details command state inside active terms =>
      rcases replaceAttempt_cases member with rfl | earlier
      · rw [terms.owner]
        exact owned attempt inside
      · exact owned next earlier
  | concluded attempt replacement details command proof state inside active target terms =>
      rcases replaceAttempt_cases member with rfl | earlier
      · rw [terms.owner]
        exact owned attempt inside
      · exact owned next earlier
  | parked => exact owned next member

private theorem reserveStepCost_units {ledger after : CostLedger} {budget : BudgetLimit}
    {reservation : CostReservation} {result : CostReservationResult}
    (reserved : reserveStepCost ledger budget reservation = (result, after))
    (units : UnitsAreShared budget ledger.reservations) :
    UnitsAreShared budget after.reservations := by
  unfold reserveStepCost at reserved
  split at reserved
  · cases reserved
    exact units
  split at reserved
  · cases reserved
    exact units
  rename_i fits
  split at reserved
  · cases reserved
    exact units
  cases reserved
  simp only [CostLedger.fitsReservationBudget, Bool.not_eq_true', Bool.not_eq_false,
    Bool.and_eq_true, beq_iff_eq] at fits
  intro known member
  rcases List.mem_append.mp member with earlier | last
  · exact units known earlier
  · rw [List.mem_singleton.mp last]
    exact fits.1.1.1.1.1.2.symm

private theorem costConclusion_units {before after : CostLedger} {concluded : CostReservation}
    {budget : BudgetLimit} (conclusion : CostConclusion before concluded after)
    (units : UnitsAreShared budget before.reservations) :
    UnitsAreShared budget after.reservations := by
  cases conclusion with
  | existing => exact units
  | fresh reservation _ member reserved terms done exact moved =>
      rw [moved]
      intro known inside
      obtain ⟨old, oldMember, rfl⟩ := List.mem_map.mp inside
      split
      · rw [terms]
        exact units reservation member
      · exact units old oldMember

private theorem ledgerMove_units {budget : BudgetLimit} {stepRun : StepRun}
    {before after : CostLedger}
    {command : StepCommand} (move : LedgerMove budget stepRun before command after)
    (units : UnitsAreShared budget before.reservations) :
    UnitsAreShared budget after.reservations := by
  cases move with
  | silent => exact units
  | reserved preparation createdAt decision granted result moved answered given =>
      exact fun known inside => reserveStepCost_units answered units known inside
  | released command input concluded result after answered given =>
      exact costConclusion_units (releaseStepCost_conclusion answered given) units
  | settled command usage concluded result after answered given =>
      exact costConclusion_units (settleStepCost_conclusion answered given) units

/-- **Attempts keep their steps, and reservations the unit of the budget.** -/
theorem dagRuns_owned {dagRun : DagRun} (reachable : dagRuns.Reachable dagRun) :
    AttemptsAreOwned dagRun.stepRuns ∧
      UnitsAreShared dagRun.plan.budget dagRun.ledger.reservations := by
  induction reachable with
  | initial created =>
      rw [created.noSteps, created.ledger]
      exact ⟨by simp [AttemptsAreOwned], by simp [UnitsAreShared]⟩
  | step _ moved ih =>
      obtain ⟨owned, units⟩ := ih
      cases moved with
      | scheduled input decision current accepted =>
          obtain rfl := scheduleStep_ok accepted
          refine ⟨?_, units⟩
          intro stepRun member
          rcases List.mem_append.mp member with earlier | last
          · exact owned stepRun earlier
          · rw [List.mem_singleton.mp last]
            simp [scheduledStep]
      | skipped input decision current accepted =>
          obtain rfl := skipStep_ok accepted
          refine ⟨?_, units⟩
          intro stepRun member
          rcases List.mem_append.mp member with earlier | last
          · exact owned stepRun earlier
          · rw [List.mem_singleton.mp last]
            simp [skippedStep]
      | commanded before after stepRun command context transition ledger artifacts located accepted
          fresh moved recorded =>
          rcases applyStepCommand_ok accepted with ⟨rfl, _⟩ | ⟨_, _, planned, plannedEq, _, rfl⟩
          · cases fresh
          refine ⟨?_, ledgerMove_units moved units⟩
          rw [located] at owned
          have next := stepDelta_owned (planTransition_delta plannedEq)
            (owned stepRun (List.mem_append_right _ List.mem_cons_self))
          intro known member
          rcases List.mem_append.mp member with left | rest
          · exact owned known (List.mem_append_left _ left)
          rcases List.mem_cons.mp rest with rfl | right
          · exact next
          · exact owned known (List.mem_append_right _ (List.mem_cons_of_mem _ right))
      | ran => exact ⟨owned, units⟩

/-- The context of a Run, with the recipe cell that it claims. -/
structure ClaimsDagRun (dagRun : DagRun) (context : DagSchedulingContext) : Prop where
  plan : context.plan = dagRun.plan
  run : context.run = dagRun.run
  stepRuns : context.stepRuns = dagRun.stepRuns
  cost : context.cost = dagRun.ledger.cost
  reservations : context.reservations = dagRun.ledger.reservations

theorem ClaimsDagRun.cancellationIdentityIsExact {dagRun : DagRun} {context : DagSchedulingContext}
    (claims : ClaimsDagRun dagRun context) (reachable : dagRuns.Reachable dagRun) :
    cancellationIdentityIsExact context = true := by
  have invariant := dagRunInvariant.reachable reachable
  obtain ⟨owned, -⟩ := dagRuns_owned reachable
  have receipts := invariant.ledger.receipts
  have attempts : (attemptProofs context.stepRuns).map Prod.fst =
      context.stepRuns.flatMap StepRun.attempts := by
    simp [attemptProofs, List.map_flatMap, Function.comp_def]
  have identities : (attemptProofs context.stepRuns).map (·.1.attemptId) =
      (dagRun.stepRuns.flatMap StepRun.attempts).map Attempt.attemptId := by
    rw [← claims.stepRuns, ← attempts, List.map_map]
    rfl
  unfold Application.cancellationIdentityIsExact
  simp only [Bool.and_eq_true, decide_eq_true_eq, beq_iff_eq, List.all_eq_true]
  rw [identities, claims.reservations]
  refine ⟨⟨⟨⟨receipts.attemptIds, receipts.distinct⟩, receipts.unshared⟩, ?_⟩, ?_⟩
  · have lengths := congrArg List.length identities
    rw [List.length_map] at lengths
    rw [lengths, receipts.attempts.length_eq, List.length_map]
  · rintro ⟨attempt, stepRun⟩ listed
    rw [claims.stepRuns] at listed
    obtain ⟨owner, member, inside⟩ := List.mem_flatMap.mp listed
    obtain ⟨known, knownOwned, same⟩ := List.mem_map.mp inside
    obtain ⟨rfl, rfl⟩ := Prod.mk.inj same
    obtain ⟨reservation, reserved, binds⟩ := receipts.of_attempt member knownOwned
    have found : reservationOfAttempt dagRun.ledger.reservations known.attemptId =
        some reservation :=
      (find?_key_eq_some_iff receipts.unshared).mpr ⟨reserved, binds.attemptId⟩
    obtain ⟨_, workspaceId, runId⟩ :=
      stepIdentityIsValid_known (invariant.steps.identified _ member)
    have receipt := receipts.exact reservation reserved
    refine ⟨owned _ member known knownOwned, ?_⟩
    rw [found, Option.any_some, Bool.and_eq_true]
    constructor
    · simp only [cancellationReservationMatchesAttempt, Bool.and_eq_true, beq_iff_eq]
      refine ⟨⟨⟨⟨⟨⟨⟨?_, ?_⟩, binds.stepRunId⟩, binds.attemptId⟩, binds.reservationId⟩,
        binds.operationKey⟩, binds.unit⟩, amountsEqual_iff.mpr ⟨receipt.amount, binds.amount⟩⟩
      · rw [binds.workspaceId, workspaceId, claims.run]
      · rw [binds.runId, runId, claims.run]
    · unfold cancellationSettlementReceiptIsValid
      rw [isAmount_iff.mpr receipt.amount, Bool.true_and]
      split
      · rename_i settledAmount releasedAmount _ _ state
        have total := receipt.total (by rw [state]; exact CostReservationState.noConfusion)
        have settled := receipt.settled
        have released := receipt.released
        simp only [settledAmountOf, releasedAmountOf, state] at total settled released
        rw [isAmount_iff.mpr settled, isAmount_iff.mpr released, Bool.true_and, Bool.true_and,
          amountsEqual_iff]
        exact ⟨receipt.amount, by rw [← total, add_comm]⟩
      · rfl
      · rfl

/-- The cost is proved exactly when the plan reserved nothing of its own. -/
theorem ClaimsDagRun.cancellationCostIsExact_iff {dagRun : DagRun}
    {context : DagSchedulingContext} (claims : ClaimsDagRun dagRun context)
    (reachable : dagRuns.Reachable dagRun) :
    cancellationCostIsExact context = true ↔ dagRun.plan.budget.reserved = 0 := by
  have invariant := dagRunInvariant.reachable reachable
  obtain ⟨-, units⟩ := dagRuns_owned reachable
  have balanced := invariant.ledger.balanced
  have settled : 0 ≤ (dagRun.ledger.reservations.map settledAmountOf).sum :=
    List.sum_nonneg fun amount listed => by
      obtain ⟨reservation, member, rfl⟩ := List.mem_map.mp listed
      exact (invariant.ledger.receipts.exact reservation member).settled
  have reserved : 0 ≤ (dagRun.ledger.reservations.map reservedAmountOf).sum :=
    List.sum_nonneg fun amount listed => by
      obtain ⟨reservation, member, rfl⟩ := List.mem_map.mp listed
      unfold reservedAmountOf
      split
      · exact (invariant.ledger.receipts.exact reservation member).amount
      · exact le_refl _
  unfold cancellationCostIsExact
  rw [claims.cost, claims.plan, claims.reservations]
  simp only [Bool.and_eq_true, beq_iff_eq, List.all_eq_true, isAmount_iff, amountsEqual_iff,
    balanced.unit, balanced.reserved, balanced.spent]
  constructor
  · rintro ⟨⟨_, _, same⟩, _⟩
    linarith
  · intro free
    have spent := add_nonneg invariant.budget.1 settled
    rw [free, zero_add]
    exact ⟨⟨⟨⟨⟨trivial, units⟩, reserved⟩, spent⟩, reserved, rfl⟩, spent, trivial⟩

/-! ## Closed Runs -/

/-- No step is open, no attempt is unsettled and no reservation is reserved. -/
structure RunIsClosed (context : DagSchedulingContext) : Prop where
  steps : ∀ stepRun ∈ context.stepRuns, stepRun.state ≠ .active ∧ stepRun.state ≠ .ambiguous ∧
    stepRun.state ≠ .cancelling
  attempts : ∀ stepRun ∈ context.stepRuns, ∀ attempt ∈ stepRun.attempts,
    attempt.state ≠ .prepared ∧ attempt.state ≠ .claimed ∧ attempt.state ≠ .inFlight ∧
      attempt.state ≠ .ambiguous
  reservations : ∀ reservation ∈ context.reservations, reservation.state ≠ .reserved

private theorem stepIsUnresolved_eq_false_iff {stepRun : StepRun}
    (invariant : StepRunInvariant stepRun) :
    stepIsUnresolved stepRun = false ↔
      (stepRun.state ≠ .active ∧ stepRun.state ≠ .ambiguous ∧ stepRun.state ≠ .cancelling) ∧
        ∀ attempt ∈ stepRun.attempts, attempt.state ≠ .prepared ∧ attempt.state ≠ .claimed ∧
          attempt.state ≠ .inFlight ∧ attempt.state ≠ .ambiguous := by
  have settled : ∀ state : AttemptState, nonTerminalAttemptState state = false ↔
      state ≠ .prepared ∧ state ≠ .claimed ∧ state ≠ .inFlight ∧ state ≠ .ambiguous := by
    intro state
    cases state <;> decide
  have inactive : (∀ attempt ∈ stepRun.attempts, nonTerminalAttemptState attempt.state = false) →
      stepRun.activeAttemptId = none := by
    intro closed
    rcases invariant.activity with ⟨inactive, _⟩ | ⟨earlier, last, split, _, opened, _⟩
    · exact inactive
    · have here := closed last (split ▸ List.mem_append_right _ (List.mem_singleton_self _))
      rcases opened with ⟨_, state | state⟩ | ⟨_, state⟩ <;> rw [state] at here <;> cases here
  simp only [stepIsUnresolved, attemptsAreOpen, Bool.or_eq_false_iff, Option.isSome_eq_false_iff,
    Option.isNone_iff_eq_none, List.any_eq_false, Bool.not_eq_true, beq_eq_false_iff_ne, settled]
  simp only [settled] at inactive
  constructor
  · rintro ⟨⟨⟨⟨_, closed⟩, active⟩, ambiguous⟩, cancelling⟩
    exact ⟨⟨active, ambiguous, cancelling⟩, closed⟩
  · rintro ⟨⟨active, ambiguous, cancelling⟩, closed⟩
    exact ⟨⟨⟨⟨inactive closed, closed⟩, active⟩, ambiguous⟩, cancelling⟩

/-- **The cancellation proof.** It is found exactly when the plan reserved nothing of its own,
and then the cancellation settles once the Run is closed. -/
theorem ClaimsDagRun.cancellationCanSettle_iff {dagRun : DagRun} {context : DagSchedulingContext}
    (claims : ClaimsDagRun dagRun context) (reachable : dagRuns.Reachable dagRun) :
    ((∃ settles, cancellationCanSettle context = .ok settles) ↔
        dagRun.plan.budget.reserved = 0) ∧
      ∀ settles, cancellationCanSettle context = .ok settles →
        (settles = true ↔ RunIsClosed context) := by
  have invariant := dagRunInvariant.reachable reachable
  have identity := claims.cancellationIdentityIsExact reachable
  have cost := claims.cancellationCostIsExact_iff reachable
  unfold cancellationCanSettle
  rw [identity, Bool.true_and]
  by_cases exact : cancellationCostIsExact context = true
  · rw [exact, Bool.not_true, if_neg Bool.false_ne_true]
    refine ⟨⟨fun _ => cost.mp exact, fun _ => ⟨_, rfl⟩⟩, ?_⟩
    intro settles answered
    cases answered
    have steps : context.stepRuns.all (!stepIsUnresolved ·) = true ↔
        (∀ stepRun ∈ context.stepRuns, stepRun.state ≠ .active ∧ stepRun.state ≠ .ambiguous ∧
          stepRun.state ≠ .cancelling) ∧
        ∀ stepRun ∈ context.stepRuns, ∀ attempt ∈ stepRun.attempts, attempt.state ≠ .prepared ∧
          attempt.state ≠ .claimed ∧ attempt.state ≠ .inFlight ∧ attempt.state ≠ .ambiguous := by
      rw [List.all_eq_true, ← forall₂_and]
      refine forall₂_congr fun stepRun member => ?_
      rw [Bool.not_eq_true']
      exact stepIsUnresolved_eq_false_iff
        (invariant.represented stepRun (claims.stepRuns ▸ member)).1
    simp only [Bool.and_eq_true, steps, List.all_eq_true, bne_iff_ne]
    constructor
    · rintro ⟨⟨_, settled⟩, states, attempts⟩
      exact ⟨states, attempts, settled⟩
    · rintro ⟨states, attempts, settled⟩
      refine ⟨⟨?_, settled⟩, states, attempts⟩
      have released : (context.reservations.map reservedAmountOf).sum = 0 := by
        refine List.sum_eq_zero fun amount listed => ?_
        obtain ⟨reservation, member, rfl⟩ := List.mem_map.mp listed
        simp [reservedAmountOf, settled reservation member]
      simp only [cancellationCostIsExact, Bool.and_eq_true, amountsEqual_iff, released] at exact
      exact amountsEqual_iff.mpr exact.1.2
  · rw [Bool.eq_false_of_not_eq_true exact, Bool.not_false, if_pos rfl]
    refine ⟨⟨?_, fun free => absurd (cost.mpr free) exact⟩, ?_⟩
    · rintro ⟨_, ⟨⟩⟩
    · rintro _ ⟨⟩

/-! ## Runs with a cell -/

/-- A DAG Run with the recipe cell that waits for it, if any. -/
structure CellDagRun where
  dagRun : DagRun
  cell : Option DagRecipeCell

/-- The moves of a Run with its cell: accepted commands with what they require, and committed
transitions of its attempts. -/
inductive CellDagRunStep [DecidableEq Value] (hashes : CanonicalHashes Value) :
    CellDagRun → TransitionRunMove Value → CellDagRun → Prop where
  | commanded {before : CellDagRun} {next : DagRun} (move : DagRunMove)
      (cell : Option DagRecipeCell) (moved : DagRunStep before.dagRun move next)
      (follows : CellMove next.run before.cell cell) :
      CellDagRunStep hashes before (.aside move) ⟨next, cell⟩
  | transitioned {before : CellDagRun} {next : DagRun} (move : TransitionRunMove Value)
      (moved : TransitionRunStep hashes before.dagRun move next) :
      CellDagRunStep hashes before move ⟨next, before.cell⟩

/-- A Run is created from a quoted plan, which reserves nothing of its own. -/
structure IsCreatedCellDagRun (created : CellDagRun) : Prop where
  dagRun : IsCreatedDagRun created.dagRun
  quoted : created.dagRun.plan.budget.reserved = 0
  cell : ∀ cell, created.cell = some cell →
    CellIsOpen cell created.dagRun.run ∧ cell.current.status = .pending

def cellDagRuns [DecidableEq Value] (hashes : CanonicalHashes Value) :
    TransitionSystem CellDagRun (TransitionRunMove Value) where
  initial := IsCreatedCellDagRun
  step := CellDagRunStep hashes

/-- A move keeps the identity of its Run, and a terminal Run. -/
theorem DagRunStep.run_identity {before next : DagRun} {move : DagRunMove}
    (moved : DagRunStep before move next) :
    next.plan = before.plan ∧ next.run.workspaceId = before.run.workspaceId ∧
      next.run.runId = before.run.runId ∧
      (runIsTerminal before.run.state = true → next.run = before.run) := by
  cases moved with
  | ran command context transition accepted =>
      obtain ⟨workspaceId, runId, _⟩ := applyRunCommand_identity accepted
      refine ⟨rfl, workspaceId, runId, fun terminal => ?_⟩
      rw [(applyRunCommand_of_terminal terminal accepted).1]
  | _ => exact ⟨rfl, rfl, rfl, fun _ => rfl⟩

theorem IsCreatedDagRun.authority {dagRun : DagRun} (created : IsCreatedDagRun dagRun) :
    dagRun.plan.authority.workspaceId = dagRun.plan.workspaceId := by
  obtain ⟨input, decision, accepted, planEq, _⟩ := created.created
  rw [← planEq]
  unfold createRunFromPlan at accepted
  dsimp only at accepted
  split at accepted
  · cases accepted
  rename_i same
  rw [bne_iff_ne, ne_eq, not_not] at same
  exact same.symm

/-- Runs over a quoted plan, with an open cell until they are terminal. -/
structure CellDagRunInvariant (state : CellDagRun) : Prop where
  reachable : dagRuns.Reachable state.dagRun
  quoted : state.dagRun.plan.budget.reserved = 0
  authority : state.dagRun.plan.authority.workspaceId = state.dagRun.plan.workspaceId
  cell : runIsTerminal state.dagRun.run.state = false →
    ∀ cell, state.cell = some cell → CellIsOpen cell state.dagRun.run

theorem CellDagRunInvariant.commanded {before : CellDagRun} {next : DagRun} {move : DagRunMove}
    {cell : Option DagRecipeCell} (invariant : CellDagRunInvariant before)
    (moved : DagRunStep before.dagRun move next) (follows : CellMove next.run before.cell cell) :
    CellDagRunInvariant ⟨next, cell⟩ := by
  obtain ⟨plan, workspaceId, runId, absorbing⟩ := moved.run_identity
  refine ⟨invariant.reachable.step moved, plan ▸ invariant.quoted, plan ▸ invariant.authority,
    fun live => follows.opened live fun known given => ?_⟩
  have liveBefore : runIsTerminal before.dagRun.run.state = false := by
    by_contra ended
    rw [Bool.not_eq_false] at ended
    rw [absorbing ended, ended] at live
    cases live
  exact (invariant.cell liveBefore known given).of_identity workspaceId runId

private theorem cellDagRuns_invariant [DecidableEq Value] {hashes : CanonicalHashes Value} :
    (cellDagRuns hashes).Invariant CellDagRunInvariant where
  initially _ created := ⟨.initial created.dagRun, created.quoted, created.dagRun.authority,
    fun _ cell given => (created.cell cell given).1⟩
  preserved := by
    intro before move after invariant moved
    cases moved with
    | commanded move cell moved follows => exact invariant.commanded moved follows
    | transitioned move moved =>
        cases moved with
        | aside move moved => exact invariant.commanded moved (.kept _)
        | transitioned earlier later rows committed environment input result plan run located ledger
            artifacts ran =>
            exact ⟨(TransitionRunStep.transitioned earlier later rows committed environment input
              result plan run located ledger artifacts ran).reachable invariant.reachable,
              invariant.quoted, invariant.authority, invariant.cell⟩

/-! ## The cancelling pass -/

section

variable (hashes : DagCanonicalHashes) (environment : DagSchedulingEnvironment)
  (context : DagSchedulingContext)

/-- The transaction of the pass commits the cancelled Run. -/
def CancellationIsApplied : Prop :=
  ∃ committed run, dagSchedulingTransaction hashes environment context = .ok committed ∧
    committed.updatedRun = some run ∧ run.state = .cancelled

/-- The ledger of the Run is proved, and the settlement of a closed Run is accepted by the Run
and skips its cell. -/
structure SettlementIsAccepted : Prop where
  proves : ∃ settles, cancellationCanSettle context = .ok settles
  accepted : RunIsClosed context → ∃ transition,
    applyRunCommand context.run .settleCancellation
      (cancellationContext hashes environment context) =
        .ok transition ∧
      transition.replayed = false ∧ transition.run.state = .cancelled ∧
      ∀ cell, context.recipeCell = some cell → ∃ projection,
        projectCellResult hashes.value (projectionRequest cell transition.run none none) =
            .ok projection ∧ projection.cellResult.status = .skipped

/-- The settlement of a cancelling Run is accepted, and applied exactly when the Run is
closed. -/
structure CancellationIsExact : Prop extends
    SettlementIsAccepted hashes environment context where
  applied : CancellationIsApplied hashes environment context ↔ RunIsClosed context

end

section

variable {hashes : DagCanonicalHashes} {environment : DagSchedulingEnvironment}
  {context : DagSchedulingContext}

/-- The Run that the settlement of its cancellation leaves. -/
def cancelledTransition (hashes : DagCanonicalHashes) (environment : DagSchedulingEnvironment)
    (context : DagSchedulingContext) : RunTransition :=
  freshRunTransition context.run ⟨.cancelled, context.run.resultCompleteness, none, none,
    [.runCancelled (context.run.pendingStopReason.getD .requested)]⟩
    (cancellationContext hashes environment context)

private theorem settleCancellation_accepted (cancelling : context.run.state = .cancelling) :
    applyRunCommand context.run .settleCancellation
        (cancellationContext hashes environment context) =
      .ok (cancelledTransition hashes environment context) := by
  refine applyRunCommand_fresh ?_ rfl rfl rfl
  simp [planRunTransition, settleCancellation, fromRunState, cancelling]

private theorem cancelledTransition_projects {cell : DagRecipeCell}
    (opened : CellIsOpen cell context.run) :
    projectCellResult hashes.value
        (projectionRequest cell (cancelledTransition hashes environment context).run none none) =
      .ok ⟨skippedCell cell.current, false⟩ :=
  have unsettled : CellIsOpen cell (cancelledTransition hashes environment context).run :=
    ⟨opened.valid, opened.workspaceId, opened.runId, opened.status⟩
  unsettled.projects hashes.value rfl rfl

/-- A settled cancellation writes the Run and the event of its end. -/
theorem settleRunCancellation_writes (cancelling : context.run.state = .cancelling)
    (opened : ∀ cell, context.recipeCell = some cell → CellIsOpen cell context.run)
    (persisted : context.recipeCell.isSome = true → environment.hasCellResults = true) :
    ∃ writes event reason, settleRunCancellation hashes environment context = .ok writes ∧
      .appendRunEvent event ∈ writes ∧ event.detail = .runCancelled reason := by
  have finalized : ∃ cellWrites, finalizeCancelledRecipeCell hashes environment context
      (cancelledTransition hashes environment context).run = .ok cellWrites := by
    unfold finalizeCancelledRecipeCell
    cases given : context.recipeCell with
    | none => exact ⟨[], rfl⟩
    | some cell =>
        have projected : projectCellResult hashes.value (projectionRequest cell
            (cancelledTransition hashes environment context).run none none) =
              .ok ⟨skippedCell cell.current, false⟩ :=
          cancelledTransition_projects (opened cell given)
        dsimp only
        rw [projected, persisted (by rw [given]; rfl)]
        exact ⟨_, rfl⟩
  obtain ⟨cellWrites, finalizedEq⟩ := finalized
  unfold settleRunCancellation
  dsimp only
  rw [settleCancellation_accepted cancelling]
  dsimp only
  rw [finalizedEq]
  exact ⟨_, _, _, rfl, List.mem_append_left _ (List.mem_cons_of_mem _ List.mem_cons_self), rfl⟩

/-! ## The transaction of the pass -/

private theorem ClaimsDagRun.identityIsConsistent {dagRun : DagRun}
    (claims : ClaimsDagRun dagRun context)
    (reachable : dagRuns.Reachable dagRun)
    (authority : dagRun.plan.authority.workspaceId = dagRun.plan.workspaceId) :
    contextIdentityIsConsistent context = true := by
  have invariant := dagRunInvariant.reachable reachable
  unfold contextIdentityIsConsistent
  simp only [claims.plan, claims.run, claims.stepRuns, authority, invariant.workspaceId,
    invariant.runPlanId, beq_self_eq_true, Bool.true_and, List.all_eq_true, Bool.and_eq_true,
    beq_iff_eq]
  intro stepRun member
  exact (stepIdentityIsValid_known (invariant.steps.identified stepRun member)).2

/-- A pass over a cancelling Run is its cancelling pass. -/
theorem materializeNextDagRun_cancelling (consistent : contextIdentityIsConsistent context = true)
    (cancelling : context.run.state = .cancelling) :
    materializeNextDagRun hashes environment context =
      cancellingPass hashes environment context := by
  unfold materializeNextDagRun
  rw [assertContextIdentity, if_pos consistent, cancelling]
  rfl

/-- The settlement of a Run is rolled back. -/
theorem settlement_rollsBack (consistent : contextIdentityIsConsistent context = true)
    (cancelling : context.run.state = .cancelling)
    (settles : cancellationCanSettle context = .ok true)
    (opened : ∀ cell, context.recipeCell = some cell → CellIsOpen cell context.run)
    (persisted : context.recipeCell.isSome = true → environment.hasCellResults = true) :
    ∃ failure, dagSchedulingTransaction hashes environment context = .error (.adapter failure) := by
  obtain ⟨writes, event, reason, settled, member, cancelled⟩ :
      ∃ writes event reason, settleRunCancellation hashes environment context = .ok writes ∧
        .appendRunEvent event ∈ writes ∧ event.detail = .runCancelled reason :=
    settleRunCancellation_writes cancelling opened persisted
  have pass : cancellingPass hashes environment context =
      .ok (quietPass context .staleTerminal writes) := by
    unfold cancellingPass
    rw [settles, Except.bind, if_pos rfl, settled]
    rfl
  obtain ⟨failure, rejected⟩ : ∃ failure, commitDagScheduling context
      (quietPass context .staleTerminal writes).writes = .error failure :=
    commitDagScheduling_rejects (List.mem_append_left _ member)
      (appendRunEvent_runCancelled cancelled)
  refine ⟨failure, ?_⟩
  unfold dagSchedulingTransaction
  rw [materializeNextDagRun_cancelling consistent cancelling, pass]
  dsimp only
  rw [rejected]

/-- A Run that is not closed waits. -/
theorem cancelling_waits (consistent : contextIdentityIsConsistent context = true)
    (cancelling : context.run.state = .cancelling)
    (settles : cancellationCanSettle context = .ok false) :
    dagSchedulingTransaction hashes environment context =
      .ok { claimedUnitOfWork context with completedJob := some .waiting } := by
  have pass : cancellingPass hashes environment context = .ok (quietPass context .waiting []) := by
    unfold cancellingPass
    rw [settles]
    rfl
  unfold dagSchedulingTransaction
  rw [materializeNextDagRun_cancelling consistent cancelling, pass]
  dsimp only
  rw [show (quietPass context .waiting []).writes = [.completeJob context.run.runId .waiting] from
    rfl, commitDagScheduling_waiting]

end

/-- **When a cancelling Run settles.** Over every cancelling Run that commands and transitions
reach, the ledger is proved and the settlement of a closed Run is accepted; but the
transaction rolls it back, so the cancellation is exact if and only if the Run is not
closed. -/
theorem cancellation_isExact_iff [DecidableEq Value] {hashes : CanonicalHashes Value}
    {state : CellDagRun} (reachable : (cellDagRuns hashes).Reachable state)
    (cancelling : state.dagRun.run.state = .cancelling) {context : DagSchedulingContext}
    (claims : ClaimsDagRun state.dagRun context) (cell : context.recipeCell = state.cell)
    (dagHashes : DagCanonicalHashes) {environment : DagSchedulingEnvironment}
    (persisted : context.recipeCell.isSome = true → environment.hasCellResults = true) :
    (CancellationIsExact dagHashes environment context ↔ ¬ RunIsClosed context) ∧
      SettlementIsAccepted dagHashes environment context ∧
      (RunIsClosed context → ∃ failure,
        dagSchedulingTransaction dagHashes environment context = .error (.adapter failure)) := by
  have invariant := cellDagRuns_invariant.reachable reachable
  obtain ⟨proves, settles⟩ := claims.cancellationCanSettle_iff invariant.reachable
  obtain ⟨answer, answerEq⟩ := proves.mpr invariant.quoted
  have consistent := claims.identityIsConsistent invariant.reachable invariant.authority
  have stopping : context.run.state = .cancelling := claims.run ▸ cancelling
  have opened : ∀ cell, context.recipeCell = some cell → CellIsOpen cell context.run := by
    intro known given
    rw [claims.run]
    exact invariant.cell (by rw [cancelling]; rfl) known (cell ▸ given)
  have accepted : SettlementIsAccepted dagHashes environment context := by
    refine ⟨⟨answer, answerEq⟩, fun _ => ⟨cancelledTransition dagHashes environment context,
      settleCancellation_accepted stopping, rfl, rfl, ?_⟩⟩
    intro known given
    exact ⟨_, cancelledTransition_projects (opened known given), rfl⟩
  have rollsBack : RunIsClosed context → ∃ failure,
      dagSchedulingTransaction dagHashes environment context = .error (.adapter failure) := by
    intro closed
    have settled : cancellationCanSettle context = .ok true := by
      rw [answerEq, (settles answer answerEq).mpr closed]
    exact settlement_rollsBack consistent stopping settled opened persisted
  have unapplied : ¬ CancellationIsApplied dagHashes environment context := by
    rintro ⟨committed, run, done, updated, cancelled⟩
    cases answer with
    | true =>
        obtain ⟨failure, rejected⟩ := rollsBack ((settles true answerEq).mp rfl)
        rw [rejected] at done
        cases done
    | false =>
        rw [cancelling_waits consistent stopping answerEq] at done
        cases done
        cases updated
  refine ⟨⟨fun exact closed => unapplied (exact.applied.mpr closed), fun unclosed => ?_⟩, accepted,
    rollsBack⟩
  exact ⟨accepted, fun applied => absurd applied unapplied, fun closed => absurd closed unclosed⟩

/-! ## Sample cancellations -/

private def sampleStopContext : RunCommandContext where
  commandIdentity := ⟨"stop-run-1", sampleHash⟩
  expectedAggregateVersion := 2
  eventIds := ["event-8", "event-9"]
  occurredAt := 3
  actorId := "actor-1"
  correlationId := "correlation-1"
  replayProof := none

private def sampleStop (run : Run) : RunTransition :=
  freshRunTransition run ⟨.cancelling, .none, some .requested, none,
    [.runStopRequested .requested, .runCancelling .requested]⟩ sampleStopContext

/-- A Run that is stopped while its only attempt is claimed. -/
def sampleOpenRun : CellDagRun :=
  ⟨{ sampleClaimedDagRun with run := (sampleStop sampleClaimedDagRun.run).run },
    some sampleRecipeCell⟩

/-- A Run that is stopped after its only attempt failed. -/
def sampleClosedRun : CellDagRun :=
  ⟨{ sampleFailedDagRun with run := (sampleStop sampleFailedDagRun.run).run },
    some sampleRecipeCell⟩

/-- What a pass over a Run with its cell claims. -/
def CellDagRun.scheduling (state : CellDagRun) : DagSchedulingContext where
  artifacts := state.dagRun.artifacts
  artifactPayloads := []
  cost := state.dagRun.ledger.cost
  plan := state.dagRun.plan
  recipeCell := state.cell
  reservations := state.dagRun.ledger.reservations
  run := state.dagRun.run
  stepRuns := state.dagRun.stepRuns

private theorem sampleClaimedRun_reachable :
    (cellDagRuns sampleHashes).Reachable ⟨sampleClaimedDagRun, some sampleRecipeCell⟩ := by
  have created : (cellDagRuns sampleHashes).Reachable ⟨sampleDagRun, some samplePendingCell⟩ := by
    refine .initial ⟨sampleDagRun_created, rfl, ?_⟩
    rintro cell ⟨⟩
    exact ⟨⟨by decide, rfl, rfl, .inl rfl⟩, rfl⟩
  have running : (cellDagRuns sampleHashes).Reachable
      ⟨sampleRunningDagRun, some sampleRecipeCell⟩ :=
    created.step (.commanded _ _ sampleRunningDagRun_moved
      (.claimed samplePendingCell ⟨sampleRecipeCell.current, false⟩ rfl rfl))
  have ready : (cellDagRuns sampleHashes).Reachable ⟨sampleReadyDagRun, some sampleRecipeCell⟩ :=
    running.step (.commanded _ _ sampleReadyDagRun_moved (.kept _))
  exact ready.step (.commanded _ _ sampleClaimedDagRun_moved (.kept _))

private theorem sampleOpenRun_reachable : (cellDagRuns sampleHashes).Reachable sampleOpenRun :=
  sampleClaimedRun_reachable.step (.commanded _ _ (@DagRunStep.ran sampleClaimedDagRun
    (.requestStop .requested) sampleStopContext (sampleStop sampleClaimedDagRun.run) rfl) (.kept _))

private theorem sampleClosedRun_reachable :
    (cellDagRuns sampleHashes).Reachable sampleClosedRun := by
  have failed : (cellDagRuns sampleHashes).Reachable ⟨sampleFailedDagRun, some sampleRecipeCell⟩ :=
    sampleClaimedRun_reachable.step (.commanded _ _ sampleFailedDagRun_moved (.kept _))
  exact failed.step (.commanded _ _ (@DagRunStep.ran sampleFailedDagRun (.requestStop .requested)
    sampleStopContext (sampleStop sampleFailedDagRun.run) rfl) (.kept _))

private theorem sampleOpenRun_isOpen : ¬ RunIsClosed sampleOpenRun.scheduling := by
  intro closed
  exact (closed.steps sampleClaimedStep List.mem_cons_self).1 (by decide)

private theorem sampleClosedRun_isClosed : RunIsClosed sampleClosedRun.scheduling := by
  refine ⟨?_, ?_, ?_⟩ <;> decide

/-- The open Run waits, and the closed one is rolled back. -/
theorem cancellation_isExact_iff_sample :
    CancellationIsExact sampleDagHashes sampleDagEnvironment sampleOpenRun.scheduling ∧
      ∃ failure, dagSchedulingTransaction sampleDagHashes sampleDagEnvironment
        sampleClosedRun.scheduling = .error (.adapter failure) :=
  ⟨(cancellation_isExact_iff sampleOpenRun_reachable rfl ⟨rfl, rfl, rfl, rfl, rfl⟩ rfl
      sampleDagHashes fun _ => rfl).1.mpr sampleOpenRun_isOpen,
    (cancellation_isExact_iff sampleClosedRun_reachable rfl ⟨rfl, rfl, rfl, rfl, rfl⟩ rfl
      sampleDagHashes fun _ => rfl).2.2 sampleClosedRun_isClosed⟩

/-- A closed Run never settles. -/
theorem cancellation_throws_closed :
    ¬ ∀ (state : CellDagRun), (cellDagRuns sampleHashes).Reachable state →
      state.dagRun.run.state = .cancelling → ∀ context, ClaimsDagRun state.dagRun context →
        context.recipeCell = state.cell → ∀ (hashes : DagCanonicalHashes) environment,
          (context.recipeCell.isSome = true → environment.hasCellResults = true) →
            CancellationIsExact hashes environment context := by
  intro exact
  obtain ⟨committed, run, done, _⟩ := (exact _ sampleClosedRun_reachable rfl
    sampleClosedRun.scheduling ⟨rfl, rfl, rfl, rfl, rfl⟩ rfl sampleDagHashes sampleDagEnvironment
    fun _ => rfl).applied.mpr sampleClosedRun_isClosed
  have thrown : (dagSchedulingTransaction sampleDagHashes sampleDagEnvironment
      sampleClosedRun.scheduling).isOk = false := by with_unfolding_all decide
  rw [done] at thrown
  cases thrown

end Kurobara.Application
