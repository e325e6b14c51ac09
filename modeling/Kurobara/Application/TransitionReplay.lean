import Kurobara.Application.DagRunSettlement

/-! # Redelivered transitions

A transition that was accepted once is journalled, and the journal only grows. So the same
command, issued again after any later transactions on the step, answers as a replay and
writes nothing but wake-ups; a refused transition writes nothing; and a reservation that
left the reserved state stays as it was concluded.
-/

namespace Kurobara.Application

open Foundation Kernel Persistence

variable {Value : Type}

/-! ## Transactions on a step -/

/-- What a transaction is about: a call of the transition use case, any other command on the
step, a charge of the Run's ledger, or a change of the rows around the step. -/
inductive StepRowsChange (Value : Type) where
  | transitioned (input : TransitionStepAttemptInput Value) (result : TransitionStepAttemptResult)
  | commanded (command : StepCommand)
  | charged
  | around

/-- A transaction, with the ledger before and after it. -/
structure StepRowsMove (Value : Type) where
  change : StepRowsChange Value
  before : CostLedger
  after : CostLedger

/-- The transactions that commit on the rows of a step. Every command is journalled with its
ledger movement; commands on other steps of the Run move the ledger too. -/
inductive StepRowsStep [DecidableEq Value] (hashes : CanonicalHashes Value) :
    StepRows Value → StepRowsMove Value → StepRows Value → Prop where
  | transitioned {rows : StepRows Value} (environment : TransitionEnvironment)
      (input : TransitionStepAttemptInput Value) (result : TransitionStepAttemptResult)
      (after : StepRows Value)
      (committed : transitionStepAttempt hashes environment rows input = .ok (result, after)) :
      StepRowsStep hashes rows ⟨.transitioned input result, rows.ledger, after.ledger⟩ after
  | commanded {rows : StepRows Value} (command : StepCommand) (context : StepCommandContext)
      (transition : StepTransition) (ledger : CostLedger) (proof : StepCommandReplayProof)
      (accepted : applyStepCommand rows.stepRun command context = .ok transition)
      (moved : LedgerMove rows.plan.budget rows.stepRun rows.ledger command ledger) :
      StepRowsStep hashes rows ⟨.commanded command, rows.ledger, ledger⟩
        { rows with
          stepRun := transition.stepRun
          commandJournal := rows.commandJournal ++ [proof]
          ledger := ledger }
  | charged {rows : StepRows Value} (stepRun : StepRun) (command : StepCommand)
      (ledger : CostLedger)
      (moved : LedgerMove rows.plan.budget stepRun rows.ledger command ledger) :
      StepRowsStep hashes rows ⟨.charged, rows.ledger, ledger⟩ { rows with ledger := ledger }
  | around {rows : StepRows Value} (after : StepRows Value) (stepRun : after.stepRun = rows.stepRun)
      (journal : after.commandJournal = rows.commandJournal) (ledger : after.ledger = rows.ledger) :
      StepRowsStep hashes rows ⟨.around, rows.ledger, after.ledger⟩ after

/-- Reservations are stored under distinct identifiers. -/
def ReservationsAreKeyed (ledger : CostLedger) : Prop :=
  (ledger.reservations.map CostReservation.reservationId).Nodup

/-- The rows under any order of their moves. -/
def stepRowsRuns [DecidableEq Value] (hashes : CanonicalHashes Value) :
    TransitionSystem (StepRows Value) (StepRowsMove Value) where
  initial rows := ReservationsAreKeyed rows.ledger
  step := StepRowsStep hashes

/-! ## What every later state keeps -/

/-- A step that is moved keeps its identity and its attempts, and the journal grows. -/
structure LaterRows (before after : StepRows Value) : Prop where
  stepRunId : after.stepRun.stepRunId = before.stepRun.stepRunId
  workspaceId : after.stepRun.workspaceId = before.stepRun.workspaceId
  attempts : before.stepRun.attempts.map Attempt.attemptId ⊆
    after.stepRun.attempts.map Attempt.attemptId
  journal : before.commandJournal <+: after.commandJournal

theorem LaterRows.refl (rows : StepRows Value) : LaterRows rows rows :=
  ⟨rfl, rfl, List.Subset.refl _, List.prefix_refl _⟩

theorem LaterRows.trans {first middle last : StepRows Value} (left : LaterRows first middle)
    (right : LaterRows middle last) : LaterRows first last :=
  ⟨right.stepRunId.trans left.stepRunId, right.workspaceId.trans left.workspaceId,
    List.Subset.trans left.attempts right.attempts, left.journal.trans right.journal⟩

/-- An accepted command keeps the identity of the step and the attempts that it had. -/
theorem applyStepCommand_keeps {stepRun : StepRun} {command : StepCommand}
    {context : StepCommandContext} {transition : StepTransition}
    (accepted : applyStepCommand stepRun command context = .ok transition) :
    transition.stepRun.stepRunId = stepRun.stepRunId ∧
      transition.stepRun.workspaceId = stepRun.workspaceId ∧
      stepRun.attempts.map Attempt.attemptId ⊆
        transition.stepRun.attempts.map Attempt.attemptId := by
  rcases applyStepCommand_ok accepted with ⟨rfl, _⟩ | ⟨_, _, planned, plannedEq, _, rfl⟩
  · exact ⟨rfl, rfl, List.Subset.refl _⟩
  refine ⟨rfl, rfl, ?_⟩
  change _ ⊆ planned.attempts.map Attempt.attemptId
  cases planTransition_delta plannedEq with
  | claimed =>
      rw [List.map_append]
      exact List.subset_append_left _ _
  | continued =>
      rw [replaceAttempt_attemptIds]
      exact List.Subset.refl _
  | concluded =>
      rw [replaceAttempt_attemptIds]
      exact List.Subset.refl _
  | parked => exact List.Subset.refl _

/-- The ledger movements keep what was concluded, under distinct identifiers. -/
structure LaterLedger (before after : CostLedger) : Prop where
  keyed : ReservationsAreKeyed after
  concluded : ∀ known ∈ before.reservations, known.state ≠ .reserved → known ∈ after.reservations

theorem LaterLedger.refl {ledger : CostLedger} (keyed : ReservationsAreKeyed ledger) :
    LaterLedger ledger ledger :=
  ⟨keyed, fun _ member _ => member⟩

private theorem LaterLedger.ofConclusion {before after : CostLedger} {concluded : CostReservation}
    (keyed : ReservationsAreKeyed before) (conclusion : CostConclusion before concluded after) :
    LaterLedger before after := by
  cases conclusion with
  | existing => exact .refl keyed
  | fresh reservation _ member reserved terms done exact moved cost =>
      have identity : concluded.reservationId = reservation.reservationId := by
        rw [terms]
      obtain ⟨earlier, later, split, replaced⟩ :=
        replaceReservation_split keyed member reserved identity
      refine ⟨?_, ?_⟩
      · unfold ReservationsAreKeyed at keyed ⊢
        rw [split] at keyed
        rw [moved, replaced]
        simpa only [List.map_append, List.map_cons, identity] using keyed
      · intro known inside settled
        rw [moved, replaced]
        rw [split] at inside
        rcases List.mem_append.mp inside with left | rest
        · exact List.mem_append_left _ left
        rcases List.mem_cons.mp rest with rfl | right
        · exact absurd reserved settled
        · exact List.mem_append_right _ (List.mem_cons_of_mem _ right)

private theorem LaterLedger.ofMove {budget : BudgetLimit} {stepRun : StepRun}
    {before after : CostLedger}
    {command : StepCommand} (keyed : ReservationsAreKeyed before)
    (move : LedgerMove budget stepRun before command after) : LaterLedger before after := by
  cases move.delta with
  | silent command unclaimed asks kept =>
      rw [kept]
      exact .refl keyed
  | granted preparation createdAt moved grant reservations cost =>
      cases grant with
      | existing existing member matched =>
          unfold ReservationsAreKeyed at keyed
          rw [← reservations] at keyed
          exact ⟨keyed, fun known inside _ => reservations ▸ inside⟩
      | created amount fresh =>
          refine ⟨?_, fun known inside _ => reservations ▸ List.mem_append_left _ inside⟩
          unfold ReservationsAreKeyed
          rw [reservations]
          change ((before.reservations ++ [_]).map CostReservation.reservationId).Nodup
          rw [List.map_append]
          refine List.nodup_append.mpr ⟨keyed, List.nodup_singleton _, ?_⟩
          intro identity listed other last same
          obtain ⟨known, inside, rfl⟩ := List.mem_map.mp listed
          exact (fresh known inside).1 (same.trans (List.mem_singleton.mp last))
  | concluded command receipt proof carries given conclusion => exact .ofConclusion keyed conclusion

section Runs

variable [DecidableEq Value] {hashes : CanonicalHashes Value}

omit [DecidableEq Value] in
theorem TransitionAnswer.later {rows after : StepRows Value}
    {input : TransitionStepAttemptInput Value} {result : TransitionStepAttemptResult}
    (answer : TransitionAnswer hashes rows after input result) : LaterRows rows after := by
  cases answer with
  | refused failure unchanged =>
      rw [unchanged]
      exact .refl rows
  | replayed journalled unchanged =>
      rw [unchanged]
      exact ⟨rfl, rfl, List.Subset.refl _, List.prefix_refl _⟩
  | applied success command context transition attempt now settlement valid stepRunId workspaceId
      found unknown settled accepted fresh moved journal flag =>
      obtain ⟨sameStep, sameWorkspace, attempts⟩ := applyStepCommand_keeps accepted
      rw [← moved] at sameStep sameWorkspace attempts
      exact ⟨sameStep, sameWorkspace, attempts, journal ▸ List.prefix_append _ _⟩

omit [DecidableEq Value] in
private theorem TransitionAnswer.laterLedger {rows after : StepRows Value}
    {input : TransitionStepAttemptInput Value} {result : TransitionStepAttemptResult}
    (answer : TransitionAnswer hashes rows after input result)
    (keyed : ReservationsAreKeyed rows.ledger) : LaterLedger rows.ledger after.ledger := by
  cases answer with
  | refused failure unchanged =>
      rw [unchanged]
      exact .refl keyed
  | replayed journalled unchanged =>
      rw [unchanged]
      exact .refl keyed
  | applied success command context transition attempt now settlement valid stepRunId workspaceId
      found unknown settled accepted fresh moved journal flag =>
      rcases settleReservation_receipt settled with ⟨_, kept⟩ | ⟨_, proof, _, receipt⟩
      · rw [kept]
        exact .refl keyed
      · cases receipt with
        | released input result concluded answered given receipt =>
            exact .ofConclusion keyed (releaseStepCost_conclusion answered given)
        | settled usage result concluded answered given receipt =>
            exact .ofConclusion keyed (settleStepCost_conclusion answered given)

/-- A step only adds to the journal and to the ledger. -/
theorem StepRowsStep.later {rows after : StepRows Value} {move : StepRowsMove Value}
    (step : StepRowsStep hashes rows move after) : LaterRows rows after := by
  cases step with
  | transitioned environment input result after committed =>
      exact (transitionStepAttempt_answer hashes committed).later
  | commanded command context transition ledger proof accepted moved =>
      obtain ⟨sameStep, sameWorkspace, attempts⟩ := applyStepCommand_keeps accepted
      exact ⟨sameStep, sameWorkspace, attempts, List.prefix_append _ _⟩
  | charged stepRun command ledger moved =>
      exact ⟨rfl, rfl, List.Subset.refl _, List.prefix_refl _⟩
  | around after stepRun journal ledger =>
      exact ⟨by rw [stepRun], by rw [stepRun], by rw [stepRun]; exact List.Subset.refl _,
        ⟨[], by rw [List.append_nil, journal]⟩⟩

private theorem StepRowsStep.laterLedger {rows after : StepRows Value} {move : StepRowsMove Value}
    (step : StepRowsStep hashes rows move after) (keyed : ReservationsAreKeyed rows.ledger) :
    LaterLedger rows.ledger after.ledger := by
  cases step with
  | transitioned environment input result after committed =>
      exact (transitionStepAttempt_answer hashes committed).laterLedger keyed
  | commanded command context transition ledger proof accepted moved => exact .ofMove keyed moved
  | charged stepRun command ledger moved => exact .ofMove keyed moved
  | around after stepRun journal ledger =>
      rw [ledger]
      exact .refl keyed

/-- Every step of a run leaves later rows. -/
theorem stepRowsRun_later {first last : StepRows Value} {moves : List (StepRowsMove Value)}
    (run : (stepRowsRuns hashes).Run first moves last) : LaterRows first last := by
  induction run with
  | nil rows => exact .refl rows
  | cons moved _ ih => exact (StepRowsStep.later moved).trans ih

private theorem stepRows_keyed : (stepRowsRuns hashes).Invariant fun rows =>
    ReservationsAreKeyed rows.ledger where
  initially _ keyed := keyed
  preserved _ _ _ keyed step := (StepRowsStep.laterLedger step keyed).keyed

/-! ## Conclusions -/

omit [DecidableEq Value] in
/-- The move takes the reservation out of the reserved state. -/
def concludes (reservationId : CostReservationId) (move : StepRowsMove Value) : Bool :=
  move.before.reservations.any (fun known =>
      known.reservationId == reservationId && known.state == .reserved) &&
    move.after.reservations.any fun known =>
      known.reservationId == reservationId && known.state != .reserved

private theorem StepRowsStep.ledgers {rows after : StepRows Value} {move : StepRowsMove Value}
    (step : StepRowsStep hashes rows move after) :
    move.before = rows.ledger ∧ move.after = after.ledger := by
  cases step <;> exact ⟨rfl, rfl⟩

/-- A reservation is concluded at most once in any run. -/
theorem stepRowsRun_concludes_once {first last : StepRows Value}
    {moves : List (StepRowsMove Value)} (keyed : ReservationsAreKeyed first.ledger)
    (run : (stepRowsRuns hashes).Run first moves last) (reservationId : CostReservationId) :
    moves.countP (concludes reservationId) ≤ 1 := by
  let spent (rows : StepRows Value) : Prop := ∃ known ∈ rows.ledger.reservations,
    known.reservationId = reservationId ∧ known.state ≠ .reserved
  refine @TransitionSystem.Run.countP_le_one _ _ _ _ stepRows_keyed (concludes reservationId) spent
    ?_ ?_ _ _ _ run keyed
  · rintro before move after keyed step ⟨known, member, identity, done⟩
    exact ⟨known, (StepRowsStep.laterLedger step keyed).concluded known member done, identity, done⟩
  · intro before move after keyed step fired
    obtain ⟨ledgerBefore, ledgerAfter⟩ := StepRowsStep.ledgers step
    rw [concludes, ledgerBefore, ledgerAfter, Bool.and_eq_true] at fired
    obtain ⟨open_, member, opened⟩ := List.any_eq_true.mp fired.1
    obtain ⟨closed, inside, done⟩ := List.any_eq_true.mp fired.2
    simp only [Bool.and_eq_true, beq_iff_eq, bne_iff_ne] at opened done
    refine ⟨?_, closed, inside, done.1, done.2⟩
    rintro ⟨known, knownMember, identity, settled⟩
    have same := List.inj_on_of_nodup_map keyed knownMember member (identity.trans opened.1.symm)
    exact settled (same ▸ opened.2)

/-- What was concluded is never changed. -/
theorem stepRowsRun_concluded_stays {first last : StepRows Value}
    {moves : List (StepRowsMove Value)} (keyed : ReservationsAreKeyed first.ledger)
    (run : (stepRowsRuns hashes).Run first moves last) {known : CostReservation}
    (member : known ∈ first.ledger.reservations) (done : known.state ≠ .reserved) :
    known ∈ last.ledger.reservations := by
  let kept (before after : StepRows Value) : Prop :=
    known ∈ before.ledger.reservations → known ∈ after.ledger.reservations
  have stays : kept first last := by
    refine stepRows_keyed.run_rel (fun _ inside => inside)
      (fun _ _ _ left right inside => right (left inside)) ?_ run keyed
    intro before move after keyed step inside
    exact (StepRowsStep.laterLedger step keyed).concluded known inside done
  exact stays member

/-! ## Replays -/

/-- Two inputs that issue the same command under the same idempotency key. -/
structure ReissuesCommand (input again : TransitionStepAttemptInput Value) : Prop where
  actorId : again.actorId = input.actorId
  attemptId : again.attemptId = input.attemptId
  commandIdempotencyKey : again.commandIdempotencyKey = input.commandIdempotencyKey
  stepRunId : again.stepRunId = input.stepRunId
  workspaceId : again.workspaceId = input.workspaceId
  request : again.request = input.request

omit [DecidableEq Value] in
private theorem IsJournalled.reissued {rows : StepRows Value}
    {input again : TransitionStepAttemptInput Value} (journalled : IsJournalled hashes rows input)
    (same : ReissuesCommand input again) : IsJournalled hashes rows again := by
  obtain ⟨actorId, attemptId, key, stepRunId, workspaceId, request⟩ := same
  have command : hashableCommand again = hashableCommand input := by
    rw [hashableCommand, hashableCommand, attemptId, stepRunId, workspaceId, request]
  refine ⟨request ▸ journalled.valid, stepRunId.trans journalled.stepRunId,
    workspaceId.trans journalled.workspaceId, attemptId ▸ journalled.attempt, ?_⟩
  rw [key, journalled.recorded, journalProof, journalProof, commandIdentity, commandIdentity,
    actorId, request, stepRunId, workspaceId, command, key]

omit [DecidableEq Value] in
/-- A journalled command stays journalled. -/
theorem IsJournalled.later {rows after : StepRows Value}
    {input : TransitionStepAttemptInput Value} (journalled : IsJournalled hashes rows input)
    (later : LaterRows rows after) : IsJournalled hashes after input := by
  refine ⟨journalled.valid, journalled.stepRunId.trans later.stepRunId.symm,
    journalled.workspaceId.trans later.workspaceId.symm, later.attempts journalled.attempt, ?_⟩
  obtain ⟨added, grown⟩ := later.journal
  have recorded := journalled.recorded
  unfold StepRows.findCommand at recorded ⊢
  rw [← grown, List.find?_append, recorded, Option.some_or]

omit [DecidableEq Value] in
/-- An accepted transition is journalled. -/
theorem TransitionAnswer.journalled {rows after : StepRows Value}
    {input : TransitionStepAttemptInput Value} {success : TransitionStepAttemptSuccess}
    (answer : TransitionAnswer hashes rows after input (.ok success)) :
    IsJournalled hashes after input := by
  have later := answer.later
  cases answer with
  | replayed journalled unchanged => exact journalled.later later
  | applied success command context transition attempt now settlement valid stepRunId workspaceId
      found unknown settled accepted fresh moved journal flag =>
      refine ⟨valid, stepRunId.trans later.stepRunId.symm, workspaceId.trans later.workspaceId.symm,
        later.attempts (targetAttempt_mem found), ?_⟩
      unfold StepRows.findCommand at unknown ⊢
      rw [journal, List.find?_append, unknown, Option.none_or, List.find?_singleton]
      exact if_pos (beq_self_eq_true _)

omit [DecidableEq Value] in
private theorem toCommand_isSome (input : TransitionStepAttemptInput Value) (attempt : Attempt)
    (retryAuthorized : Bool) : ∃ command, toCommand input attempt retryAuthorized none =
      some command := by
  unfold toCommand
  cases input.request <;> exact ⟨_, rfl⟩

/-- A journalled command answers as a replay, and writes wake-ups only. -/
theorem IsJournalled.replays {rows : StepRows Value} {input : TransitionStepAttemptInput Value}
    (journalled : IsJournalled hashes rows input) (environment : TransitionEnvironment) :
    transitionStepAttempt hashes environment rows input =
      .ok (.ok ⟨effectPermission input.request.type true, true, none, rows.stepRun⟩,
        requestWakeUps rows rows.stepRun) := by
  obtain ⟨valid, stepRunId, workspaceId, listed, recorded⟩ := journalled
  obtain ⟨known, member, identity⟩ := List.mem_map.mp listed
  have found : (targetAttempt rows.stepRun input.attemptId).isSome :=
    List.find?_isSome.mpr ⟨known, member, beq_iff_eq.mpr identity⟩
  obtain ⟨attempt, targetEq⟩ := Option.isSome_iff_exists.mp found
  obtain ⟨command, built⟩ := toCommand_isSome input attempt
    (retryCapacityIsAvailable rows.plan rows.stepRun)
  have replayed : replayCommand rows input command (commandIdentity hashes input)
      (journalProof input (commandIdentity hashes input)) =
        .ok ⟨effectPermission input.request.type true, true, none, rows.stepRun⟩ := by
    have type := (toCommand_some built).1
    simp [replayCommand, applyStepCommand, replayProofIdentifies, journalProof, stepRunId,
      workspaceId, type]
  have outside : (input.stepRunId != rows.stepRun.stepRunId ||
      input.workspaceId != rows.stepRun.workspaceId) = false := by
    simp [stepRunId, workspaceId]
  simp only [transitionStepAttempt, executeTransition, valid, outside, targetEq, built, recorded,
    Bool.false_eq_true, if_false]
  have identity : (⟨hashes.command (hashableCommand input), input.commandIdempotencyKey⟩ :
      StepCommandIdentity) = commandIdentity hashes input := rfl
  rw [identity, replayed]

/-- The two agree on everything but the wake-ups that were requested. -/
def AgreeUpToWakeUps (before after : StepRows Value) : Prop :=
  after = { before with
    dagScheduleRequests := after.dagScheduleRequests
    stepRoutingRequests := after.stepRoutingRequests }

/-- **Transition replay is effect-free.** A command that was accepted once answers, whatever
happened on the step since and however often it is issued again, as a replay of its journal
entry with the step as it is, without a permission, and changes nothing but wake-ups; every
replay and every failure leaves the rows as they were; and in every run a reservation is
concluded at most once and stays as it was concluded. -/
theorem transitionReplay_isEffectFree :
    (∀ rows environment input success after,
      transitionStepAttempt hashes environment rows input = .ok (.ok success, after) →
        ∀ moves later, (stepRowsRuns hashes).Run after moves later →
          ∀ clock again, ReissuesCommand input again →
            ∃ answered, transitionStepAttempt hashes clock later again =
                .ok (.ok ⟨effectPermission input.request.type true, true, none, later.stepRun⟩,
                  answered) ∧
              effectPermission input.request.type true ≠ .granted ∧
              AgreeUpToWakeUps later answered) ∧
    (∀ rows environment input success after,
      transitionStepAttempt hashes environment rows input = .ok (.ok success, after) →
        success.replayed = true →
          IsJournalled hashes rows input ∧ success.stepRun = rows.stepRun ∧
            AgreeUpToWakeUps rows after) ∧
    (∀ rows environment input failure after,
      transitionStepAttempt hashes environment rows input = .ok (.error failure, after) →
        after = rows) ∧
    ∀ first moves last, (stepRowsRuns hashes).initial first →
      (stepRowsRuns hashes).Run first moves last → ∀ reservationId,
        moves.countP (concludes reservationId) ≤ 1 ∧
        ∀ known ∈ first.ledger.reservations, known.reservationId = reservationId →
          known.state ≠ .reserved → known ∈ last.ledger.reservations := by
  refine ⟨?_, ?_, ?_, ?_⟩
  · intro rows environment input success after committed moves later run clock again same
    have journalled := (transitionStepAttempt_answer hashes committed).journalled
    have reissued := (journalled.later (stepRowsRun_later run)).reissued same
    refine ⟨requestWakeUps later later.stepRun, ?_, effectPermission_replayed _, rfl⟩
    rw [reissued.replays clock, same.request]
  · intro rows environment input success after committed replayed
    cases transitionStepAttempt_answer hashes committed with
    | replayed journalled unchanged =>
        refine ⟨journalled, rfl, ?_⟩
        rw [unchanged]
        rfl
    | applied success command context transition attempt now settlement valid stepRunId workspaceId
        found unknown settled accepted fresh moved journal flag =>
        rw [flag] at replayed
        cases replayed
  · intro rows environment input failure after committed
    cases transitionStepAttempt_answer hashes committed with
    | refused failure unchanged => exact unchanged
  · intro first moves last keyed run reservationId
    exact ⟨stepRowsRun_concludes_once keyed run reservationId, fun known member _ done =>
      stepRowsRun_concluded_stays keyed run member done⟩

end Runs

/-- The start of the sample attempt, issued again after its effect was settled. -/
theorem transitionReplay_isEffectFree_settled :
    ∃ answered, transitionStepAttempt sampleHashes sampleTransitionEnvironment sampleSettledRows
        sampleStartInput = .ok
        (.ok ⟨.replayOnly, true, none, sampleSettledRows.stepRun⟩, answered) ∧
      AgreeUpToWakeUps sampleSettledRows answered := by
  have started := @sampleCommit_eq sampleClaimedRows sampleStartInput (by decide)
  have settled := @sampleCommit_eq sampleStartedRows sampleUsageInput (by with_unfolding_all decide)
  have accepted : (sampleCommit sampleClaimedRows sampleStartInput).1.isOk = true := by
    decide
  have run : (stepRowsRuns sampleHashes).Run sampleStartedRows
      [⟨.transitioned sampleUsageInput _, _, _⟩] sampleSettledRows :=
    .single (.transitioned sampleTransitionEnvironment sampleUsageInput _ _ settled)
  cases answer : (sampleCommit sampleClaimedRows sampleStartInput).1 with
  | error failure =>
      rw [answer] at accepted
      cases accepted
  | ok success =>
      have committed : transitionStepAttempt sampleHashes sampleTransitionEnvironment
          sampleClaimedRows sampleStartInput = .ok (.ok success, sampleStartedRows) :=
        started.trans (congrArg Except.ok (Prod.ext answer rfl))
      obtain ⟨answered, replayed, _, agree⟩ := transitionReplay_isEffectFree.1 _ _ _ _ _ committed
        _ _ run sampleTransitionEnvironment sampleStartInput ⟨rfl, rfl, rfl, rfl, rfl, rfl⟩
      exact ⟨answered, replayed, agree⟩

end Kurobara.Application
