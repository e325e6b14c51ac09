import Kurobara.Application.TransitionStepAttempt

/-! # What a transition answers

The transition use case with its journal: a refused transition writes nothing, a journalled
command is answered again, and a fresh one is journalled with what it moves.
-/

namespace Kurobara.Application

open Foundation Kernel Persistence

variable {Value : Type} [DecidableEq Value] (hashes : CanonicalHashes Value)

/-- The identity under which an input is journalled. -/
def commandIdentity (input : TransitionStepAttemptInput Value) : StepCommandIdentity :=
  ⟨hashes.command (hashableCommand input), input.commandIdempotencyKey⟩

/-- The input names an attempt of the step, and the journal holds its command. -/
structure IsJournalled (rows : StepRows Value) (input : TransitionStepAttemptInput Value) :
    Prop where
  valid : validateSettlement hashes.value input.request = none
  stepRunId : input.stepRunId = rows.stepRun.stepRunId
  workspaceId : input.workspaceId = rows.stepRun.workspaceId
  attempt : input.attemptId ∈ rows.stepRun.attempts.map Attempt.attemptId
  recorded : rows.findCommand input.commandIdempotencyKey =
    some (journalProof input (commandIdentity hashes input))

/-- A transition that refuses leaves the rows as they are, one that repeats a journalled
command leaves its wake-ups, and a fresh one moves the step, the journal and the ledger. -/
inductive TransitionAnswer (rows after : StepRows Value)
    (input : TransitionStepAttemptInput Value) : TransitionStepAttemptResult → Prop where
  | refused (failure : TransitionStepAttemptFailure) (unchanged : after = rows) :
      TransitionAnswer rows after input (.error failure)
  | replayed (journalled : IsJournalled hashes rows input)
      (unchanged : after = requestWakeUps rows rows.stepRun) :
      TransitionAnswer rows after input
        (.ok ⟨effectPermission input.request.type true, true, none, rows.stepRun⟩)
  | applied (success : TransitionStepAttemptSuccess) (command : StepCommand)
      (context : StepCommandContext) (transition : StepTransition) (attempt : Attempt)
      (now : Instant) (settlement : AppliedSettlement)
      (valid : validateSettlement hashes.value input.request = none)
      (stepRunId : input.stepRunId = rows.stepRun.stepRunId)
      (workspaceId : input.workspaceId = rows.stepRun.workspaceId)
      (found : targetAttempt rows.stepRun input.attemptId = some attempt)
      (unknown : rows.findCommand input.commandIdempotencyKey = none)
      (settled : settleReservation rows.ledger input rows.stepRun attempt now =
        .ok (.ok settlement, after.ledger))
      (accepted : applyStepCommand rows.stepRun command context = .ok transition)
      (fresh : transition.replayed = false) (moved : after.stepRun = transition.stepRun)
      (journal : after.commandJournal =
        rows.commandJournal ++ [journalProof input (commandIdentity hashes input)])
      (flag : success.replayed = false) : TransitionAnswer rows after input (.ok success)

omit [DecidableEq Value] in
/-- The projection moves the rows of the generation only. -/
theorem projectParentEffect_rows (rows : StepRows Value)
    (input : TransitionStepAttemptInput Value) (attempt : Attempt) (now : Instant) :
    ∃ generation, (projectParentEffect hashes rows input attempt now).2 =
      { rows with generation := generation } := by
  unfold projectParentEffect
  split
  · exact ⟨rows.generation, rfl⟩
  · dsimp only
    split <;> exact ⟨_, rfl⟩

/-- A projection that is denied writes nothing. -/
theorem authorizeParentEffect_denied
    {routeSnapshotHash : RunPlanRouteSnapshot → ContentHash → RunId → StepRunId → ContentHash}
    {rows moved : GenerationRows} {ledger : CostLedger} {input : StepParentEffectInput}
    {code message : String}
    (denied : authorizeParentEffect routeSnapshotHash rows ledger input =
      (.denied code message, moved)) : moved = rows := by
  unfold authorizeParentEffect at denied
  repeat' split at denied
  all_goals
    first
    | exact (congrArg Prod.snd denied).symm
    | exact absurd (congrArg Prod.fst denied) StepParentEffectResult.noConfusion

private theorem markParentEffectAmbiguous_denied {rows moved : GenerationRows}
    {input : StepParentEffectInput} {code message : String}
    (denied : markParentEffectAmbiguous rows input = (.denied code message, moved)) :
    moved = rows := by
  unfold markParentEffectAmbiguous at denied
  repeat' split at denied
  all_goals
    first
    | exact (congrArg Prod.snd denied).symm
    | exact absurd (congrArg Prod.fst denied) StepParentEffectResult.noConfusion

omit [DecidableEq Value] in
private theorem projectParentEffect_denied {rows projected : StepRows Value}
    {input : TransitionStepAttemptInput Value} {attempt : Attempt} {now : Instant}
    {failure : TransitionStepAttemptFailure}
    (denied : projectParentEffect hashes rows input attempt now = (some failure, projected)) :
    projected = rows := by
  unfold projectParentEffect at denied
  split at denied
  · cases denied
  rename_i generation stored
  have kept : ∀ moved, moved = generation → { rows with generation := some moved } = rows := by
    rintro moved rfl
    rw [← stored]
  dsimp only at denied
  split at denied
  · rename_i code message answered
    refine (congrArg Prod.snd denied).symm.trans (kept _ ?_)
    cases request : input.request <;> rw [request] at answered <;> try cases answered
    case startAttemptEffect => exact authorizeParentEffect_denied (Prod.ext answered rfl)
    case markAttemptAmbiguous => exact markParentEffectAmbiguous_denied (Prod.ext answered rfl)
  · cases denied

omit [DecidableEq Value] in
/-- A request that settles is not projected. -/
theorem projectParentEffect_settling {rows : StepRows Value}
    {input : TransitionStepAttemptInput Value} {attempt : Attempt} {now : Instant}
    (settling : settlementOf input.request ≠ none) :
    projectParentEffect hashes rows input attempt now = (none, rows) := by
  unfold projectParentEffect
  split
  · rfl
  rename_i generation stored
  have kept : { rows with generation := some generation } = rows := by
    rw [← stored]
  cases request : input.request <;> rw [request] at settling <;>
    first
    | exact absurd rfl settling
    | exact congrArg (Prod.mk none) kept

omit [DecidableEq Value] in
/-- An accepted replay repeats exactly the journalled command. -/
theorem replayCommand_answer {rows : StepRows Value} {input : TransitionStepAttemptInput Value}
    {command : StepCommand} {identity : StepCommandIdentity} {proof : StepCommandReplayProof}
    {success : TransitionStepAttemptSuccess}
    (replayed : replayCommand rows input command identity proof = .ok success)
    (type : command.type = input.request.type) :
    success = ⟨effectPermission input.request.type true, true, none, rows.stepRun⟩ ∧
      (input.stepRunId = rows.stepRun.stepRunId → input.workspaceId = rows.stepRun.workspaceId →
        proof = journalProof input identity) := by
  unfold replayCommand at replayed
  split at replayed
  · cases replayed
  rename_i transition accepted
  rcases applyStepCommand_ok accepted with ⟨rfl, recorded, given, identified, sameType, sameHash⟩ |
    ⟨absent, _⟩
  · cases replayed
    cases given
    refine ⟨rfl, fun stepRunId workspaceId => ?_⟩
    simp only [replayProofIdentifies, Bool.and_eq_true, beq_iff_eq] at identified
    obtain ⟨⟨⟨sameStep, sameWorkspace⟩, sameActor⟩, sameKey⟩ := identified
    obtain ⟨actorId, commandType, ⟨commandHash, idempotencyKey⟩, proofStep, proofWorkspace⟩ := proof
    dsimp only at sameStep sameWorkspace sameActor sameKey sameType sameHash
    rw [journalProof, sameStep, sameWorkspace, sameActor, sameType, type, stepRunId, workspaceId,
      sameHash, sameKey]
  · cases absent

private theorem persistOutput_journal {rows stored : StepRows Value}
    {request : TransitionRequest Value}
    (persisted : persistOutput hashes rows request = .ok stored) :
    stored.commandJournal = rows.commandJournal := by
  unfold persistOutput at persisted
  split at persisted
  · cases persisted
    rfl
  unfold StepRows.insertArtifact at persisted
  repeat' split at persisted
  all_goals
    first
    | cases persisted; rfl
    | cases persisted

omit [DecidableEq Value] in
theorem targetAttempt_mem {stepRun : StepRun} {attemptId : AttemptId} {attempt : Attempt}
    (found : targetAttempt stepRun attemptId = some attempt) :
    attemptId ∈ stepRun.attempts.map Attempt.attemptId := by
  have named : attempt.attemptId = attemptId := by
    simpa using List.find?_some found
  exact named ▸ List.mem_map_of_mem (List.mem_of_find?_eq_some found)

private theorem settleAndPersist_answer {environment : TransitionEnvironment}
    {rows after : StepRows Value} {input : TransitionStepAttemptInput Value} {attempt : Attempt}
    {retryAuthorized : Bool} {command : StepCommand} {result : TransitionStepAttemptResult}
    {projected : StepRows Value} {now : Instant}
    (valid : validateSettlement hashes.value input.request = none)
    (stepRunId : input.stepRunId = rows.stepRun.stepRunId)
    (workspaceId : input.workspaceId = rows.stepRun.workspaceId)
    (found : targetAttempt rows.stepRun input.attemptId = some attempt)
    (unknown : rows.findCommand input.commandIdempotencyKey = none)
    (answered : projectParentEffect hashes rows input attempt now = (none, projected))
    (committed : settleAndPersist hashes environment projected input
      (commandIdentity hashes input) attempt retryAuthorized
        (freshContext environment input (commandIdentity hashes input) command) =
          .ok (result, after)) :
    TransitionAnswer hashes rows after input result := by
  obtain ⟨generation, projectedEq⟩ := projectParentEffect_rows hashes rows input attempt now
  rw [answered] at projectedEq
  dsimp only at projectedEq
  unfold settleAndPersist at committed
  split at committed
  · cases committed
  · rename_i failure ledger settled
    cases committed
    have same := (settleReservation_frame settled).2 failure rfl
    have settling : settlementOf input.request ≠ none := by
      intro silent
      simp only [settleReservation, silent] at settled
      cases settled
    rw [projectParentEffect_settling hashes settling] at answered
    refine .refused failure ?_
    rw [same]
    exact (congrArg Prod.snd answered).symm
  subst projectedEq
  rename_i settlement ledger settled
  split at committed
  · cases committed
  rename_i durableCommand built
  split at committed
  · cases committed
  rename_i transition accepted
  obtain ⟨persisted, done, rest⟩ := map_eq_ok.mp committed
  cases rest
  unfold persistTransition at done
  obtain ⟨stored, storedEq, attemptStored⟩ := bind_eq_ok.mp done
  obtain ⟨_, _, rfl⟩ := map_eq_ok.mp attemptStored
  have kept := persistOutput_ledger hashes storedEq
  have journal := persistOutput_journal hashes storedEq
  have fresh : transition.replayed = false := by
    rcases applyStepCommand_ok accepted with ⟨_, _, given, _⟩ | ⟨_, _, planned, _, _, rfl⟩
    · cases given
    · rfl
  refine .applied _ durableCommand _ transition attempt environment.now settlement valid stepRunId
    workspaceId found unknown ?_ accepted fresh rfl ?_ rfl
  · change settleReservation rows.ledger input rows.stepRun attempt environment.now =
      .ok (.ok settlement, stored.ledger)
    rw [kept]
    exact settled
  · change stored.commandJournal ++ _ = _
    rw [journal]

/-- **Inversion of the transition use case, with its journal.** -/
theorem transitionStepAttempt_answer {environment : TransitionEnvironment}
    {rows after : StepRows Value} {input : TransitionStepAttemptInput Value}
    {result : TransitionStepAttemptResult}
    (committed : transitionStepAttempt hashes environment rows input = .ok (result, after)) :
    TransitionAnswer hashes rows after input result := by
  unfold transitionStepAttempt executeTransition at committed
  split at committed
  · cases committed
    exact .refused _ rfl
  rename_i valid
  split at committed
  · cases committed
    exact .refused _ rfl
  rename_i inScope
  simp only [Bool.or_eq_true, not_or, bne_iff_ne, ne_eq, not_not] at inScope
  split at committed
  · cases committed
    exact .refused _ rfl
  rename_i attempt found
  dsimp only at committed
  split at committed
  · cases committed
    exact .refused _ rfl
  rename_i candidate built
  split at committed
  · rename_i proof recorded
    split at committed
    · rename_i failure refused
      cases committed
      rw [refused]
      exact .refused failure rfl
    · rename_i success replayed
      cases committed
      obtain ⟨answer, same⟩ := replayCommand_answer replayed (toCommand_some built).1
      rw [replayed, answer]
      refine .replayed ⟨valid, inScope.1, inScope.2, targetAttempt_mem found, ?_⟩ rfl
      rw [recorded, same inScope.1 inScope.2]
      rfl
  rename_i unknown
  unfold executeFreshTransition at committed
  split at committed
  · cases committed
    exact .refused _ rfl
  dsimp only at committed
  split at committed
  · cases committed
    exact .refused _ rfl
  split at committed
  · cases committed
    exact .refused _ rfl
  split at committed
  · cases committed
    exact .refused _ rfl
  split at committed
  · rename_i failure projected denied
    cases committed
    exact .refused failure (projectParentEffect_denied hashes denied)
  · rename_i projected answered
    exact settleAndPersist_answer hashes valid inScope.1 inScope.2 found unknown answered committed

end Kurobara.Application
