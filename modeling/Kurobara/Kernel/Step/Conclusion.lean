import Kurobara.Kernel.Run.Convergence
import Kurobara.Kernel.Step.Invariant

/-! # Conclusion of an attempt

What a planned command does to the terms that an attempt was claimed under: a claim sets
them, no later command changes them, and only a command that carries a matching receipt
concludes the attempt. The state of a step that is not active tells how its last attempt
ended.
-/

namespace Kurobara.Kernel

/-- The receipt that a command carries. -/
def StepCommand.settlement : StepCommand → Option AttemptSettlementProof
  | .recordAttemptSucceeded _ _ settlement | .recordAttemptFailure _ _ _ settlement
  | .resolveAttemptAmbiguity _ _ _ _ settlement _ => some settlement
  | .recordAttemptNotStarted _ _ _ settlement | .cancelAttemptBeforeEffect _ settlement =>
      some (.released settlement)
  | .claimStepAttempt _ | .rejectStepRouting | .authorizeRetry .. | .markAttemptAmbiguous _
  | .startAttemptEffect _ => none

/-- The output that a command records. -/
def StepCommand.output : StepCommand → Option ValidatedOutputRef
  | .recordAttemptSucceeded _ output _ => output
  | .resolveAttemptAmbiguity _ .succeeded _ _ _ output => output
  | _ => none

/-- An attempt under the terms that another was claimed under. -/
structure SameTerms (before after : Attempt) : Prop where
  identity : after.attemptId = before.attemptId
  operationKey : after.operationKey = before.operationKey
  reservation : after.costReservationId = before.costReservationId
  unit : after.reservationUnit = before.reservationUnit
  amount : after.reservedAmount = before.reservedAmount
  owner : after.stepRunId = before.stepRunId

theorem SameTerms.refl (attempt : Attempt) : SameTerms attempt attempt :=
  ⟨rfl, rfl, rfl, rfl, rfl, rfl⟩

def attemptFailed : AttemptState → Bool
  | .failedRetryable | .failedTerminal => true
  | _ => false

/-- How an attempt ends, and its step with it. -/
inductive AttemptEnd (command : StepCommand) (before after : Attempt) : StepRunState → Prop where
  | succeeded (state : after.state = .succeeded)
      (output : after.output = command.output.or before.output) :
      AttemptEnd command before after .succeeded
  | failed (state : StepRunState) (ended : attemptFailed after.state = true)
      (ends : state = .ready ∨ state = .failed) (output : after.output = before.output) :
      AttemptEnd command before after state
  | cancelled (state : after.state = .cancelledBeforeEffect)
      (output : after.output = before.output) :
      AttemptEnd command before after .cancelled

/-- What a planned command does to a step, with the terms of its attempts. -/
inductive StepDelta (stepRun : StepRun) (occurredAt : Instant) :
    StepCommand → StepTransitionPlan → Prop where
  | claimed (preparation : AttemptPreparation) (details : List StepLifecycleEventDetail)
      (valid : preparationIsValid preparation = true)
      (fresh : ∀ known ∈ stepRun.attempts, known.attemptId ≠ preparation.attemptId) :
      StepDelta stepRun occurredAt (.claimStepAttempt preparation)
        ⟨some preparation.attemptId,
          stepRun.attempts ++ [claimedAttempt stepRun preparation occurredAt], details, .active⟩
  | continued (attempt replacement : Attempt) (details : List StepLifecycleEventDetail)
      (command : StepCommand) (state : StepRunState) (member : attempt ∈ stepRun.attempts)
      (active : stepRun.activeAttemptId = some attempt.attemptId)
      (terms : SameTerms attempt replacement) (output : replacement.output = attempt.output)
      (opened : attemptIsTerminal replacement.state = false)
      (ends : state = .active ∨ state = .ambiguous) (silent : command.settlement = none)
      (unclaimed : command.type ≠ .claimStepAttempt) (unrecorded : command.output = none) :
      StepDelta stepRun occurredAt command
        ⟨some attempt.attemptId, replaceAttempt stepRun replacement, details, state⟩
  | concluded (attempt replacement : Attempt) (details : List StepLifecycleEventDetail)
      (command : StepCommand) (proof : AttemptSettlementProof) (state : StepRunState)
      (member : attempt ∈ stepRun.attempts)
      (active : stepRun.activeAttemptId = some attempt.attemptId)
      (target : command.target = some attempt.attemptId)
      (terms : SameTerms attempt replacement) (receipt : command.settlement = some proof)
      (matched : settlementMatches attempt proof = true)
      (ended : AttemptEnd command attempt replacement state) :
      StepDelta stepRun occurredAt command
        ⟨none, replaceAttempt stepRun replacement, details, state⟩
  | parked (details : List StepLifecycleEventDetail) (command : StepCommand)
      (state : StepRunState) (inactive : stepRun.activeAttemptId = none)
      (before : stepRun.state = .ready ∨ stepRun.state = .retryable)
      (ends : state = .ready ∨ state = .failed) (silent : command.settlement = none)
      (unclaimed : command.type ≠ .claimStepAttempt) (unrecorded : command.output = none) :
      StepDelta stepRun occurredAt command ⟨none, stepRun.attempts, details, state⟩

/-- A command that found its attempt, and concludes it. -/
theorem StepDelta.ofConcluded {stepRun : StepRun} {occurredAt : Instant} {attemptId : AttemptId}
    {before : AttemptState} {opens state : StepRunState} {attempt : Attempt}
    {command : StepCommand} {proof : AttemptSettlementProof}
    {details : List StepLifecycleEventDetail}
    (found : attemptInState stepRun attemptId opens before = some attempt)
    (target : command.target = some attemptId) (replacement : Attempt)
    (terms : SameTerms attempt replacement) (receipt : command.settlement = some proof)
    (matched : settlementMatches attempt proof = true)
    (ended : AttemptEnd command attempt replacement state) :
    StepDelta stepRun occurredAt command
      ⟨none, replaceAttempt stepRun replacement, details, state⟩ := by
  obtain ⟨_, member, active, rfl, _⟩ := attemptInState_eq_some found
  exact .concluded attempt replacement details command proof state member active target terms
    receipt matched ended

/-- A command that found its attempt, and leaves it open. -/
theorem StepDelta.ofContinued {stepRun : StepRun} {occurredAt : Instant} {attemptId : AttemptId}
    {before : AttemptState} {opens state : StepRunState} {attempt : Attempt}
    {command : StepCommand} {details : List StepLifecycleEventDetail}
    (found : attemptInState stepRun attemptId opens before = some attempt)
    (replacement : Attempt) (terms : SameTerms attempt replacement)
    (output : replacement.output = attempt.output)
    (opened : attemptIsTerminal replacement.state = false)
    (ends : state = .active ∨ state = .ambiguous) (silent : command.settlement = none)
    (unclaimed : command.type ≠ .claimStepAttempt) (unrecorded : command.output = none) :
    StepDelta stepRun occurredAt command
      ⟨some attempt.attemptId, replaceAttempt stepRun replacement, details, state⟩ := by
  obtain ⟨_, member, active, _, _⟩ := attemptInState_eq_some found
  exact .continued attempt replacement details command state member active terms output opened ends
    silent unclaimed unrecorded

/-- The end of an attempt whose failure may be retried. -/
theorem AttemptEnd.ofRetry {command : StepCommand} {attempt replacement : Attempt}
    {retryable : Bool} (state : replacement.state = if retryable then .failedRetryable
      else .failedTerminal) (output : replacement.output = attempt.output) :
    AttemptEnd command attempt replacement (if retryable then .ready else .failed) := by
  cases retryable with
  | true => exact .failed _ (by rw [state]; rfl) (.inl rfl) output
  | false => exact .failed _ (by rw [state]; rfl) (.inr rfl) output

/-- A failed attempt is concluded under its terms. -/
private theorem StepDelta.ofFailure {stepRun : StepRun} {attemptId : AttemptId}
    {before : AttemptState} {attempt : Attempt} {command : StepCommand}
    {proof : AttemptSettlementProof} {retryable : Bool} {occurredAt : Instant}
    {planned : StepTransitionPlan}
    (fails : FailsAttempt stepRun attempt retryable occurredAt planned)
    (found : attemptInState stepRun attemptId .active before = some attempt)
    (target : command.target = some attemptId) (receipt : command.settlement = some proof)
    (matched : settlementMatches attempt proof = true) :
    StepDelta stepRun occurredAt command planned := by
  obtain ⟨details, _, rfl⟩ := fails
  exact .ofConcluded found target _ ⟨rfl, rfl, rfl, rfl, rfl, rfl⟩ receipt matched
    (.ofRetry rfl rfl)

/-- A resolved attempt is concluded under its terms. -/
private theorem resolveAttemptAmbiguity_delta {stepRun : StepRun} {attemptId : AttemptId}
    {outcome : AmbiguityOutcome} {proofId : String} {retryAuthorized : Bool}
    {settlement : AttemptSettlementProof} {output : Option ValidatedOutputRef}
    {occurredAt : Instant} {planned : StepTransitionPlan}
    (accepted : planTransition stepRun (.resolveAttemptAmbiguity attemptId outcome proofId
      retryAuthorized settlement output) occurredAt = .ok planned) :
    StepDelta stepRun occurredAt (.resolveAttemptAmbiguity attemptId outcome proofId
      retryAuthorized settlement output) planned := by
  obtain ⟨attempt, details, found, matched, _, rfl⟩ := resolveAttemptAmbiguity_ok accepted
  cases outcome with
  | succeeded =>
      exact .ofConcluded found rfl _ ⟨rfl, rfl, rfl, rfl, rfl, rfl⟩ rfl matched (.succeeded rfl rfl)
  | failedTerminal =>
      exact .ofConcluded found rfl _ ⟨rfl, rfl, rfl, rfl, rfl, rfl⟩ rfl matched
        (.failed _ rfl (.inr rfl) rfl)
  | failedRetryable =>
      exact .ofConcluded found rfl _ ⟨rfl, rfl, rfl, rfl, rfl, rfl⟩ rfl matched (.ofRetry rfl rfl)

/-- **Inversion of a planned command, with the terms of the attempts.** -/
theorem planTransition_delta {stepRun : StepRun} {command : StepCommand} {occurredAt : Instant}
    {planned : StepTransitionPlan}
    (accepted : planTransition stepRun command occurredAt = .ok planned) :
    StepDelta stepRun occurredAt command planned := by
  cases command with
  | claimStepAttempt preparation =>
      obtain ⟨_, _, valid, fresh, _, details, _, rfl⟩ := claimAttempt_ok accepted
      exact .claimed preparation details valid fresh
  | rejectStepRouting =>
      obtain ⟨ready, inactive, rfl⟩ := rejectStepRouting_ok accepted
      exact .parked _ _ _ inactive (.inl ready) (.inr rfl) rfl StepCommandType.noConfusion rfl
  | startAttemptEffect attemptId =>
      obtain ⟨attempt, found, rfl⟩ := startAttemptEffect_ok accepted
      exact .ofContinued found _ ⟨rfl, rfl, rfl, rfl, rfl, rfl⟩ rfl rfl (.inl rfl) rfl
        StepCommandType.noConfusion rfl
  | recordAttemptSucceeded attemptId output settlement =>
      obtain ⟨attempt, found, matched, rfl⟩ := settleAttempt_succeeded_ok accepted
      exact .ofConcluded found rfl _ ⟨rfl, rfl, rfl, rfl, rfl, rfl⟩ rfl matched (.succeeded rfl rfl)
  | recordAttemptFailure attemptId retryAuthorized retryable settlement =>
      obtain ⟨attempt, found, matched, fails⟩ := settleAttempt_failed_ok accepted
      exact .ofFailure fails found rfl rfl matched
  | recordAttemptNotStarted attemptId retryAuthorized retryable settlement =>
      obtain ⟨attempt, found, matched, fails⟩ := recordAttemptNotStarted_ok accepted
      exact .ofFailure fails found rfl rfl matched
  | authorizeRetry attemptId retryAuthorized =>
      obtain ⟨retryable, inactive, details, state, _, ends, rfl⟩ := authorizeRetry_ok accepted
      exact .parked details _ state inactive (.inr retryable) ends rfl StepCommandType.noConfusion
        rfl
  | markAttemptAmbiguous attemptId =>
      obtain ⟨attempt, found, rfl⟩ := markAttemptAmbiguous_ok accepted
      exact .ofContinued found _ ⟨rfl, rfl, rfl, rfl, rfl, rfl⟩ rfl rfl (.inr rfl) rfl
        StepCommandType.noConfusion rfl
  | resolveAttemptAmbiguity attemptId outcome proofId retryAuthorized settlement output =>
      exact resolveAttemptAmbiguity_delta accepted
  | cancelAttemptBeforeEffect attemptId settlement =>
      obtain ⟨attempt, found, matched, rfl⟩ := cancelAttemptBeforeEffect_ok accepted
      exact .ofConcluded found rfl _ ⟨rfl, rfl, rfl, rfl, rfl, rfl⟩ rfl matched (.cancelled rfl rfl)

/-! ## The last attempt of a step -/

/-- How the last attempt of a step ended, by the state of the step. -/
def StepShape (stepRun : StepRun) : Prop :=
  match stepRun.state with
  | .ready | .retryable | .failed =>
      ∀ last, stepRun.attempts.getLast? = some last → attemptFailed last.state = true
  | .succeeded => ∃ last, stepRun.attempts.getLast? = some last ∧ last.state = .succeeded
  | .skipped => stepRun.attempts = []
  | _ => True

theorem stepShape_of_noAttempts {stepRun : StepRun} (noAttempts : stepRun.attempts = [])
    (state : stepRun.state = .ready ∨ stepRun.state = .skipped) : StepShape stepRun := by
  unfold StepShape
  rcases state with state | state <;> simp [state, noAttempts]

/-- A planned command keeps the shape of a step. -/
theorem StepShape.planned {stepRun : StepRun} (shape : StepShape stepRun)
    (invariant : StepRunInvariant stepRun) {command : StepCommand} {planned : StepTransitionPlan}
    {occurredAt : Instant} (delta : StepDelta stepRun occurredAt command planned)
    (context : StepCommandContext) :
    StepShape (freshTransition stepRun planned context).stepRun := by
  cases delta with
  | claimed preparation details valid fresh => trivial
  | continued attempt replacement details command state member active terms output opened ends =>
      rcases ends with rfl | rfl <;> trivial
  | concluded attempt replacement details command proof state member active target terms receipt
      matched ended =>
      obtain ⟨earlier, split, _⟩ := invariant.active_last member active
      have last : (replaceAttempt stepRun replacement).getLast? = some replacement := by
        rw [replaceAttempt_last split invariant.distinct terms.identity, List.getLast?_concat]
      cases ended with
      | succeeded state output => exact ⟨replacement, last, state⟩
      | failed state ended ends output =>
          have failure : ∀ known, (replaceAttempt stepRun replacement).getLast? = some known →
              attemptFailed known.state = true := by
            intro known found
            rw [← Option.some.inj (last.symm.trans found)]
            exact ended
          rcases ends with rfl | rfl <;> exact failure
      | cancelled state output => trivial
  | parked details command state inactive before ends silent =>
      have failure : ∀ last, stepRun.attempts.getLast? = some last →
          attemptFailed last.state = true := by
        unfold StepShape at shape
        rcases before with before | before <;> simpa only [before] using shape
      rcases ends with rfl | rfl <;> exact failure

/-- A step never becomes skipped by a command. -/
theorem StepDelta.unskipped {stepRun : StepRun} {occurredAt : Instant} {command : StepCommand}
    {planned : StepTransitionPlan} (delta : StepDelta stepRun occurredAt command planned) :
    planned.state ≠ .skipped := by
  cases delta with
  | claimed => exact StepRunState.noConfusion
  | continued attempt replacement details command state member active terms output opened ends =>
      rcases ends with rfl | rfl <;> exact StepRunState.noConfusion
  | concluded attempt replacement details command proof state member active target terms receipt
      matched ended =>
      cases ended with
      | succeeded => exact StepRunState.noConfusion
      | failed state ended ends => rcases ends with rfl | rfl <;> exact StepRunState.noConfusion
      | cancelled => exact StepRunState.noConfusion
  | parked details command state inactive before ends =>
      rcases ends with rfl | rfl <;> exact StepRunState.noConfusion

theorem AttemptEnd.terminal {command : StepCommand} {attempt replacement : Attempt}
    {state : StepRunState}
    (ended : AttemptEnd command attempt replacement state) :
    attemptIsTerminal replacement.state = true := by
  cases ended with
  | succeeded state => rw [state]; rfl
  | failed state failed =>
      revert failed
      cases replacement.state <;> simp [attemptFailed, attemptIsTerminal]
  | cancelled state => rw [state]; rfl

/-- A step that takes a command blocks no other step. -/
theorem StepMove.not_blocking {stepRun : StepRun} {command : StepCommand}
    {planned : StepTransitionPlan} (move : StepMove stepRun command planned) :
    stateBlocks stepRun.state = false ∧ stepRun.state ≠ .skipped := by
  cases move with
  | claimed preparation attempt details ready => simp [ready, stateBlocks]
  | moved attempt replacement details command state member active stepState target identity number
      operationKey reservation effect move =>
      rw [stepState]
      cases attempt.state <;> simp [openStepState, stateBlocks]
  | parked details command state inactive before =>
      rcases before with before | before <;> simp [before, stateBlocks]

/-- **A terminal step is coherent.** -/
theorem StepShape.coherent {stepRun : StepRun} (shape : StepShape stepRun)
    (invariant : StepRunInvariant stepRun) (terminal : terminalStepState stepRun.state = true) :
    attemptsAreCoherent stepRun = true := by
  have closed : attemptsAreOpen stepRun = false := by
    rcases invariant.activity with ⟨inactive, _, _, closed⟩ | ⟨_, _, _, _, opened, _⟩
    · have settled : ∀ attempt ∈ stepRun.attempts,
          nonTerminalAttemptState attempt.state = false := by
        intro attempt member
        have ended := closed attempt member
        revert ended
        cases attempt.state <;> decide
      simpa [attemptsAreOpen, inactive] using settled
    · rcases opened with ⟨state, _⟩ | ⟨state, _⟩ <;> rw [state] at terminal <;> cases terminal
  unfold StepShape at shape
  rw [attemptsAreCoherent, closed]
  cases state : stepRun.state <;> rw [state] at terminal shape <;> try cases terminal
  case succeeded =>
    obtain ⟨last, found, succeeded⟩ := shape
    simp [found, succeeded]
  case failed =>
    cases found : stepRun.attempts.getLast? with
    | none => simp [List.getLast?_eq_none_iff.mp found]
    | some last =>
        have ended := shape last found
        revert ended
        cases lastState : last.state <;> simp [attemptFailed, lastState]
  case skipped => simp [shape]

end Kurobara.Kernel
