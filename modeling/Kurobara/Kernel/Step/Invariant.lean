import Kurobara.Kernel.Step.StepRun
import Kurobara.Foundation.TransitionSystem

/-! # Representation of a step run

`planTransition` does one of three things: it appends a claimed attempt, moves
the active attempt to another state, or leaves the attempts alone and moves the
step (`StepMove`). Only the last attempt of a step is ever open, and the step
names it as active exactly while it is open (`StepRunInvariant`); from this the
representation invariant of every reachable step follows.
-/

namespace Kurobara.Kernel

def attemptIsTerminal : AttemptState → Bool
  | .succeeded | .failedRetryable | .failedTerminal | .cancelledBeforeEffect => true
  | .prepared | .claimed | .inFlight | .ambiguous => false

/-! ## What a planned command does -/

/-- How a command moves the active attempt, and the step with it. -/
inductive AttemptMove : StepCommandType → AttemptState → AttemptState → StepRunState → Prop where
  | started : AttemptMove .startAttemptEffect .claimed .inFlight .active
  | becameAmbiguous : AttemptMove .markAttemptAmbiguous .inFlight .ambiguous .ambiguous
  | succeeded : AttemptMove .recordAttemptSucceeded .inFlight .succeeded .succeeded
  | failedForRetry : AttemptMove .recordAttemptFailure .inFlight .failedRetryable .ready
  | failed : AttemptMove .recordAttemptFailure .inFlight .failedTerminal .failed
  | notStartedForRetry : AttemptMove .recordAttemptNotStarted .claimed .failedRetryable .ready
  | notStarted : AttemptMove .recordAttemptNotStarted .claimed .failedTerminal .failed
  | cancelled :
      AttemptMove .cancelAttemptBeforeEffect .claimed .cancelledBeforeEffect .cancelled
  | resolvedSucceeded : AttemptMove .resolveAttemptAmbiguity .ambiguous .succeeded .succeeded
  | resolvedForRetry : AttemptMove .resolveAttemptAmbiguity .ambiguous .failedRetryable .ready
  | resolvedFailed : AttemptMove .resolveAttemptAmbiguity .ambiguous .failedTerminal .failed

/-- The step state in which an attempt of a given state is open. -/
def openStepState : AttemptState → StepRunState
  | .ambiguous => .ambiguous
  | _ => .active

/-- The attempt that a command names. -/
def StepCommand.target : StepCommand → Option AttemptId
  | .claimStepAttempt _ | .rejectStepRouting => none
  | .recordAttemptSucceeded attemptId .. | .recordAttemptFailure attemptId ..
  | .recordAttemptNotStarted attemptId .. | .authorizeRetry attemptId _
  | .markAttemptAmbiguous attemptId | .resolveAttemptAmbiguity attemptId ..
  | .cancelAttemptBeforeEffect attemptId _ | .startAttemptEffect attemptId => some attemptId

/-- Everything that a planned command can do to a step. -/
inductive StepMove (stepRun : StepRun) : StepCommand → StepTransitionPlan → Prop where
  | claimed (preparation : AttemptPreparation) (attempt : Attempt)
      (details : List StepLifecycleEventDetail)
      (ready : stepRun.state = .ready) (inactive : stepRun.activeAttemptId = none)
      (fresh : ∀ known ∈ stepRun.attempts, known.attemptId ≠ attempt.attemptId)
      (number : attempt.attemptNumber = stepRun.attempts.length + 1)
      (operationKey : ∀ first, stepRun.attempts.head? = some first →
        first.operationKey = attempt.operationKey)
      (state : attempt.state = .claimed) (identity : attempt.attemptId = preparation.attemptId)
      (reservation : attempt.costReservationId = preparation.costReservationId)
      (noEffect : attempt.effectStartedAt = none) (emits : details ≠ []) :
      StepMove stepRun (.claimStepAttempt preparation)
        ⟨some attempt.attemptId, stepRun.attempts ++ [attempt], details, .active⟩
  | moved (attempt replacement : Attempt) (details : List StepLifecycleEventDetail)
      (command : StepCommand) (state : StepRunState) (member : attempt ∈ stepRun.attempts)
      (active : stepRun.activeAttemptId = some attempt.attemptId)
      (stepState : stepRun.state = openStepState attempt.state)
      (target : command.target = some attempt.attemptId)
      (identity : replacement.attemptId = attempt.attemptId)
      (number : replacement.attemptNumber = attempt.attemptNumber)
      (operationKey : replacement.operationKey = attempt.operationKey)
      (reservation : replacement.costReservationId = attempt.costReservationId)
      (effect : replacement.effectStartedAt.isSome =
        (attempt.effectStartedAt.isSome || command.type == .startAttemptEffect))
      (move : AttemptMove command.type attempt.state replacement.state state)
      (emits : details ≠ []) :
      StepMove stepRun command
        ⟨if attemptIsTerminal replacement.state then none else some attempt.attemptId,
          replaceAttempt stepRun replacement, details, state⟩
  | parked (details : List StepLifecycleEventDetail) (command : StepCommand)
      (state : StepRunState) (inactive : stepRun.activeAttemptId = none)
      (before : stepRun.state = .ready ∨ stepRun.state = .retryable)
      (after : state = .ready ∨ state = .failed)
      (kind : command.type = .rejectStepRouting ∨ command.type = .authorizeRetry)
      (emits : details ≠ []) :
      StepMove stepRun command ⟨none, stepRun.attempts, details, state⟩

theorem attemptInState_eq_some {stepRun : StepRun} {attemptId : AttemptId}
    {stepState : StepRunState} {attemptState : AttemptState} {attempt : Attempt}
    (found : attemptInState stepRun attemptId stepState attemptState = some attempt) :
    stepRun.state = stepState ∧ attempt ∈ stepRun.attempts ∧
      stepRun.activeAttemptId = some attempt.attemptId ∧ attempt.attemptId = attemptId ∧
        attempt.state = attemptState := by
  unfold attemptInState at found
  split at found
  · cases found
  · rename_i inState
    simp only [matchingActiveAttempt, activeAttempt, Option.filter_eq_some_iff, beq_iff_eq] at found
    obtain ⟨⟨located, identity⟩, state⟩ := found
    have active := List.find?_some located
    exact ⟨by simpa using inState, List.mem_of_find?_eq_some located, by simpa using active,
      identity, state⟩

/-- A command that found its attempt in the required state moves that attempt. -/
theorem StepMove.ofFound {stepRun : StepRun} {attemptId : AttemptId} {before : AttemptState}
    {attempt : Attempt} {command : StepCommand} {opens state : StepRunState}
    {details : List StepLifecycleEventDetail}
    (found : attemptInState stepRun attemptId opens before = some attempt)
    (replacement : Attempt) (opened : opens = openStepState before)
    (target : command.target = some attemptId)
    (identity : replacement.attemptId = attempt.attemptId)
    (number : replacement.attemptNumber = attempt.attemptNumber)
    (operationKey : replacement.operationKey = attempt.operationKey)
    (reservation : replacement.costReservationId = attempt.costReservationId)
    (effect : replacement.effectStartedAt.isSome =
      (attempt.effectStartedAt.isSome || command.type == .startAttemptEffect))
    (move : AttemptMove command.type before replacement.state state) (emits : details ≠ []) :
    StepMove stepRun command
      ⟨if attemptIsTerminal replacement.state then none else some attempt.attemptId,
        replaceAttempt stepRun replacement, details, state⟩ := by
  subst opened
  obtain ⟨stepState, member, active, rfl, rfl⟩ := attemptInState_eq_some found
  exact .moved attempt replacement details command state member active stepState target identity
    number operationKey reservation effect move emits

/-! ### What an accepted branch establishes -/

section Branches

variable {stepRun : StepRun} {command : StepCommand} {attemptId : AttemptId} {occurredAt : Instant}
  {planned : StepTransitionPlan}

/-- An accepted claim is of a ready step and appends a new attempt under the key of the first. -/
theorem claimAttempt_ok {preparation : AttemptPreparation}
    (accepted : claimAttempt stepRun command preparation occurredAt = .ok planned) :
    stepRun.state = .ready ∧ stepRun.activeAttemptId = none ∧
      preparationIsValid preparation = true ∧
      (∀ known ∈ stepRun.attempts, known.attemptId ≠ preparation.attemptId) ∧
      (∀ first, stepRun.attempts.head? = some first →
        first.operationKey = preparation.operationKey) ∧
      ∃ details, details ≠ [] ∧
        planned = ⟨some preparation.attemptId,
          stepRun.attempts ++ [claimedAttempt stepRun preparation occurredAt], details,
            .active⟩ := by
  simp only [claimAttempt] at accepted
  split at accepted
  · cases accepted
  rename_i available
  split at accepted
  · cases accepted
  rename_i valid
  split at accepted
  · cases accepted
  split at accepted
  · cases accepted
  rename_i fresh
  split at accepted
  · cases accepted
  rename_i sameKey
  cases accepted
  simp only [Bool.or_eq_true, not_or, bne_iff_ne, ne_eq, not_not, Bool.not_eq_true,
    Option.isSome_eq_false_iff, Option.isNone_iff_eq_none] at available
  refine ⟨available.1, available.2, by simpa using valid, ?_, ?_, _, List.cons_ne_nil _ _, rfl⟩
  · intro known member same
    exact fresh (List.any_eq_true.mpr ⟨known, member, beq_iff_eq.mpr same⟩)
  · intro first head
    rw [head] at sameKey
    simpa using sameKey

/-- An accepted rejection fails a ready step. -/
theorem rejectStepRouting_ok (accepted : rejectStepRouting stepRun command = .ok planned) :
    stepRun.state = .ready ∧ stepRun.activeAttemptId = none ∧
      planned = ⟨none, stepRun.attempts, [.stepRoutingRejected], .failed⟩ := by
  simp only [rejectStepRouting] at accepted
  split at accepted
  · cases accepted
  rename_i available
  cases accepted
  simp only [Bool.or_eq_true, not_or, bne_iff_ne, ne_eq, not_not, Bool.not_eq_true,
    Option.isSome_eq_false_iff, Option.isNone_iff_eq_none] at available
  exact ⟨available.1, available.2, rfl⟩

/-- An accepted start puts the claimed attempt in flight. -/
theorem startAttemptEffect_ok
    (accepted : startAttemptEffect stepRun command attemptId occurredAt = .ok planned) :
    ∃ attempt, attemptInState stepRun attemptId .active .claimed = some attempt ∧
      planned = ⟨some attempt.attemptId,
        replaceAttempt stepRun
          { attempt with effectStartedAt := some occurredAt, state := .inFlight },
        [.attemptEffectStarted attempt.attemptId], .active⟩ := by
  simp only [startAttemptEffect] at accepted
  split at accepted
  · cases accepted
  rename_i attempt found
  cases accepted
  exact ⟨attempt, found, rfl⟩

/-- An accepted success concludes the attempt in flight, with its receipt. -/
theorem settleAttempt_succeeded_ok {settlement : AttemptSettlementProof}
    {output : Option ValidatedOutputRef}
    (accepted : settleAttempt stepRun command attemptId settlement (.succeeded output) occurredAt =
      .ok planned) :
    ∃ attempt, attemptInState stepRun attemptId .active .inFlight = some attempt ∧
      settlementMatches attempt settlement = true ∧
      planned = ⟨none,
        replaceAttempt stepRun
          { attempt with
            finishedAt := some occurredAt
            output := output.or attempt.output
            state := .succeeded },
        [.attemptSucceeded attempt.attemptId output], .succeeded⟩ := by
  simp only [settleAttempt] at accepted
  split at accepted
  · cases accepted
  rename_i attempt found
  split at accepted
  · cases accepted
  rename_i admitted
  cases accepted
  rw [Bool.or_eq_true, not_or] at admitted
  exact ⟨attempt, found, by simpa using admitted.1, rfl⟩

/-- The plan of an attempt that failed, or did not start: only an authorized retry that the outcome
asks for makes the step ready again. -/
def FailsAttempt (stepRun : StepRun) (attempt : Attempt) (retryable : Bool) (occurredAt : Instant)
    (planned : StepTransitionPlan) : Prop :=
  ∃ details, details ≠ [] ∧
    planned = ⟨none,
      replaceAttempt stepRun
        { attempt with
          finishedAt := some occurredAt
          state := if retryable then .failedRetryable else .failedTerminal },
      details, if retryable then .ready else .failed⟩

/-- An accepted failure concludes the attempt in flight, with its receipt. -/
theorem settleAttempt_failed_ok {settlement : AttemptSettlementProof}
    {retryAuthorized retryable : Bool}
    (accepted : settleAttempt stepRun command attemptId settlement
      (.failed retryAuthorized retryable) occurredAt = .ok planned) :
    ∃ attempt, attemptInState stepRun attemptId .active .inFlight = some attempt ∧
      settlementMatches attempt settlement = true ∧
      FailsAttempt stepRun attempt (retryable && retryAuthorized) occurredAt planned := by
  simp only [settleAttempt] at accepted
  split at accepted
  · cases accepted
  rename_i attempt found
  split at accepted
  · cases accepted
  rename_i admitted
  split at accepted
  · cases accepted
  cases accepted
  rw [Bool.or_eq_true, not_or] at admitted
  exact ⟨attempt, found, by simpa using admitted.1, _, List.cons_ne_nil _ _, rfl⟩

/-- An accepted report that nothing started concludes the claimed attempt, with its release. -/
theorem recordAttemptNotStarted_ok {settlement : AttemptReleaseProof}
    {retryAuthorized retryable : Bool}
    (accepted : recordAttemptNotStarted stepRun command attemptId retryAuthorized retryable
      settlement occurredAt = .ok planned) :
    ∃ attempt, attemptInState stepRun attemptId .active .claimed = some attempt ∧
      settlementMatches attempt (.released settlement) = true ∧
      FailsAttempt stepRun attempt (retryable && retryAuthorized) occurredAt planned := by
  simp only [recordAttemptNotStarted] at accepted
  split at accepted
  · cases accepted
  rename_i attempt found
  split at accepted
  · cases accepted
  rename_i matched
  split at accepted
  · cases accepted
  cases accepted
  exact ⟨attempt, found, by simpa using matched, _, List.cons_ne_nil _ _, rfl⟩

/-- An accepted retry decision makes a retryable step ready, or fails it. -/
theorem authorizeRetry_ok {retryAuthorized : Bool}
    (accepted : authorizeRetry stepRun command attemptId retryAuthorized = .ok planned) :
    stepRun.state = .retryable ∧ stepRun.activeAttemptId = none ∧
      ∃ details state, details ≠ [] ∧ (state = .ready ∨ state = .failed) ∧
        planned = ⟨none, stepRun.attempts, details, state⟩ := by
  simp only [authorizeRetry] at accepted
  split at accepted
  · cases accepted
  rename_i available
  simp only [Bool.or_eq_true, not_or, bne_iff_ne, ne_eq, not_not, Bool.not_eq_true,
    Option.isSome_eq_false_iff, Option.isNone_iff_eq_none] at available
  obtain ⟨⟨retryable, inactive⟩, _⟩ := available
  refine ⟨retryable, inactive, ?_⟩
  split at accepted
  · cases accepted
    exact ⟨_, _, List.cons_ne_nil _ _, .inl rfl, rfl⟩
  · cases accepted
    exact ⟨_, _, List.cons_ne_nil _ _, .inr rfl, rfl⟩

/-- An accepted ambiguity keeps the attempt in flight open. -/
theorem markAttemptAmbiguous_ok
    (accepted : markAttemptAmbiguous stepRun command attemptId occurredAt = .ok planned) :
    ∃ attempt, attemptInState stepRun attemptId .active .inFlight = some attempt ∧
      planned = ⟨some attempt.attemptId,
        replaceAttempt stepRun
          { attempt with ambiguityObservedAt := some occurredAt, state := .ambiguous },
        [.attemptBecameAmbiguous attempt.attemptId attempt.operationKey], .ambiguous⟩ := by
  simp only [markAttemptAmbiguous] at accepted
  split at accepted
  · cases accepted
  rename_i attempt found
  cases accepted
  exact ⟨attempt, found, rfl⟩

/-- An accepted resolution concludes the ambiguous attempt by its outcome, with its receipt. -/
theorem resolveAttemptAmbiguity_ok {outcome : AmbiguityOutcome} {proofId : String}
    {retryAuthorized : Bool} {settlement : AttemptSettlementProof}
    {output : Option ValidatedOutputRef}
    (accepted : resolveAttemptAmbiguity stepRun command attemptId outcome proofId retryAuthorized
      settlement output occurredAt = .ok planned) :
    ∃ attempt details, attemptInState stepRun attemptId .ambiguous .ambiguous = some attempt ∧
      settlementMatches attempt settlement = true ∧ details ≠ [] ∧
      planned = ⟨none,
        replaceAttempt stepRun
          { attempt with
            finishedAt := some occurredAt
            output := if outcome == .succeeded then output.or attempt.output else attempt.output
            state := if outcome == .succeeded then .succeeded
              else if outcome == .failedRetryable && retryAuthorized then .failedRetryable
              else .failedTerminal },
        details,
        if outcome == .succeeded then .succeeded
        else if outcome == .failedRetryable && retryAuthorized then .ready else .failed⟩ := by
  simp only [resolveAttemptAmbiguity] at accepted
  split at accepted
  · cases accepted
  rename_i attempt found
  split at accepted
  · cases accepted
  split at accepted
  · cases accepted
  rename_i admitted
  split at accepted
  · cases accepted
  cases accepted
  refine ⟨attempt, _, found, ?_, List.cons_ne_nil _ _, rfl⟩
  rw [Bool.not_eq_true, Bool.not_eq_false'] at admitted
  exact (Bool.and_eq_true_iff.mp admitted).1

/-- An accepted cancellation concludes the claimed attempt, with its release. -/
theorem cancelAttemptBeforeEffect_ok {settlement : AttemptReleaseProof}
    (accepted : cancelAttemptBeforeEffect stepRun command attemptId settlement occurredAt =
      .ok planned) :
    ∃ attempt, attemptInState stepRun attemptId .active .claimed = some attempt ∧
      settlementMatches attempt (.released settlement) = true ∧
      planned = ⟨none,
        replaceAttempt stepRun
          { attempt with finishedAt := some occurredAt, state := .cancelledBeforeEffect },
        [.attemptCancelledBeforeEffect attempt.attemptId], .cancelled⟩ := by
  simp only [cancelAttemptBeforeEffect] at accepted
  split at accepted
  · cases accepted
  rename_i attempt found
  split at accepted
  · cases accepted
  rename_i matched
  cases accepted
  exact ⟨attempt, found, by simpa using matched, rfl⟩

end Branches

/-- A failed attempt moves by the way that its command fails it. -/
private theorem StepMove.ofFailure {stepRun : StepRun} {attemptId : AttemptId}
    {before : AttemptState} {attempt : Attempt} {command : StepCommand} {retryable : Bool}
    {occurredAt : Instant} {planned : StepTransitionPlan}
    (fails : FailsAttempt stepRun attempt retryable occurredAt planned)
    (found : attemptInState stepRun attemptId .active before = some attempt)
    (opened : .active = openStepState before) (target : command.target = some attemptId)
    (effect : attempt.effectStartedAt.isSome =
      (attempt.effectStartedAt.isSome || command.type == .startAttemptEffect))
    (again : AttemptMove command.type before .failedRetryable .ready)
    (ends : AttemptMove command.type before .failedTerminal .failed) :
    StepMove stepRun command planned := by
  obtain ⟨details, emits, rfl⟩ := fails
  cases retryable with
  | true =>
      exact .ofFound found { attempt with finishedAt := some occurredAt, state := .failedRetryable }
        opened target rfl rfl rfl rfl effect again emits
  | false =>
      exact .ofFound found { attempt with finishedAt := some occurredAt, state := .failedTerminal }
        opened target rfl rfl rfl rfl effect ends emits

/-- A resolved attempt moves by its outcome. -/
private theorem resolveAttemptAmbiguity_move {stepRun : StepRun} {attemptId : AttemptId}
    {outcome : AmbiguityOutcome} {proofId : String} {retryAuthorized : Bool}
    {settlement : AttemptSettlementProof} {output : Option ValidatedOutputRef}
    {occurredAt : Instant} {planned : StepTransitionPlan}
    (accepted : planTransition stepRun (.resolveAttemptAmbiguity attemptId outcome proofId
      retryAuthorized settlement output) occurredAt = .ok planned) :
    StepMove stepRun (.resolveAttemptAmbiguity attemptId outcome proofId retryAuthorized settlement
      output) planned := by
  obtain ⟨attempt, details, found, _, emits, rfl⟩ := resolveAttemptAmbiguity_ok accepted
  cases outcome with
  | succeeded =>
      exact .ofFound found
        { attempt with
          finishedAt := some occurredAt
          output := output.or attempt.output
          state := .succeeded }
        rfl rfl rfl rfl rfl rfl (by simp [StepCommand.type]) .resolvedSucceeded emits
  | failedTerminal =>
      exact .ofFound found { attempt with finishedAt := some occurredAt, state := .failedTerminal }
        rfl rfl rfl rfl rfl rfl (by simp [StepCommand.type]) .resolvedFailed emits
  | failedRetryable =>
      cases retryAuthorized with
      | true =>
          exact .ofFound found
            { attempt with finishedAt := some occurredAt, state := .failedRetryable }
            rfl rfl rfl rfl rfl rfl (by simp [StepCommand.type]) .resolvedForRetry emits
      | false =>
          exact .ofFound found
            { attempt with finishedAt := some occurredAt, state := .failedTerminal }
            rfl rfl rfl rfl rfl rfl (by simp [StepCommand.type]) .resolvedFailed emits

/-- **Inversion of a planned command.** -/
theorem planTransition_move {stepRun : StepRun} {command : StepCommand} {occurredAt : Instant}
    {planned : StepTransitionPlan}
    (accepted : planTransition stepRun command occurredAt = .ok planned) :
    StepMove stepRun command planned := by
  cases command with
  | claimStepAttempt preparation =>
      obtain ⟨ready, inactive, _, fresh, sameKey, details, emits, rfl⟩ := claimAttempt_ok accepted
      exact .claimed preparation (claimedAttempt stepRun preparation occurredAt) details ready
        inactive fresh rfl sameKey rfl rfl rfl rfl emits
  | rejectStepRouting =>
      obtain ⟨ready, inactive, rfl⟩ := rejectStepRouting_ok accepted
      exact .parked _ _ _ inactive (.inl ready) (.inr rfl) (.inl rfl) (List.cons_ne_nil _ _)
  | startAttemptEffect attemptId =>
      obtain ⟨attempt, found, rfl⟩ := startAttemptEffect_ok accepted
      exact .ofFound found
        { attempt with effectStartedAt := some occurredAt, state := .inFlight }
        rfl rfl rfl rfl rfl rfl (by simp [StepCommand.type]) .started (List.cons_ne_nil _ _)
  | recordAttemptSucceeded attemptId output settlement =>
      obtain ⟨attempt, found, _, rfl⟩ := settleAttempt_succeeded_ok accepted
      exact .ofFound found
        { attempt with
          finishedAt := some occurredAt
          output := output.or attempt.output
          state := .succeeded }
        rfl rfl rfl rfl rfl rfl (by simp [StepCommand.type]) .succeeded (List.cons_ne_nil _ _)
  | recordAttemptFailure attemptId retryAuthorized retryable settlement =>
      obtain ⟨attempt, found, _, fails⟩ := settleAttempt_failed_ok accepted
      exact .ofFailure fails found rfl rfl (by simp [StepCommand.type]) .failedForRetry .failed
  | recordAttemptNotStarted attemptId retryAuthorized retryable settlement =>
      obtain ⟨attempt, found, _, fails⟩ := recordAttemptNotStarted_ok accepted
      exact .ofFailure fails found rfl rfl (by simp [StepCommand.type]) .notStartedForRetry
        .notStarted
  | authorizeRetry attemptId retryAuthorized =>
      obtain ⟨retryable, inactive, details, state, emits, ends, rfl⟩ := authorizeRetry_ok accepted
      exact .parked details _ state inactive (.inr retryable) ends (.inr rfl) emits
  | markAttemptAmbiguous attemptId =>
      obtain ⟨attempt, found, rfl⟩ := markAttemptAmbiguous_ok accepted
      exact .ofFound found
        { attempt with ambiguityObservedAt := some occurredAt, state := .ambiguous }
        rfl rfl rfl rfl rfl rfl (by simp [StepCommand.type]) .becameAmbiguous (List.cons_ne_nil _ _)
  | resolveAttemptAmbiguity attemptId outcome proofId retryAuthorized settlement output =>
      exact resolveAttemptAmbiguity_move accepted
  | cancelAttemptBeforeEffect attemptId settlement =>
      obtain ⟨attempt, found, _, rfl⟩ := cancelAttemptBeforeEffect_ok accepted
      exact .ofFound found
        { attempt with finishedAt := some occurredAt, state := .cancelledBeforeEffect }
        rfl rfl rfl rfl rfl rfl (by simp [StepCommand.type]) .cancelled (List.cons_ne_nil _ _)

/-! ## The representation invariant -/

/-- An attempt that keeps its step active or ambiguous. -/
def IsOpen (stepRun : StepRun) (attempt : Attempt) : Prop :=
  (stepRun.state = .active ∧ (attempt.state = .claimed ∨ attempt.state = .inFlight)) ∨
    (stepRun.state = .ambiguous ∧ attempt.state = .ambiguous)

/-- The last attempt is open and named as active, or every attempt is terminal and
none is named. -/
def StepActivity (stepRun : StepRun) : Prop :=
  (stepRun.activeAttemptId = none ∧ stepRun.state ≠ .active ∧ stepRun.state ≠ .ambiguous ∧
      ∀ attempt ∈ stepRun.attempts, attemptIsTerminal attempt.state = true) ∨
    ∃ earlier last, stepRun.attempts = earlier ++ [last] ∧
      stepRun.activeAttemptId = some last.attemptId ∧ IsOpen stepRun last ∧
        ∀ attempt ∈ earlier, attemptIsTerminal attempt.state = true

/-- The representation invariant of a step Run. -/
structure StepRunInvariant (stepRun : StepRun) : Prop where
  distinct : (stepRun.attempts.map Attempt.attemptId).Nodup
  numbered : ∀ index attempt, stepRun.attempts[index]? = some attempt →
    attempt.attemptNumber = index + 1
  operationKey : ∀ attempt ∈ stepRun.attempts, ∀ other ∈ stepRun.attempts,
    attempt.operationKey = other.operationKey
  activity : StepActivity stepRun

theorem IsOpen.not_terminal {stepRun : StepRun} {attempt : Attempt}
    (opened : IsOpen stepRun attempt) : attemptIsTerminal attempt.state = false := by
  rcases opened with ⟨_, state | state⟩ | ⟨_, state⟩ <;> rw [state] <;> rfl

/-- With distinct identifiers, replacing the last attempt changes only the last. -/
theorem replaceAttempt_last {stepRun : StepRun} {earlier : List Attempt}
    {last replacement : Attempt}
    (split : stepRun.attempts = earlier ++ [last])
    (distinct : (stepRun.attempts.map Attempt.attemptId).Nodup)
    (identity : replacement.attemptId = last.attemptId) :
    replaceAttempt stepRun replacement = earlier ++ [replacement] := by
  rw [split, List.map_append, List.nodup_append] at distinct
  unfold replaceAttempt
  rw [split, List.map_append]
  congr 1
  · conv_rhs => rw [← List.map_id earlier]
    apply List.map_congr_left
    intro attempt member
    have different : attempt.attemptId ≠ replacement.attemptId := by
      rw [identity]
      exact distinct.2.2 _ (List.mem_map_of_mem member) _ (by simp)
    simp [different]
  · simp [identity]

/-- The active attempt of a step is its last one. -/
theorem StepRunInvariant.active_last {stepRun : StepRun} (invariant : StepRunInvariant stepRun)
    {attempt : Attempt} (member : attempt ∈ stepRun.attempts)
    (active : stepRun.activeAttemptId = some attempt.attemptId) :
    ∃ earlier, stepRun.attempts = earlier ++ [attempt] ∧ IsOpen stepRun attempt ∧
      ∀ known ∈ earlier, attemptIsTerminal known.state = true := by
  rcases invariant.activity with ⟨inactive, _⟩ | ⟨earlier, last, split, named, opened, closed⟩
  · rw [inactive] at active
    cases active
  · have same : last.attemptId = attempt.attemptId := Option.some.inj (named.symm.trans active)
    have lastMember : last ∈ stepRun.attempts := by
      rw [split]
      exact List.mem_append_right _ (List.mem_singleton_self _)
    have equal : last = attempt :=
      List.inj_on_of_nodup_map invariant.distinct lastMember member same
    subst equal
    exact ⟨earlier, split, opened, closed⟩

/-- A materialized step has no attempt, so it has the invariant. -/
theorem stepRunInvariant_of_noAttempts {stepRun : StepRun} (noAttempts : stepRun.attempts = [])
    (inactive : stepRun.activeAttemptId = none) (notActive : stepRun.state ≠ .active)
    (notAmbiguous : stepRun.state ≠ .ambiguous) : StepRunInvariant stepRun where
  distinct := by simp [noAttempts]
  numbered := by simp [noAttempts]
  operationKey := by simp [noAttempts]
  activity := .inl ⟨inactive, notActive, notAmbiguous, by simp [noAttempts]⟩

/-- Appending a claimed attempt keeps the invariant. -/
theorem StepRunInvariant.claim {stepRun next : StepRun} (invariant : StepRunInvariant stepRun)
    {attempt : Attempt} (ready : stepRun.state = .ready)
    (fresh : ∀ known ∈ stepRun.attempts, known.attemptId ≠ attempt.attemptId)
    (number : attempt.attemptNumber = stepRun.attempts.length + 1)
    (operationKey : ∀ first, stepRun.attempts.head? = some first →
      first.operationKey = attempt.operationKey)
    (claimed : attempt.state = .claimed) (attempts : next.attempts = stepRun.attempts ++ [attempt])
    (active : next.activeAttemptId = some attempt.attemptId) (state : next.state = .active) :
    StepRunInvariant next := by
  have closed : ∀ known ∈ stepRun.attempts, attemptIsTerminal known.state = true := by
    rcases invariant.activity with ⟨_, _, _, closed⟩ | ⟨_, _, _, _, opened, _⟩
    · exact closed
    · rcases opened with ⟨state, _⟩ | ⟨state, _⟩ <;> rw [ready] at state <;> cases state
  have sameKey : ∀ known ∈ stepRun.attempts, known.operationKey = attempt.operationKey := by
    intro known member
    cases first : stepRun.attempts with
    | nil => simp [first] at member
    | cons head rest =>
        have headMember : head ∈ stepRun.attempts := by
          rw [first]
          exact List.mem_cons_self
        exact (invariant.operationKey known member head headMember).trans
          (operationKey head (by rw [first]; rfl))
  refine ⟨?_, ?_, ?_, .inr ⟨stepRun.attempts, attempt, attempts, active, .inl ⟨state, .inl claimed⟩,
    closed⟩⟩
  · rw [attempts, List.map_append, List.nodup_append]
    refine ⟨invariant.distinct, by simp, ?_⟩
    intro identity member other otherMember
    obtain ⟨known, knownMember, rfl⟩ := List.mem_map.mp member
    simp only [List.map_cons, List.map_nil, List.mem_singleton] at otherMember
    rw [otherMember]
    exact fresh known knownMember
  · intro index found located
    rw [attempts, List.getElem?_append] at located
    split at located
    · exact invariant.numbered index found located
    · rename_i beyond
      have atEnd : index = stepRun.attempts.length := by
        have := (List.getElem?_eq_some_iff.mp located).1
        simp only [List.length_cons, List.length_nil] at this
        omega
      subst atEnd
      simp only [Nat.sub_self, List.getElem?_cons_zero, Option.some.injEq] at located
      rw [← located, number]
  · intro known member other otherMember
    have keyed : ∀ candidate ∈ next.attempts, candidate.operationKey = attempt.operationKey := by
      intro candidate candidateMember
      rw [attempts, List.mem_append, List.mem_singleton] at candidateMember
      rcases candidateMember with old | rfl
      · exact sameKey candidate old
      · rfl
    rw [keyed known member, keyed other otherMember]

/-- What a move makes of the step: an open attempt keeps it active or ambiguous,
a terminal one closes it. -/
theorem AttemptMove.result {type : StepCommandType} {before after : AttemptState}
    {state : StepRunState} (move : AttemptMove type before after state) :
    (attemptIsTerminal after = true ∧ state ≠ .active ∧ state ≠ .ambiguous) ∨
      (attemptIsTerminal after = false ∧
        ((state = .active ∧ after = .inFlight) ∨ (state = .ambiguous ∧ after = .ambiguous))) := by
  cases move <;> simp [attemptIsTerminal]

/-- Moving the active attempt keeps the invariant. -/
theorem StepRunInvariant.move {stepRun next : StepRun} (invariant : StepRunInvariant stepRun)
    {attempt replacement : Attempt} {type : StepCommandType} (member : attempt ∈ stepRun.attempts)
    (active : stepRun.activeAttemptId = some attempt.attemptId)
    (identity : replacement.attemptId = attempt.attemptId)
    (number : replacement.attemptNumber = attempt.attemptNumber)
    (operationKey : replacement.operationKey = attempt.operationKey)
    (move : AttemptMove type attempt.state replacement.state next.state)
    (attempts : next.attempts = replaceAttempt stepRun replacement)
    (named : next.activeAttemptId =
      if attemptIsTerminal replacement.state then none else some attempt.attemptId) :
    StepRunInvariant next := by
  obtain ⟨earlier, split, _, closed⟩ := invariant.active_last member active
  rw [replaceAttempt_last split invariant.distinct identity] at attempts
  have distinct := invariant.distinct
  have numbered := invariant.numbered
  have keyed := invariant.operationKey
  rw [split] at distinct numbered keyed
  refine ⟨?_, ?_, ?_, ?_⟩
  · simpa only [attempts, List.map_append, List.map_cons, List.map_nil, identity] using distinct
  · intro index found located
    rw [attempts, List.getElem?_append] at located
    split at located
    · rename_i before
      exact numbered index found (by rw [List.getElem?_append_left before]; exact located)
    · rename_i beyond
      have atEnd : index = earlier.length := by
        have := (List.getElem?_eq_some_iff.mp located).1
        simp only [List.length_cons, List.length_nil] at this
        omega
      subst atEnd
      simp only [Nat.sub_self, List.getElem?_cons_zero, Option.some.injEq] at located
      rw [← located, number]
      exact numbered earlier.length attempt (by simp)
  · have sameKey : ∀ candidate ∈ next.attempts, candidate.operationKey = attempt.operationKey := by
      intro candidate candidateMember
      rw [attempts, List.mem_append, List.mem_singleton] at candidateMember
      rcases candidateMember with old | rfl
      · exact keyed candidate (List.mem_append_left _ old) attempt (by simp)
      · exact operationKey
    intro known knownMember other otherMember
    rw [sameKey known knownMember, sameKey other otherMember]
  · rcases move.result with ⟨terminal, notActive, notAmbiguous⟩ | ⟨opened, state⟩
    · refine .inl ⟨by rw [named, terminal, if_pos rfl], notActive, notAmbiguous, ?_⟩
      intro candidate candidateMember
      rw [attempts, List.mem_append, List.mem_singleton] at candidateMember
      rcases candidateMember with old | rfl
      · exact closed candidate old
      · exact terminal
    · refine .inr ⟨earlier, replacement, attempts, ?_, ?_, closed⟩
      · rw [named, opened, identity]
        rfl
      · exact state.imp (fun active => ⟨active.1, .inr active.2⟩) id

/-- Every planned command keeps the invariant. -/
theorem StepRunInvariant.planned {stepRun : StepRun} (invariant : StepRunInvariant stepRun)
    {command : StepCommand} {plan : StepTransitionPlan} (move : StepMove stepRun command plan)
    (context : StepCommandContext) :
    StepRunInvariant (freshTransition stepRun plan context).stepRun := by
  cases move with
  | claimed preparation attempt details ready inactive fresh number operationKey state =>
      exact invariant.claim ready fresh number operationKey state rfl rfl rfl
  | moved attempt replacement details command state member active stepState target identity
      number operationKey reservation effect move =>
      exact invariant.move member active identity number operationKey move rfl rfl
  | parked details command state inactive before after =>
      have closed : ∀ known ∈ stepRun.attempts, attemptIsTerminal known.state = true := by
        rcases invariant.activity with ⟨_, _, _, closed⟩ | ⟨_, _, _, active, _⟩
        · exact closed
        · rw [inactive] at active
          cases active
      refine ⟨invariant.distinct, invariant.numbered, invariant.operationKey,
        .inl ⟨rfl, ?_, ?_, closed⟩⟩ <;>
        rcases after with rfl | rfl <;> simp [freshTransition]

/-! ## Applying commands -/

/-- An accepted command is an exact replay of a durable one, or a fresh command
that its plan and its event identifiers admit. -/
theorem applyStepCommand_ok {stepRun : StepRun} {command : StepCommand}
    {context : StepCommandContext} {transition : StepTransition}
    (accepted : applyStepCommand stepRun command context = .ok transition) :
    (transition = ⟨[], true, stepRun⟩ ∧ ∃ proof, context.replayProof = some proof ∧
        replayProofIdentifies stepRun context proof = true ∧ proof.commandType = command.type ∧
          proof.identity.commandHash = context.commandIdentity.commandHash) ∨
      (context.replayProof = none ∧ context.expectedAggregateVersion = stepRun.aggregateVersion ∧
        ∃ planned, planTransition stepRun command context.occurredAt = .ok planned ∧
          context.eventIds.length = planned.eventDetails.length ∧
            transition = freshTransition stepRun planned context) := by
  unfold applyStepCommand at accepted
  split at accepted
  · rename_i proof given
    split at accepted
    · cases accepted
    rename_i identified
    split at accepted
    · cases accepted
    rename_i same
    cases accepted
    simp only [Bool.or_eq_true, not_or, bne_iff_ne, ne_eq, not_not] at same
    exact .inl ⟨rfl, proof, given, by simpa using identified, same.1, same.2⟩
  · rename_i fresh
    split at accepted
    · cases accepted
    rename_i version
    split at accepted
    · cases accepted
    rename_i planned plannedEq
    split at accepted
    · cases accepted
    rename_i count
    cases accepted
    exact .inr ⟨fresh, by simpa using version, planned, plannedEq, by simpa using count, rfl⟩

/-- The step that a delivered command leaves behind; a refused one leaves it alone. -/
def deliverStepCommand (stepRun : StepRun) (command : StepCommand) (context : StepCommandContext) :
    StepRun :=
  match applyStepCommand stepRun command context with
  | .ok transition => transition.stepRun
  | .error _ => stepRun

/-- A command as it is delivered. -/
structure StepDelivery where
  command : StepCommand
  context : StepCommandContext

/-- Steps start by materialization and move by delivered commands. -/
def stepRunSystem : Foundation.TransitionSystem StepRun StepDelivery where
  initial stepRun := (∃ input decision, scheduleStep input = .ok decision ∧
      stepRun = decision.stepRun) ∨
    ∃ input decision, skipStep input = .ok decision ∧ stepRun = decision.stepRun
  step before delivery after := after = deliverStepCommand before delivery.command delivery.context

/-- An accepted schedule is the scheduled step of its input. -/
theorem scheduleStep_ok {input : ScheduleStepInput} {decision : StepDecision}
    (accepted : scheduleStep input = .ok decision) : decision = scheduledStep input := by
  simp only [scheduleStep] at accepted
  split at accepted
  · cases accepted
  split at accepted
  · cases accepted
  split at accepted
  · cases accepted
  cases accepted
  rfl

/-- An accepted skip is the skipped step of its sorted blocking keys. -/
theorem skipStep_ok {input : SkipStepInput} {decision : StepDecision}
    (accepted : skipStep input = .ok decision) :
    decision = skippedStep input (sortedDistinct input.blockedByNodeKeys) := by
  simp only [skipStep] at accepted
  split at accepted
  · cases accepted
  split at accepted
  · cases accepted
  split at accepted
  · cases accepted
  split at accepted
  · cases accepted
  split at accepted
  · cases accepted
  cases accepted
  rfl

/-- A step is skipped for a dependency that blocks it. -/
theorem skipStep_blocked {input : SkipStepInput} {decision : StepDecision}
    (accepted : skipStep input = .ok decision) : input.blockedByNodeKeys ≠ [] := by
  simp only [skipStep] at accepted
  split at accepted
  · cases accepted
  split at accepted
  · cases accepted
  split at accepted
  · cases accepted
  rename_i required
  exact fun none => required (by rw [none]; rfl)

private theorem stepRunInvariant_initial {stepRun : StepRun}
    (start : stepRunSystem.initial stepRun) :
    StepRunInvariant stepRun := by
  rcases start with ⟨input, decision, accepted, rfl⟩ | ⟨input, decision, accepted, rfl⟩
  · rw [scheduleStep_ok accepted]
    exact stepRunInvariant_of_noAttempts rfl rfl (by simp [scheduledStep]) (by simp [scheduledStep])
  · rw [skipStep_ok accepted]
    exact stepRunInvariant_of_noAttempts rfl rfl (by simp [skippedStep]) (by simp [skippedStep])

/-- An accepted command keeps the invariant. -/
theorem StepRunInvariant.apply {stepRun : StepRun} (invariant : StepRunInvariant stepRun)
    {command : StepCommand} {context : StepCommandContext} {transition : StepTransition}
    (accepted : applyStepCommand stepRun command context = .ok transition) :
    StepRunInvariant transition.stepRun := by
  rcases applyStepCommand_ok accepted with ⟨rfl, _⟩ | ⟨_, _, planned, plannedEq, _, rfl⟩
  · exact invariant
  · exact invariant.planned (planTransition_move plannedEq) context

/-- Every reachable step Run satisfies the invariant. -/
theorem stepRunInvariant_invariant : stepRunSystem.Invariant StepRunInvariant where
  initially _ start := stepRunInvariant_initial start
  preserved before delivery after invariant moved := by
    subst moved
    unfold deliverStepCommand
    split
    · exact invariant.apply ‹_›
    · exact invariant

/-! ## The operation key over a run -/

/-- The key that the attempts of a step share. -/
def logicalOperationKey (stepRun : StepRun) : Option OperationKey :=
  stepRun.attempts.head?.map Attempt.operationKey

private theorem logicalOperationKey_planned {stepRun : StepRun} {command : StepCommand}
    {plan : StepTransitionPlan} {key : OperationKey} (move : StepMove stepRun command plan)
    (context : StepCommandContext) (keyed : logicalOperationKey stepRun = some key)
    (invariant : StepRunInvariant stepRun) :
    logicalOperationKey (freshTransition stepRun plan context).stepRun = some key := by
  obtain ⟨first, head, rfl⟩ := Option.map_eq_some_iff.mp keyed
  obtain ⟨rest, attempts⟩ := List.head?_eq_some_iff.mp head
  cases move with
  | claimed preparation attempt details ready inactive fresh number operationKey state =>
      simp [logicalOperationKey, freshTransition, attempts]
  | moved attempt replacement details command state member active stepState target identity
      number operationKey reservation effect move =>
      simp only [logicalOperationKey, freshTransition, replaceAttempt, attempts, List.map_cons,
        List.head?_cons, Option.map_some, Option.some.injEq]
      split
      · rw [operationKey]
        exact invariant.operationKey attempt member first
          (by rw [attempts]; exact List.mem_cons_self)
      · rfl
  | parked details command state inactive before after => exact keyed

private theorem logicalOperationKey_run {first last : StepRun} {deliveries : List StepDelivery}
    {key : OperationKey} (run : stepRunSystem.Run first deliveries last)
    (invariant : StepRunInvariant first) (keyed : logicalOperationKey first = some key) :
    logicalOperationKey last = some key := by
  induction run with
  | nil stepRun => exact keyed
  | @cons before middle after delivery deliveries moved _ ih =>
      refine ih (stepRunInvariant_invariant.preserved _ _ _ invariant moved) ?_
      subst moved
      unfold deliverStepCommand
      split
      · rename_i transition accepted
        rcases applyStepCommand_ok accepted with ⟨rfl, _⟩ | ⟨_, _, planned, plannedEq, _, rfl⟩
        · exact keyed
        · exact logicalOperationKey_planned (planTransition_move plannedEq) _ keyed invariant
      · exact keyed

/-! ## The representation of a reachable step -/

/-- How a step represents its attempts. -/
structure StepRunRepresentation (stepRun : StepRun) : Prop where
  active : stepRun.activeAttemptId.isSome = true ↔
    stepRun.state = .active ∨ stepRun.state = .ambiguous
  last : ∀ attemptId, stepRun.activeAttemptId = some attemptId →
    stepRun.attempts.getLast?.map Attempt.attemptId = some attemptId
  distinct : (stepRun.attempts.map Attempt.attemptId).Nodup
  numbered : ∀ index attempt, stepRun.attempts[index]? = some attempt →
    attempt.attemptNumber = index + 1
  settled : ∀ attempt ∈ stepRun.attempts.dropLast, attemptIsTerminal attempt.state = true

private theorem StepRunInvariant.representation {stepRun : StepRun}
    (invariant : StepRunInvariant stepRun) :
    StepRunRepresentation stepRun := by
  refine ⟨?_, ?_, invariant.distinct, invariant.numbered, ?_⟩ <;>
    rcases invariant.activity with ⟨inactive, notActive, notAmbiguous, closed⟩ |
      ⟨earlier, last, split, active, opened, closed⟩
  · simp [inactive, notActive, notAmbiguous]
  · have state : stepRun.state = .active ∨ stepRun.state = .ambiguous :=
      opened.imp And.left And.left
    simp [active, state]
  · simp [inactive]
  · intro attemptId named
    rw [split, List.getLast?_concat, Option.map_some]
    exact active.symm.trans named
  · exact fun attempt member => closed attempt (List.dropLast_subset _ member)
  · rw [split, List.dropLast_concat]
    exact closed

/-- What a command accepted as new does to the version and the event sequence. -/
structure FreshEffect (stepRun : StepRun) (transition : StepTransition) : Prop where
  version : transition.stepRun.aggregateVersion = stepRun.aggregateVersion + 1
  emits : transition.events ≠ []
  contiguous : transition.events.map StepLifecycleEvent.sequence =
    (List.range transition.events.length).map (stepRun.eventSequence + 1 + ·)
  lastSequence : transition.stepRun.eventSequence =
    stepRun.eventSequence + transition.events.length

private theorem freshTransition_effect {stepRun : StepRun} {command : StepCommand}
    {plan : StepTransitionPlan} (move : StepMove stepRun command plan)
    (context : StepCommandContext) :
    FreshEffect stepRun (freshTransition stepRun plan context) where
  version := rfl
  emits := by
    have emits : plan.eventDetails ≠ [] := by cases move <;> assumption
    simpa [freshTransition] using emits
  contiguous := by
    apply List.ext_getElem
    · simp [freshTransition]
    · intro index left right
      simp only [freshTransition, List.getElem_map, List.getElem_mapIdx, toEvent,
        List.getElem_range]
      omega
  lastSequence := by simp [freshTransition]

/-- **Representation invariant.** Every reachable step represents its attempts,
its operation key never changes, a fresh command advances version and event
sequence exactly, a replay and a refusal change nothing. -/
theorem reachable_stepRun_representation (stepRun : StepRun)
    (reachable : stepRunSystem.Reachable stepRun) :
    StepRunRepresentation stepRun ∧
      (∀ deliveries later, stepRunSystem.Run stepRun deliveries later →
        ∀ attempt ∈ stepRun.attempts, ∀ other ∈ later.attempts,
          other.operationKey = attempt.operationKey) ∧
      ∀ command context,
        (∀ transition, applyStepCommand stepRun command context = .ok transition →
          (transition.replayed = false → FreshEffect stepRun transition) ∧
            (transition.replayed = true →
              transition.stepRun = stepRun ∧ transition.events = [])) ∧
        (∀ failure, applyStepCommand stepRun command context = .error failure →
          deliverStepCommand stepRun command context = stepRun) := by
  have invariant := stepRunInvariant_invariant.reachable reachable
  refine ⟨invariant.representation, ?_, ?_⟩
  · intro deliveries later run attempt member other otherMember
    have laterInvariant := stepRunInvariant_invariant.run run invariant
    obtain ⟨first, head⟩ : ∃ first, stepRun.attempts.head? = some first :=
      ⟨_, List.head?_eq_some_head (List.ne_nil_of_mem member)⟩
    have keyed : logicalOperationKey stepRun = some attempt.operationKey := by
      rw [logicalOperationKey, head, Option.map_some, Option.some.injEq]
      exact invariant.operationKey first (List.mem_of_mem_head? head) attempt member
    obtain ⟨laterFirst, laterHead, sameKey⟩ :=
      Option.map_eq_some_iff.mp (logicalOperationKey_run run invariant keyed)
    exact (laterInvariant.operationKey other otherMember laterFirst
      (List.mem_of_mem_head? laterHead)).trans sameKey
  · intro command context
    refine ⟨?_, ?_⟩
    · intro transition accepted
      rcases applyStepCommand_ok accepted with ⟨rfl, _⟩ | ⟨_, _, planned, plannedEq, _, rfl⟩
      · exact ⟨Bool.noConfusion, fun _ => ⟨rfl, rfl⟩⟩
      · exact ⟨fun _ => freshTransition_effect (planTransition_move plannedEq) context,
          Bool.noConfusion⟩
    · intro failure refused
      simp [deliverStepCommand, refused]

/-! ## A sample run -/

def sampleSchedule : ScheduleStepInput where
  actorId := "actor-1"
  correlationId := "correlation-1"
  createdAt := 0
  dependsOn := []
  eventId := "event-1"
  nodeKey := "page"
  runId := "run-1"
  runState := .running
  satisfiedDependencies := []
  stepRunId := "step-1"
  workspaceId := "workspace-1"

def samplePreparation : AttemptPreparation where
  attemptId := "attempt-1"
  authorityEnvelopeId := "authority-1"
  costReservationId := "reservation-1"
  effectAdapterKey := "plugin"
  operationKey := "operation-1"
  reason := .initial
  reservedAmount := 2
  reservationUnit := "credit"
  routeKey := "route-1"
  routeSnapshotHash := sampleHash
  routingDecisionId := "decision-1"

/-- A context for a fresh command on the sample step. -/
def sampleStepContext (expectedAggregateVersion : ℕ) (idempotencyKey : IdempotencyKey)
    (eventIds : List EventId) : StepCommandContext where
  actorId := "actor-1"
  commandIdentity := ⟨sampleHash, idempotencyKey⟩
  correlationId := "correlation-1"
  eventIds := eventIds
  expectedAggregateVersion := expectedAggregateVersion
  occurredAt := 1
  replayProof := none

def sampleStep : StepRun := (scheduledStep sampleSchedule).stepRun

/-- The sample step after its first attempt was claimed. -/
def sampleClaimedStep : StepRun :=
  deliverStepCommand sampleStep (.claimStepAttempt samplePreparation)
    (sampleStepContext 1 "claim-1" ["event-2", "event-3", "event-4"])

private theorem sampleStep_reachable : stepRunSystem.Reachable sampleStep :=
  .initial (.inl ⟨sampleSchedule, scheduledStep sampleSchedule, by decide, rfl⟩)

theorem sampleClaimedStep_reachable : stepRunSystem.Reachable sampleClaimedStep :=
  have claimed : stepRunSystem.step sampleStep ⟨.claimStepAttempt samplePreparation,
      sampleStepContext 1 "claim-1" ["event-2", "event-3", "event-4"]⟩ sampleClaimedStep := rfl
  sampleStep_reachable.step claimed

theorem reachable_stepRun_representation_claimed :
    sampleClaimedStep.activeAttemptId = some "attempt-1" ∧
      StepRunRepresentation sampleClaimedStep :=
  ⟨by decide,
    (reachable_stepRun_representation sampleClaimedStep sampleClaimedStep_reachable).1⟩

end Kurobara.Kernel
