import Kurobara.Kernel.Run.Lifecycle

/-! # Stopped Runs

A Run is stopped once it is terminal, or once its stop is requested and only what is
already in flight can still conclude it. No command takes a Run back from there.
-/

namespace Kurobara.Kernel

/-- A Run in this state does not move. -/
def runIsTerminal : RunState → Bool
  | .completed | .failed | .cancelled => true
  | _ => false

/-- The Run ended, or its stop is requested and it no longer runs. -/
def runIsStopped (run : Run) : Bool :=
  runIsTerminal run.state ||
    ((run.state == .cancelling || run.state == .ambiguous) && run.pendingStopReason.isSome)

private theorem runIsStopped_iff {run : Run} : runIsStopped run = true ↔
    runIsTerminal run.state = true ∨
      (run.state = .cancelling ∨ run.state = .ambiguous) ∧ run.pendingStopReason.isSome := by
  simp [runIsStopped]

/-- A terminal Run plans no command. -/
theorem planRunTransition_of_terminal {run : Run} {command : RunCommand}
    {planned : RunTransitionPlan} (terminal : runIsTerminal run.state = true) :
    planRunTransition run command ≠ .ok planned := by
  intro accepted
  cases command <;> cases state : run.state <;>
    simp_all [planRunTransition, runIsTerminal, claimRun, openInputRequest, consumeSignal,
      requestStop, settleCancellation, completeRun, failRun, markEffectAmbiguous, reconcileRun,
      fromRunState, invalidRunTransition, runFailure]

private theorem resolveAmbiguity_terminal {run : Run} {outcome : AmbiguityRunOutcome}
    {proofId : String}
    {resultCompleteness : ResultCompleteness} {manifest : Option ResultManifest}
    {planned : RunTransitionPlan}
    (accepted : resolveAmbiguity run outcome proofId resultCompleteness manifest = .ok planned) :
    runIsTerminal planned.state = true := by
  unfold resolveAmbiguity at accepted
  split at accepted
  · cases accepted
  · cases outcome with
    | completed | failed =>
        simp only [Except.map] at accepted
        split at accepted
        · cases accepted
        · cases accepted
          rfl
    | cancelled =>
        cases accepted
        rfl

/-- Requesting a stop that is admitted stops the Run. -/
theorem requestStop_stops {run : Run} {reason : StopReason} {planned : RunTransitionPlan}
    {context : RunCommandContext} (accepted : requestStop run reason = .ok planned) :
    runIsStopped (freshRunTransition run planned context).run = true := by
  unfold requestStop at accepted
  cases state : run.state <;> rw [state] at accepted <;>
    first | cases accepted; rfl | cases accepted

/-- No planned command takes a stopped Run back. -/
theorem planRunTransition_stopped {run : Run} {command : RunCommand}
    {planned : RunTransitionPlan} {context : RunCommandContext} (stopped : runIsStopped run = true)
    (accepted : planRunTransition run command = .ok planned) :
    runIsStopped (freshRunTransition run planned context).run = true := by
  rcases runIsStopped_iff.mp stopped with terminal | ⟨waiting, reason⟩
  · exact absurd accepted (planRunTransition_of_terminal terminal)
  · rw [runIsStopped_iff]
    cases command with
    | requestStop _ => exact runIsStopped_iff.mp (requestStop_stops accepted)
    | settleCancellation =>
        rcases waiting with state | state
        · simp only [planRunTransition, settleCancellation, fromRunState, state] at accepted
          cases accepted
          exact .inl rfl
        · simp [planRunTransition, settleCancellation, fromRunState, state,
            invalidRunTransition, runFailure] at accepted
    | markEffectAmbiguous operationKey =>
        rcases waiting with state | state
        · simp only [planRunTransition, markEffectAmbiguous, state] at accepted
          split at accepted
          · cases accepted
          · split at accepted
            · cases accepted
            · cases accepted
              exact .inr ⟨.inr rfl, reason⟩
        · simp [planRunTransition, markEffectAmbiguous, state, invalidRunTransition,
            runFailure] at accepted
    | resolveAmbiguity outcome proofId resultCompleteness manifest =>
        rcases waiting with state | state
        · simp [planRunTransition, reconcileRun, fromRunState, state, invalidRunTransition,
            runFailure] at accepted
        · simp only [planRunTransition, reconcileRun, fromRunState, state, beq_self_eq_true,
            ↓reduceIte] at accepted
          exact .inl (resolveAmbiguity_terminal accepted)
    | claimRun | openInputRequest _ | consumeSignal _ | completeRun _ | failRun _ =>
        rcases waiting with state | state <;>
          simp [planRunTransition, claimRun, openInputRequest, consumeSignal, completeRun, failRun,
            fromRunState, state, invalidRunTransition, runFailure] at accepted

/-- No accepted command takes a stopped Run back. -/
theorem applyRunCommand_stopped {run : Run} {command : RunCommand} {context : RunCommandContext}
    {transition : RunTransition} (stopped : runIsStopped run = true)
    (accepted : applyRunCommand run command context = .ok transition) :
    runIsStopped transition.run = true := by
  rcases applyRunCommand_ok accepted with ⟨rfl, _⟩ | ⟨_, _, planned, plannedEq, _, rfl⟩
  · exact stopped
  · exact planRunTransition_stopped stopped plannedEq

/-- A fresh stop request that is accepted stops the Run. -/
theorem applyRunCommand_requestStop {run : Run} {reason : StopReason} {context : RunCommandContext}
    {transition : RunTransition} (fresh : context.replayProof = none)
    (accepted : applyRunCommand run (.requestStop reason) context = .ok transition) :
    runIsStopped transition.run = true := by
  rcases applyRunCommand_ok accepted with ⟨_, proof, given, _⟩ | ⟨_, _, planned, plannedEq, _, rfl⟩
  · rw [fresh] at given
    cases given
  · exact requestStop_stops plannedEq

/-- An accepted command keeps the identity of its Run. -/
theorem applyRunCommand_runId {run : Run} {command : RunCommand} {context : RunCommandContext}
    {transition : RunTransition} (accepted : applyRunCommand run command context = .ok transition) :
    transition.run.runId = run.runId := by
  rcases applyRunCommand_ok accepted with ⟨rfl, _⟩ | ⟨_, _, planned, _, _, rfl⟩ <;> rfl

end Kurobara.Kernel
