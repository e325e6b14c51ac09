import Kurobara.Application.DispatchRuns

/-! # The pool of Run dispatchers and reconcilers

Any number of dispatchers and reconcilers over the outbox rows, interleaved at their
operations, while time passes and Runs are created. An operation may also throw and leave
the rows alone, and the orchestration answers what it likes.
-/

namespace Kurobara.Application

open Kernel Persistence Foundation

/-! ## Operations on the rows -/

/-- The exception of an operation. -/
def RunDispatchOperation.thrown (error : RunOutboxError) :
    (operation : RunDispatchOperation) → operation.Answer
  | .claimNext _ | .markDeadLetter _ _ | .markDispatched _ | .markReconciliationRequired _
  | .markRetry _ _ _ | .markStarting _ _ | .recordStarted _ _ _ | .resetPending _
  | .claimNextForSystem _ | .confirm _ _ | .release _ _ _ _ | .reapExhaustedForSystem _ _ =>
      .error error
  | .startRun _ | .findRunByStartKey _ => none

/-- Each operation commits at once. Claims draw a fresh token, and which candidates they
and the reaper take is left open. -/
inductive RunDispatchPerforms (before : RunOutboxRows) :
    (operation : RunDispatchOperation) → operation.Answer → RunOutboxRows → Prop where
  | claimNext {input : ClaimNextOutboxInput} {claimToken messageId : String}
      {answer : Except RunOutboxError RunOutboxClaim} {after : RunOutboxRows}
      (fresh : claimToken ∉ before.claimTokens)
      (claimed : before.claimNext input claimToken messageId = (answer, after)) :
      RunDispatchPerforms before (.claimNext input) (answer.map some) after
  | noClaim {input : ClaimNextOutboxInput} :
      RunDispatchPerforms before (.claimNext input) (.ok none) before
  | markDeadLetter {input : SettleOutboxInput} {reason : String} {after : RunOutboxRows}
      (settled : before.markDeadLetter input reason = .ok after) :
      RunDispatchPerforms before (.markDeadLetter input reason) (.ok ()) after
  | markDispatched {input : SettleOutboxInput} {after : RunOutboxRows}
      (settled : before.markDispatched input = .ok after) :
      RunDispatchPerforms before (.markDispatched input) (.ok ()) after
  | markReconciliationRequired {input : SettleOutboxInput} {after : RunOutboxRows}
      (settled : before.markReconciliationRequired input = .ok after) :
      RunDispatchPerforms before (.markReconciliationRequired input) (.ok ()) after
  | markRetry {input : SettleOutboxInput} {reason : String} {retryDelayMilliseconds : ℕ}
      {after : RunOutboxRows}
      (settled : before.markRetry input reason retryDelayMilliseconds = .ok after) :
      RunDispatchPerforms before (.markRetry input reason retryDelayMilliseconds) (.ok ()) after
  | markStarting {input : SettleOutboxInput} {adapterKey : String} {after : RunOutboxRows}
      (settled : before.markStarting input adapterKey = .ok after) :
      RunDispatchPerforms before (.markStarting input adapterKey) (.ok ()) after
  | recordStarted {input : SettleOutboxInput} {adapterKey orchestrationRunId : String}
      {after : RunOutboxRows}
      (settled : before.recordStarted input adapterKey orchestrationRunId = .ok after) :
      RunDispatchPerforms before (.recordStarted input adapterKey orchestrationRunId) (.ok ()) after
  | resetPending {input : SettleOutboxInput} {after : RunOutboxRows}
      (settled : before.resetPending input = .ok after) :
      RunDispatchPerforms before (.resetPending input) (.ok ()) after
  | claimNextForSystem {input : ClaimNextOrchestrationReconciliationInput}
      {claimToken messageId : String}
      {answer : Except RunOutboxError OrchestrationReconciliationClaim} {after : RunOutboxRows}
      (fresh : claimToken ∉ before.claimTokens)
      (claimed : before.claimNextForSystem input claimToken messageId = (answer, after)) :
      RunDispatchPerforms before (.claimNextForSystem input) (answer.map some) after
  | noSystemClaim {input : ClaimNextOrchestrationReconciliationInput} :
      RunDispatchPerforms before (.claimNextForSystem input) (.ok none) before
  | confirm {input : SettleOrchestrationReconciliationInput} {orchestrationRunId : String} :
      RunDispatchPerforms before (.confirm input orchestrationRunId)
        (.ok (before.confirm input orchestrationRunId).1)
        (before.confirm input orchestrationRunId).2
  | release {input : SettleOrchestrationReconciliationInput} {maxAttempts : ℕ} {reason : String}
      {retryDelayMilliseconds : ℕ} :
      RunDispatchPerforms before (.release input maxAttempts reason retryDelayMilliseconds)
        (.ok (before.release input maxAttempts reason retryDelayMilliseconds).1)
        (before.release input maxAttempts reason retryDelayMilliseconds).2
  | reapExhaustedForSystem {adapterKey : String} {maxAttempts : ℕ} (selected : List String) :
      RunDispatchPerforms before (.reapExhaustedForSystem adapterKey maxAttempts)
        (.ok (before.reapExhaustedForSystem adapterKey maxAttempts selected).1)
        (before.reapExhaustedForSystem adapterKey maxAttempts selected).2
  | startRun {request : StartRunRequest} (answer : Option StartRunOutcome) :
      RunDispatchPerforms before (.startRun request) answer before
  | findRunByStartKey {request : StartRunRequest} (answer : Option FindRunByStartKeyOutcome) :
      RunDispatchPerforms before (.findRunByStartKey request) answer before
  | thrown (operation : RunDispatchOperation) (error : RunOutboxError) :
      RunDispatchPerforms before operation (operation.thrown error) before

/-! ## The pool -/

/-- What happens to the outbox from outside the processes: a Run is created, time passes. -/
inductive RunDispatchDisturbance where
  | created (message : RunQueuedMessage)
  | timePassed

/-- What a disturbance does to the rows. -/
inductive RunDispatchDisturbs (before : RunOutboxRows) :
    RunDispatchDisturbance → RunOutboxRows → Prop where
  | created {message : RunQueuedMessage} {after : RunOutboxRows}
      (appended : before.append message = .ok after) :
      RunDispatchDisturbs before (.created message) after
  | timePassed {later : Instant} (passed : before.clock ≤ later) :
      RunDispatchDisturbs before .timePassed { before with clock := later }

/-- The rows as the processes meet them: what their operations do and what may happen between two of
these. -/
def runDispatchEnvironment :
    PoolEnvironment runDispatchInterface RunOutboxRows RunDispatchDisturbance where
  initial rows := (∀ messageId, rows.messages messageId = none) ∧
    ∀ messageId, rows.bindings messageId = none
  perform := RunDispatchPerforms
  disturb := RunDispatchDisturbs

/-- What one pass of a dispatcher or of a reconciler answers. -/
inductive RunDispatchResult where
  | dispatcher (outcome : RunDispatchOutcome DispatchNextOutboxResult)
  | reconciler (outcome : RunDispatchOutcome ReconcileRunOrchestrationsResult)

/-- A dispatcher or a reconciler. -/
def isRunDispatchProgram (program : RunDispatchProgram RunDispatchResult) : Prop :=
  (∃ dependencies, program = dispatchNextOutbox dependencies >>= fun outcome =>
    pure (.dispatcher outcome)) ∨
  ∃ dependencies, program = reconcileRunOrchestrations dependencies >>= fun outcome =>
    pure (.reconciler outcome)

/-- A step of the pool. -/
abbrev RunDispatchLabel := PoolLabel runDispatchInterface RunDispatchDisturbance

/-- The rows and the processes at work on them. -/
abbrev RunDispatchPoolState := RunOutboxRows × List (RunDispatchProgram RunDispatchResult)

/-- Any number of dispatchers and reconcilers over one outbox; a process may stop between any two
steps. -/
def runDispatchPool : TransitionSystem RunDispatchPoolState RunDispatchLabel :=
  pooled runDispatchEnvironment isRunDispatchProgram

/-! ## Starts -/

/-- A start of the Run of this message. -/
def startsRun (messageId : String) (exchange : RunDispatchExchange) : Bool :=
  match exchange.operation with
  | .startRun request => request.startKey == messageId
  | _ => false

/-- The engine has answered that it definitely started nothing. -/
def isDefiniteRejection : Option StartRunOutcome → Bool
  | some (.definitelyRejected _ _) => true
  | _ => false

/-- A start of the Run of this message that the orchestration definitely rejected. -/
def rejectsRun (messageId : String) : RunDispatchExchange → Bool
  | ⟨.startRun request, answer⟩ => request.startKey == messageId && isDefiniteRejection answer
  | _ => false

/-- A reset of the binding of this message to pending. -/
def resetsRun (messageId : String) : RunDispatchExchange → Bool
  | ⟨.resetPending input, answer⟩ =>
      input.messageId == messageId && Except.toBool (ε := RunOutboxError) (α := Unit) answer
  | _ => false

end Kurobara.Application
