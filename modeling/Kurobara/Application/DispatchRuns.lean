import Kurobara.Foundation.Custody
import Kurobara.Persistence.RunOutboxRows

/-! # Dispatching queued Runs

`dispatchNextOutbox` starts the Run of one claimed message at the orchestration, and
`reconcileRunOrchestrations` asks the orchestration for starts without an outcome. Both
are programs over the operations of the outbox, of the reconciliation and of the
orchestration; an operation that throws ends its program, except for the orchestration's,
whose exceptions are caught.
-/

namespace Kurobara.Application

open Kernel Persistence Foundation

/-! ## Operations -/

structure StartRunRequest where
  eventId : EventId
  runId : RunId
  startKey : String
  workspaceId : WorkspaceId
  deriving DecidableEq, Repr

inductive StartRunOutcome where
  | accepted (orchestrationRunId : String)
  | alreadyStarted (orchestrationRunId : String)
  | outcomeUnknown (reason : String)
  | definitelyRejected (reason : String) (retryable : Bool)
  deriving DecidableEq, Repr

inductive FindRunByStartKeyOutcome where
  | found (orchestrationRunId : String)
  | notFound
  | outcomeUnknown (reason : String)
  deriving DecidableEq, Repr

/-- What the dispatcher and the reconciler ask the store and the orchestration for. -/
inductive RunDispatchOperation where
  | claimNext (input : ClaimNextOutboxInput)
  | markDeadLetter (input : SettleOutboxInput) (reason : String)
  | markDispatched (input : SettleOutboxInput)
  | markReconciliationRequired (input : SettleOutboxInput)
  | markRetry (input : SettleOutboxInput) (reason : String) (retryDelayMilliseconds : ℕ)
  | markStarting (input : SettleOutboxInput) (adapterKey : String)
  | recordStarted (input : SettleOutboxInput) (adapterKey orchestrationRunId : String)
  | resetPending (input : SettleOutboxInput)
  | claimNextForSystem (input : ClaimNextOrchestrationReconciliationInput)
  | confirm (input : SettleOrchestrationReconciliationInput) (orchestrationRunId : String)
  | reapExhaustedForSystem (adapterKey : String) (maxAttempts : ℕ)
  | release (input : SettleOrchestrationReconciliationInput) (maxAttempts : ℕ) (reason : String)
      (retryDelayMilliseconds : ℕ)
  | startRun (request : StartRunRequest)
  | findRunByStartKey (request : StartRunRequest)

/-- What an operation answers or throws; nothing stands for an exception of the
orchestration. -/
def RunDispatchOperation.Answer : RunDispatchOperation → Type
  | .claimNext _ => Except RunOutboxError (Option RunOutboxClaim)
  | .markDeadLetter _ _ | .markDispatched _ | .markReconciliationRequired _ | .markRetry _ _ _
  | .markStarting _ _ | .recordStarted _ _ _ | .resetPending _ => Except RunOutboxError Unit
  | .claimNextForSystem _ => Except RunOutboxError (Option OrchestrationReconciliationClaim)
  | .confirm _ _ | .release _ _ _ _ =>
      Except RunOutboxError OrchestrationReconciliationSettlement
  | .reapExhaustedForSystem _ _ => Except RunOutboxError ℕ
  | .startRun _ => Option StartRunOutcome
  | .findRunByStartKey _ => Option FindRunByStartKeyOutcome

def runDispatchInterface : Interface := ⟨RunDispatchOperation, RunDispatchOperation.Answer⟩

inductive RunDispatchException where
  | persistence (error : RunOutboxError)
  | orchestrationRunIdInvalid
  | reconciliationClaimMismatch
  deriving DecidableEq, Repr

/-- Programs over the operations of the dispatch. -/
abbrev RunDispatchProgram := Program runDispatchInterface

/-- What a dispatcher or a reconciler returns or throws. -/
abbrev RunDispatchOutcome (Result : Type) := Except RunDispatchException Result

abbrev RunDispatchExchange := Exchange runDispatchInterface

section Programs

variable {Value Result : Type}

def askRunDispatch (operation : RunDispatchOperation) :
    RunDispatchProgram operation.Answer :=
  @Program.call runDispatchInterface operation

/-- Continue with an answer, unless it is an exception. -/
def orThrow (answer : Except RunOutboxError Value)
    (next : Value → RunDispatchProgram (RunDispatchOutcome Result)) :
    RunDispatchProgram (RunDispatchOutcome Result) :=
  match answer with
  | .ok value => next value
  | .error error => .done (.error (.persistence error))

end Programs

/-! ## The dispatcher -/

def orchestrationOperationFailed : String := "orchestration-operation-failed"

inductive DispatchNextOutboxResult where
  | idle
  | dispatched (messageId : String) (outcome : StartRunOutcome)
  | retryScheduled (messageId reason : String)
  | deadLettered (messageId reason : String)
  deriving DecidableEq, Repr

/-- The validated dependencies of a dispatcher. -/
structure DispatchNextOutboxDependencies where
  adapterKey : String
  claimLeaseMilliseconds : ℕ
  maxAttempts : ℕ
  retryDelayMilliseconds : ℕ
  workerId : String
  adapterKey_named : nonBlank adapterKey = true
  claimLeaseMilliseconds_positive : 0 < claimLeaseMilliseconds
  maxAttempts_positive : 0 < maxAttempts
  retryDelayMilliseconds_positive : 0 < retryDelayMilliseconds
  workerId_named : nonBlank workerId = true

/-- `dispatchRunQueued`: nothing stands for its failure. -/
def dispatchRunQueuedRequest (message : RunQueuedMessage) (startKey : String) :
    Option StartRunRequest :=
  if message.aggregateId != message.event.runId || message.eventId != message.event.eventId ||
      message.workspaceId != message.event.workspaceId || !nonBlank startKey then none
  else some ⟨message.eventId, message.aggregateId, startKey, message.workspaceId⟩

section Dispatcher

variable (dependencies : DispatchNextOutboxDependencies) (claim : RunOutboxClaim)

def settleInput : SettleOutboxInput where
  claimedBy := dependencies.workerId
  claimToken := claim.claimToken
  messageId := claim.message.messageId

/-- A failed dispatch waits for another attempt while any is left, else it is a dead letter. -/
def settleFailure (reason : String) (retryable : Bool) :
    RunDispatchProgram (RunDispatchOutcome DispatchNextOutboxResult) :=
  if !(retryable && decide (claim.attempt < dependencies.maxAttempts)) then do
    let marked ← askRunDispatch (.markDeadLetter (settleInput dependencies claim) reason)
    orThrow marked fun _ => pure (.ok (.deadLettered claim.message.messageId reason))
  else do
    let marked ← askRunDispatch
      (.markRetry (settleInput dependencies claim) reason dependencies.retryDelayMilliseconds)
    orThrow marked fun _ => pure (.ok (.retryScheduled claim.message.messageId reason))

/-- A started Run has the identity that the orchestration gave it. -/
def settleStarted (outcome : StartRunOutcome) (orchestrationRunId : String) :
    RunDispatchProgram (RunDispatchOutcome DispatchNextOutboxResult) :=
  if !nonBlank orchestrationRunId then pure (.error .orchestrationRunIdInvalid)
  else do
    let recorded ← askRunDispatch
      (.recordStarted (settleInput dependencies claim) dependencies.adapterKey orchestrationRunId)
    orThrow recorded fun _ => do
      let marked ← askRunDispatch (.markDispatched (settleInput dependencies claim))
      orThrow marked fun _ => pure (.ok (.dispatched claim.message.messageId outcome))

/-- An unknown outcome keeps the binding for the reconciler. -/
def requireReconciliation (reason : String) :
    RunDispatchProgram (RunDispatchOutcome DispatchNextOutboxResult) := do
  let marked ← askRunDispatch (.markReconciliationRequired (settleInput dependencies claim))
  orThrow marked fun _ => settleFailure dependencies claim reason true

/-- A Run that may have been started is looked up by its key, never started again. -/
def reconcileClaimedRun : RunDispatchProgram (RunDispatchOutcome DispatchNextOutboxResult) :=
  if claim.binding.adapterKey.any (· != dependencies.adapterKey) then
    settleFailure dependencies claim "The orchestration binding belongs to another adapter." false
  else do
    let outcome ← askRunDispatch (.findRunByStartKey
      ⟨claim.message.eventId, claim.message.aggregateId, claim.binding.startKey,
        claim.message.workspaceId⟩)
    match outcome with
    | none => requireReconciliation dependencies claim orchestrationOperationFailed
    | some (.found orchestrationRunId) =>
        settleStarted dependencies claim (.alreadyStarted orchestrationRunId) orchestrationRunId
    | some .notFound =>
        requireReconciliation dependencies claim
          "The prior orchestration start has no authoritative outcome."
    | some (.outcomeUnknown reason) => requireReconciliation dependencies claim reason

private def resetAndSettle (reason : String) (retryable : Bool) :
    RunDispatchProgram (RunDispatchOutcome DispatchNextOutboxResult) := do
  let reset ← askRunDispatch (.resetPending (settleInput dependencies claim))
  orThrow reset fun _ => settleFailure dependencies claim reason retryable

/-- The start is recorded as begun before the orchestration is called. -/
def startClaimedRun : RunDispatchProgram (RunDispatchOutcome DispatchNextOutboxResult) := do
  let starting ← askRunDispatch
    (.markStarting (settleInput dependencies claim) dependencies.adapterKey)
  orThrow starting fun _ =>
    match dispatchRunQueuedRequest claim.message claim.binding.startKey with
    | none => resetAndSettle dependencies claim
        "The queued-run outbox message and orchestration start key are inconsistent." false
    | some request => do
        let outcome ← askRunDispatch (.startRun request)
        match outcome with
        | none => requireReconciliation dependencies claim orchestrationOperationFailed
        | some (.accepted orchestrationRunId) =>
            settleStarted dependencies claim (.accepted orchestrationRunId) orchestrationRunId
        | some (.alreadyStarted orchestrationRunId) =>
            settleStarted dependencies claim (.alreadyStarted orchestrationRunId)
              orchestrationRunId
        | some (.outcomeUnknown reason) => requireReconciliation dependencies claim reason
        | some (.definitelyRejected reason retryable) =>
            resetAndSettle dependencies claim reason retryable

/-- What a claimed message needs, by the state of its binding. -/
def dispatchClaimedRun : RunDispatchProgram (RunDispatchOutcome DispatchNextOutboxResult) :=
  match claim.binding.state with
  | .started =>
      match claim.binding.orchestrationRunId with
      | none => settleFailure dependencies claim
          "A started orchestration binding has no run identifier." false
      | some orchestrationRunId => do
          let marked ← askRunDispatch (.markDispatched (settleInput dependencies claim))
          orThrow marked fun _ =>
            pure (.ok (.dispatched claim.message.messageId (.alreadyStarted orchestrationRunId)))
  | .reconciliationExhausted => settleFailure dependencies claim
      "The orchestration reconciliation budget is exhausted." false
  | .pending => startClaimedRun dependencies claim
  | .starting | .reconciliationRequired => reconcileClaimedRun dependencies claim

end Dispatcher

/-- One pass of the dispatcher over at most one message. -/
def dispatchNextOutbox (dependencies : DispatchNextOutboxDependencies) :
    RunDispatchProgram (RunDispatchOutcome DispatchNextOutboxResult) := do
  let claimed ← askRunDispatch
    (.claimNext ⟨dependencies.workerId, dependencies.claimLeaseMilliseconds⟩)
  orThrow claimed fun
    | none => pure (.ok .idle)
    | some claim => dispatchClaimedRun dependencies claim

/-! ## The reconciler -/

inductive UnresolvedReason where
  | claimLost
  | invalidRunId
  | lookupFailed
  | notFound
  | outcomeUnknown
  deriving DecidableEq, Repr

def UnresolvedReason.text : UnresolvedReason → String
  | .claimLost => "orchestration-reconciliation-claim-lost"
  | .invalidRunId => "orchestration-reconciliation-invalid-run-id"
  | .lookupFailed => "orchestration-reconciliation-lookup-failed"
  | .notFound => "orchestration-reconciliation-not-found"
  | .outcomeUnknown => "orchestration-reconciliation-outcome-unknown"

inductive ReconcileRunOrchestrationItem where
  | confirmed (orchestrationRunId : String) (runId : RunId)
  | unresolved (reason : UnresolvedReason) (runId : RunId)
  deriving DecidableEq, Repr

structure ReconcileRunOrchestrationsResult where
  claimed : ℕ
  items : List ReconcileRunOrchestrationItem
  deriving DecidableEq, Repr

/-- The validated dependencies of a reconciler. The timeout of a lookup only makes it fail. -/
structure ReconcileRunOrchestrationsDependencies where
  adapterKey : String
  batchSize : ℕ
  claimLeaseMilliseconds : ℕ
  maxAttempts : ℕ
  operatorId : String
  retryDelayMilliseconds : ℕ
  adapterKey_named : nonBlank adapterKey = true
  batchSize_bounded : 0 < batchSize ∧ batchSize ≤ 100
  claimLeaseMilliseconds_bounded : 0 < claimLeaseMilliseconds ∧ claimLeaseMilliseconds ≤ 300000
  maxAttempts_bounded : 0 < maxAttempts ∧ maxAttempts ≤ 100
  operatorId_named : nonBlank operatorId = true
  retryDelayMilliseconds_bounded :
    0 < retryDelayMilliseconds ∧ retryDelayMilliseconds ≤ 86400000

section Reconciler

variable (dependencies : ReconcileRunOrchestrationsDependencies)
  (claim : OrchestrationReconciliationClaim)

private def reconciliationInput : SettleOrchestrationReconciliationInput where
  adapterKey := dependencies.adapterKey
  claimedBy := dependencies.operatorId
  claimToken := claim.claimToken
  messageId := claim.messageId
  workspaceId := claim.workspaceId

/-- The claim is given back with the reason for which nothing was confirmed. -/
def releaseClaim (reason : UnresolvedReason) :
    RunDispatchProgram (RunDispatchOutcome ReconcileRunOrchestrationItem) := do
  let settlement ← askRunDispatch (.release (reconciliationInput dependencies claim)
    dependencies.maxAttempts reason.text dependencies.retryDelayMilliseconds)
  orThrow settlement fun
    | .claimLost => pure (.ok (.unresolved .claimLost claim.runId))
    | .settled => pure (.ok (.unresolved reason claim.runId))

/-- One claimed binding: looked up, then confirmed or released. -/
def reconcileClaim : RunDispatchProgram (RunDispatchOutcome ReconcileRunOrchestrationItem) :=
  if claim.adapterKey != dependencies.adapterKey || claim.claimedBy != dependencies.operatorId then
    pure (.error .reconciliationClaimMismatch)
  else do
    let outcome ← askRunDispatch (.findRunByStartKey
      ⟨claim.eventId, claim.runId, claim.startKey, claim.workspaceId⟩)
    match outcome with
    | none => releaseClaim dependencies claim .lookupFailed
    | some .notFound => releaseClaim dependencies claim .notFound
    | some (.outcomeUnknown _) => releaseClaim dependencies claim .outcomeUnknown
    | some (.found found) =>
        let orchestrationRunId := String.ofList (trim found)
        if orchestrationRunId.isEmpty then releaseClaim dependencies claim .invalidRunId
        else do
          let settlement ← askRunDispatch
            (.confirm (reconciliationInput dependencies claim) orchestrationRunId)
          orThrow settlement fun
            | .claimLost => pure (.ok (.unresolved .claimLost claim.runId))
            | .settled => pure (.ok (.confirmed orchestrationRunId claim.runId))

/-- The loop over the claims, with so many left in the batch. -/
def reconcileBatch : ℕ → ReconcileRunOrchestrationsResult →
    RunDispatchProgram (RunDispatchOutcome ReconcileRunOrchestrationsResult)
  | 0, result => pure (.ok result)
  | remaining + 1, result => do
      let claimed ← askRunDispatch (.claimNextForSystem ⟨dependencies.adapterKey,
        dependencies.operatorId, dependencies.claimLeaseMilliseconds, dependencies.maxAttempts⟩)
      orThrow claimed fun
        | none => pure (.ok result)
        | some claim => do
            match ← reconcileClaim dependencies claim with
            | .error exception => pure (.error exception)
            | .ok item =>
                let next : ReconcileRunOrchestrationsResult :=
                  ⟨result.claimed + 1, result.items ++ [item]⟩
                match item with
                | .unresolved .claimLost _ => pure (.ok next)
                | _ => reconcileBatch remaining next

/-- One pass of the reconciler, after the exhausted bindings are reaped. -/
def reconcileRunOrchestrations :
    RunDispatchProgram (RunDispatchOutcome ReconcileRunOrchestrationsResult) := do
  let reaped ← askRunDispatch
    (.reapExhaustedForSystem dependencies.adapterKey dependencies.maxAttempts)
  orThrow reaped fun _ => reconcileBatch dependencies dependencies.batchSize ⟨0, []⟩

end Reconciler

end Kurobara.Application
