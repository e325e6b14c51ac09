import Kurobara.Persistence.RunCreationRows
import Mathlib.Logic.Function.Basic

/-! # Run outbox rows

The messages that announce queued Runs and the bindings of these Runs to their
orchestration, under the identity of the message. A dispatcher claims a message and a
reconciler claims a binding, each under a lease with a fresh token; every statement reads
one clock. Which of several eligible rows a claim takes is open, as it skips the rows that
others have locked.
-/

namespace Kurobara.Persistence

open Kernel

/-! ## Leases -/

/-- `claimed_until > clock_timestamp()`. -/
def OutboxClaim.isAlive (claim : OutboxClaim) (now : Instant) : Bool :=
  decide (now < claim.claimedUntil)

/-- The lease is this one, and alive. -/
def isHeldUnder (claim : Option OutboxClaim) (claimedBy claimToken : String) (now : Instant) :
    Bool :=
  claim.any fun known =>
    known.claimedBy == claimedBy && known.claimToken == claimToken && known.isAlive now

/-- `claimed_until IS NULL OR claimed_until <= clock_timestamp()`. -/
def isReleased (claim : Option OutboxClaim) (now : Instant) : Bool :=
  claim.all fun known => !known.isAlive now

/-! ## Rows -/

/-- A message with its state in the outbox. -/
structure RunOutboxMessage extends RunQueuedMessage where
  state : OutboxMessageState
  attempts : ℕ
  claim : Option OutboxClaim
  orchestrationRunId : Option String
  lastError : Option String
  deriving DecidableEq, Repr

/-- The states of a binding. -/
inductive RunOrchestrationBindingState where
  | pending
  | starting
  | started
  | reconciliationRequired
  | reconciliationExhausted
  deriving DecidableEq, Repr

/-- The binding of a Run to the engine's run. -/
structure RunOrchestrationBinding where
  workspaceId : WorkspaceId
  runId : RunId
  startKey : String
  state : RunOrchestrationBindingState
  adapterKey : Option String
  orchestrationRunId : Option String
  reconciliationClaim : Option OutboxClaim
  reconciliationAttempts : ℕ
  nextReconciliationAt : Instant
  lastReconciliationError : Option String
  deriving DecidableEq, Repr

/-- A start that has no authoritative outcome yet. -/
def RunOrchestrationBinding.isUnresolved (binding : RunOrchestrationBinding) : Bool :=
  binding.state == .starting || binding.state == .reconciliationRequired

/-- The rows, with the clock and the tokens that were drawn so far. -/
structure RunOutboxRows where
  messages : String → Option RunOutboxMessage
  bindings : String → Option RunOrchestrationBinding
  clock : Instant
  claimTokens : List String

/-- Why the store refuses a call. -/
inductive RunOutboxError where
  | checkViolation
  | databaseIdentityMismatch
  | orchestrationBindingConflict
  | outboxLeaseConflict
  | outboxMessageInconsistent
  | uniqueViolation
  deriving DecidableEq, Repr

namespace RunOutboxRows

variable (rows : RunOutboxRows)

def setMessage (messageId : String) (message : RunOutboxMessage) : RunOutboxRows :=
  { rows with messages := Function.update rows.messages messageId (some message) }

def setBinding (messageId : String) (binding : RunOrchestrationBinding) : RunOutboxRows :=
  { rows with bindings := Function.update rows.bindings messageId (some binding) }

/-! ## Creation -/

/-- `outbox.append`, with the binding that is created along with the message. -/
def append (message : RunQueuedMessage) : Except RunOutboxError RunOutboxRows :=
  if message.workspaceId != message.event.workspaceId ||
      message.aggregateId != message.event.runId || message.eventId != message.event.eventId then
    .error .outboxMessageInconsistent
  else if (rows.messages message.messageId).isSome || (rows.bindings message.messageId).isSome then
    .error .uniqueViolation
  else .ok ((rows.setMessage message.messageId {
      toRunQueuedMessage := message
      state := .pending
      attempts := 0
      claim := none
      orchestrationRunId := none
      lastError := none }).setBinding message.messageId {
    workspaceId := message.workspaceId
    runId := message.aggregateId
    startKey := message.messageId
    state := .pending
    adapterKey := none
    orchestrationRunId := none
    reconciliationClaim := none
    reconciliationAttempts := 0
    nextReconciliationAt := rows.clock
    lastReconciliationError := none })

end RunOutboxRows

/-! ## The dispatcher -/

structure ClaimNextOutboxInput where
  claimedBy : String
  leaseMilliseconds : ℕ
  deriving DecidableEq, Repr

structure SettleOutboxInput where
  claimedBy : String
  claimToken : String
  messageId : String
  deriving DecidableEq, Repr

/-- The binding as a claim shows it. -/
structure ClaimedRunBinding where
  adapterKey : Option String
  orchestrationRunId : Option String
  startKey : String
  state : RunOrchestrationBindingState
  deriving DecidableEq, Repr

/-- A message under a claim, with its binding. -/
structure RunOutboxClaim where
  attempt : ℕ
  binding : ClaimedRunBinding
  claimedBy : String
  claimToken : String
  message : RunQueuedMessage
  deriving DecidableEq, Repr

/-- The checks of `parseOutboxRow` and of the identity of a message. -/
def runQueuedMessageIsConsistent (message : RunQueuedMessage) : Bool :=
  message.destination == "orchestration.run.queued" && message.aggregateVersion == 1 &&
    message.aggregateId == message.event.runId && message.eventId == message.event.eventId &&
    message.workspaceId == message.event.workspaceId && nonBlank message.messageId

/-- The claim of a row, refused where the message is inconsistent. -/
def parseOutboxRow (message : RunOutboxMessage) (binding : RunOrchestrationBinding)
    (lease : OutboxClaim) : Except RunOutboxError RunOutboxClaim :=
  if runQueuedMessageIsConsistent message.toRunQueuedMessage then
    .ok {
      attempt := message.attempts
      binding := ⟨binding.adapterKey, binding.orchestrationRunId, binding.startKey, binding.state⟩
      claimedBy := lease.claimedBy
      claimToken := lease.claimToken
      message := message.toRunQueuedMessage }
  else .error .databaseIdentityMismatch

/-- A message that is due, or whose lease has ended. -/
def RunOutboxMessage.isDue (message : RunOutboxMessage) (now : Instant) : Bool :=
  match message.state with
  | .pending | .retry => decide (message.availableAt ≤ now)
  | .claimed => message.claim.any fun known => !known.isAlive now
  | _ => false

namespace RunOutboxRows

variable (rows : RunOutboxRows)

/-- `claimNext`, of the candidate that it takes and with the token that it draws. The
binding is shown as it was before the claim. -/
def claimNext (input : ClaimNextOutboxInput) (claimToken messageId : String) :
    Except RunOutboxError RunOutboxClaim × RunOutboxRows :=
  match rows.messages messageId, rows.bindings messageId with
  | some message, some binding =>
      if isReleased binding.reconciliationClaim rows.clock && message.isDue rows.clock then
        let lease : OutboxClaim :=
          ⟨input.claimedBy, claimToken, rows.clock + input.leaseMilliseconds⟩
        let claimed : RunOutboxMessage :=
          { message with
            state := .claimed
            attempts := message.attempts + 1
            claim := some lease }
        let reconciled : RunOrchestrationBinding :=
          if message.state == .claimed && binding.state == .starting then
            { binding with state := .reconciliationRequired }
          else binding
        (parseOutboxRow claimed binding lease,
          { (rows.setMessage messageId claimed).setBinding messageId reconciled with
            claimTokens := claimToken :: rows.claimTokens })
      else (.error .outboxLeaseConflict, rows)
  | _, _ => (.error .outboxLeaseConflict, rows)

/-- The message that the caller holds. -/
def heldMessage (input : SettleOutboxInput) : Option RunOutboxMessage :=
  (rows.messages input.messageId).filter fun message =>
    message.state == .claimed && isHeldUnder message.claim input.claimedBy input.claimToken
      rows.clock

/-- An update of the held message. -/
def settle (input : SettleOutboxInput) (update : RunOutboxMessage → RunOutboxMessage) :
    Except RunOutboxError RunOutboxRows :=
  match rows.heldMessage input with
  | some message => .ok (rows.setMessage input.messageId (update message))
  | none => .error .outboxLeaseConflict

/-- An update of the binding of the held message. -/
def settleBinding (input : SettleOutboxInput) (conflict : RunOutboxError)
    (admits : RunOrchestrationBinding → Bool)
    (update : RunOrchestrationBinding → RunOrchestrationBinding) :
    Except RunOutboxError RunOutboxRows :=
  match rows.heldMessage input, rows.bindings input.messageId with
  | some _, some binding =>
      if admits binding then .ok (rows.setBinding input.messageId (update binding))
      else .error conflict
  | _, _ => .error conflict

def markDeadLetter (input : SettleOutboxInput) (reason : String) :
    Except RunOutboxError RunOutboxRows :=
  rows.settle input fun message => { message with
    state := .deadLetter
    claim := none
    lastError := some reason }

def markDispatched (input : SettleOutboxInput) : Except RunOutboxError RunOutboxRows :=
  match rows.heldMessage input, rows.bindings input.messageId with
  | some message, some binding =>
      if binding.state == .started then
        .ok (rows.setMessage input.messageId { message with
          state := .dispatched
          claim := none
          orchestrationRunId := binding.orchestrationRunId
          lastError := none })
      else .error .outboxLeaseConflict
  | _, _ => .error .outboxLeaseConflict

def markReconciliationRequired (input : SettleOutboxInput) : Except RunOutboxError RunOutboxRows :=
  rows.settleBinding input .outboxLeaseConflict RunOrchestrationBinding.isUnresolved
    fun binding => { binding with state := .reconciliationRequired }

def markRetry (input : SettleOutboxInput) (reason : String) (retryDelayMilliseconds : ℕ) :
    Except RunOutboxError RunOutboxRows :=
  rows.settle input fun message => { message with
    state := .retry
    availableAt := rows.clock + retryDelayMilliseconds
    claim := none
    lastError := some reason }

def markStarting (input : SettleOutboxInput) (adapterKey : String) :
    Except RunOutboxError RunOutboxRows :=
  rows.settleBinding input .orchestrationBindingConflict (fun binding => binding.state == .pending)
    fun binding => { binding with
      adapterKey := some adapterKey
      state := .starting }

def recordStarted (input : SettleOutboxInput) (adapterKey orchestrationRunId : String) :
    Except RunOutboxError RunOutboxRows :=
  rows.settleBinding input .orchestrationBindingConflict
    (fun binding => binding.isUnresolved && binding.adapterKey.all (· == adapterKey))
    fun binding => { binding with
      adapterKey := some adapterKey
      orchestrationRunId := some orchestrationRunId
      state := .started
      reconciliationClaim := none }

def resetPending (input : SettleOutboxInput) : Except RunOutboxError RunOutboxRows :=
  match rows.heldMessage input, rows.bindings input.messageId with
  | some _, some binding =>
      if binding.state != .starting then .error .orchestrationBindingConflict
      -- The table admits a lease of a reconciler only on an unresolved binding.
      else if binding.reconciliationClaim.isSome then .error .checkViolation
      else .ok (rows.setBinding input.messageId { binding with
        adapterKey := none
        state := .pending })
  | _, _ => .error .orchestrationBindingConflict

end RunOutboxRows

/-! ## What a settlement requires -/

/-- The message is held under a lease with this token, which is alive. -/
def IsHeld (message : RunOutboxMessage) (claimToken : String) (now : Instant) : Prop :=
  message.state = .claimed ∧
    ∃ lease, message.claim = some lease ∧ lease.claimToken = claimToken ∧ now < lease.claimedUntil

theorem IsHeld.earlier {message : RunOutboxMessage} {claimToken : String} {now later : Instant}
    (held : IsHeld message claimToken later) (passed : now ≤ later) :
    IsHeld message claimToken now := by
  obtain ⟨claimed, lease, known, token, alive⟩ := held
  exact ⟨claimed, lease, known, token, lt_of_le_of_lt passed alive⟩

/-- A message is held under one token at most. -/
theorem IsHeld.token_unique {message : RunOutboxMessage} {claimToken other : String}
    {now : Instant} (held : IsHeld message claimToken now) (also : IsHeld message other now) :
    other = claimToken := by
  obtain ⟨_, lease, known, rfl, _⟩ := held
  obtain ⟨_, same, alsoKnown, rfl, _⟩ := also
  rw [known] at alsoKnown
  cases alsoKnown
  rfl

theorem isReleased_later {claim : Option OutboxClaim} {now later : Instant}
    (released : isReleased claim now = true) (passed : now ≤ later) :
    isReleased claim later = true := by
  cases claim with
  | none => rfl
  | some lease =>
      simp only [isReleased, Option.all_some, OutboxClaim.isAlive, Bool.not_eq_true',
        decide_eq_false_iff_not, not_lt] at released ⊢
      exact released.trans passed

namespace RunOutboxRows

variable {rows after : RunOutboxRows} {input : SettleOutboxInput}

private theorem heldMessage_some {message : RunOutboxMessage}
    (found : rows.heldMessage input = some message) :
    rows.messages input.messageId = some message ∧ IsHeld message input.claimToken rows.clock := by
  obtain ⟨has, held⟩ := Option.filter_eq_some_iff.mp found
  simp only [Bool.and_eq_true, beq_iff_eq, isHeldUnder, Option.any_eq_true, OutboxClaim.isAlive,
    decide_eq_true_eq] at held
  obtain ⟨claimed, lease, known, ⟨_, token⟩, alive⟩ := held
  exact ⟨has, claimed, lease, known, token, alive⟩

/-- A settlement was made under the claim it names, while that was in force. -/
theorem settle_ok {update : RunOutboxMessage → RunOutboxMessage}
    (settled : rows.settle input update = .ok after) :
    ∃ message, rows.messages input.messageId = some message ∧
      IsHeld message input.claimToken rows.clock ∧
        after = rows.setMessage input.messageId (update message) := by
  unfold settle at settled
  split at settled
  · rename_i message found
    cases settled
    obtain ⟨has, held⟩ := heldMessage_some found
    exact ⟨message, has, held, rfl⟩
  · cases settled

/-- A binding was settled under its claim and in a state that admits it. -/
theorem settleBinding_ok {conflict : RunOutboxError} {admits : RunOrchestrationBinding → Bool}
    {update : RunOrchestrationBinding → RunOrchestrationBinding}
    (settled : rows.settleBinding input conflict admits update = .ok after) :
    ∃ message binding, rows.messages input.messageId = some message ∧
      rows.bindings input.messageId = some binding ∧
        IsHeld message input.claimToken rows.clock ∧ admits binding = true ∧
          after = rows.setBinding input.messageId (update binding) := by
  unfold settleBinding at settled
  split at settled
  · rename_i message binding found bound
    split at settled
    · rename_i admitted
      cases settled
      obtain ⟨has, held⟩ := heldMessage_some found
      exact ⟨message, binding, has, bound, held, admitted, rfl⟩
    · cases settled
  · cases settled

theorem markDispatched_ok (settled : rows.markDispatched input = .ok after) :
    ∃ message binding, rows.messages input.messageId = some message ∧
      rows.bindings input.messageId = some binding ∧
        IsHeld message input.claimToken rows.clock ∧ binding.state = .started ∧
          after = rows.setMessage input.messageId { message with
            state := .dispatched
            claim := none
            orchestrationRunId := binding.orchestrationRunId
            lastError := none } := by
  unfold markDispatched at settled
  split at settled
  · rename_i message binding found bound
    split at settled
    · rename_i started
      cases settled
      obtain ⟨has, held⟩ := heldMessage_some found
      exact ⟨message, binding, has, bound, held, beq_iff_eq.mp started, rfl⟩
    · cases settled
  · cases settled

theorem resetPending_ok (settled : rows.resetPending input = .ok after) :
    ∃ message binding, rows.messages input.messageId = some message ∧
      rows.bindings input.messageId = some binding ∧
        IsHeld message input.claimToken rows.clock ∧ binding.state = .starting ∧
          binding.reconciliationClaim = none ∧
            after = rows.setBinding input.messageId { binding with
              adapterKey := none
              state := .pending } := by
  unfold resetPending at settled
  split at settled
  · rename_i message binding found bound
    split at settled
    · cases settled
    rename_i starting
    split at settled
    · cases settled
    rename_i unleased
    cases settled
    obtain ⟨has, held⟩ := heldMessage_some found
    rw [bne_iff_ne, not_not] at starting
    rw [Bool.not_eq_true, Option.isSome_eq_false_iff, Option.isNone_iff_eq_none] at unleased
    exact ⟨message, binding, has, bound, held, starting, unleased, rfl⟩
  · cases settled

end RunOutboxRows

/-! ## The reconciler -/

structure ClaimNextOrchestrationReconciliationInput where
  adapterKey : String
  claimedBy : String
  leaseMilliseconds : ℕ
  maxAttempts : ℕ
  deriving DecidableEq, Repr

structure SettleOrchestrationReconciliationInput where
  adapterKey : String
  claimedBy : String
  claimToken : String
  messageId : String
  workspaceId : WorkspaceId
  deriving DecidableEq, Repr

/-- A binding under a claim of a reconciler. -/
structure OrchestrationReconciliationClaim where
  adapterKey : String
  claimedBy : String
  claimToken : String
  eventId : EventId
  messageId : String
  runId : RunId
  startKey : String
  workspaceId : WorkspaceId
  deriving DecidableEq, Repr

inductive OrchestrationReconciliationSettlement where
  | claimLost
  | settled
  deriving DecidableEq, Repr

def reconciliationAttemptsExhausted : String :=
  "orchestration-reconciliation-attempts-exhausted"

/-- No dispatcher holds the message. -/
def RunOutboxMessage.isUnheld (message : RunOutboxMessage) (now : Instant) : Bool :=
  message.state != .claimed || message.claim.any fun known => !known.isAlive now

namespace RunOutboxRows

variable (rows : RunOutboxRows)

/-- A binding of the adapter that waits for an outcome, and that nobody works on. -/
def awaitsReconciliation (adapterKey : String) (message : RunOutboxMessage)
    (binding : RunOrchestrationBinding) : Bool :=
  binding.adapterKey == some adapterKey && binding.isUnresolved &&
    isReleased binding.reconciliationClaim rows.clock && message.isUnheld rows.clock

def parseOrchestrationReconciliationRow (message : RunOutboxMessage)
    (binding : RunOrchestrationBinding) (adapterKey : String) (lease : OutboxClaim) :
    Except RunOutboxError OrchestrationReconciliationClaim :=
  if message.eventId == message.event.eventId && binding.runId == message.event.runId &&
      binding.workspaceId == message.event.workspaceId && nonBlank message.messageId then
    .ok {
      adapterKey := adapterKey
      claimedBy := lease.claimedBy
      claimToken := lease.claimToken
      eventId := message.event.eventId
      messageId := message.messageId
      runId := message.event.runId
      startKey := binding.startKey
      workspaceId := message.event.workspaceId }
  else .error .databaseIdentityMismatch

/-- `claimNextForSystem`, of the candidate that it takes. -/
def claimNextForSystem (input : ClaimNextOrchestrationReconciliationInput)
    (claimToken messageId : String) :
    Except RunOutboxError OrchestrationReconciliationClaim × RunOutboxRows :=
  match rows.messages messageId, rows.bindings messageId with
  | some message, some binding =>
      if rows.awaitsReconciliation input.adapterKey message binding &&
          decide (binding.reconciliationAttempts < input.maxAttempts) &&
          decide (binding.nextReconciliationAt ≤ rows.clock) then
        let lease : OutboxClaim :=
          ⟨input.claimedBy, claimToken, rows.clock + input.leaseMilliseconds⟩
        (parseOrchestrationReconciliationRow message binding input.adapterKey lease,
          { rows.setBinding messageId { binding with
              reconciliationClaim := some lease
              reconciliationAttempts := binding.reconciliationAttempts + 1 } with
            claimTokens := claimToken :: rows.claimTokens })
      else (.error .outboxLeaseConflict, rows)
  | _, _ => (.error .outboxLeaseConflict, rows)

/-- The binding that the caller holds a lease of. -/
def reconciledBinding (input : SettleOrchestrationReconciliationInput) :
    Option RunOrchestrationBinding :=
  (rows.bindings input.messageId).filter fun binding =>
    binding.workspaceId == input.workspaceId && binding.adapterKey == some input.adapterKey &&
      binding.isUnresolved &&
      isHeldUnder binding.reconciliationClaim input.claimedBy input.claimToken rows.clock

/-- An update of a message that no dispatcher holds; a held message is left alone. -/
def updateUnheld (workspaceId : WorkspaceId) (messageId : String)
    (update : RunOutboxMessage → RunOutboxMessage) : RunOutboxRows :=
  match rows.messages messageId with
  | some message =>
      if message.workspaceId == workspaceId && message.isUnheld rows.clock then
        rows.setMessage messageId (update message)
      else rows
  | none => rows

def dispatchUnheld (workspaceId : WorkspaceId) (messageId orchestrationRunId : String) :
    RunOutboxRows :=
  rows.updateUnheld workspaceId messageId fun message => { message with
    state := .dispatched
    claim := none
    orchestrationRunId := some orchestrationRunId
    lastError := none }

/-- Without a lease, a binding that is started with the same Run is confirmed again. -/
def confirm (input : SettleOrchestrationReconciliationInput) (orchestrationRunId : String) :
    OrchestrationReconciliationSettlement × RunOutboxRows :=
  match rows.reconciledBinding input with
  | some binding =>
      (.settled, (rows.setBinding input.messageId { binding with
        state := .started
        orchestrationRunId := some orchestrationRunId
        reconciliationClaim := none
        lastReconciliationError := none }).dispatchUnheld input.workspaceId input.messageId
          orchestrationRunId)
  | none =>
      match rows.bindings input.messageId with
      | some binding =>
          if binding.workspaceId == input.workspaceId && binding.state == .started &&
              binding.adapterKey == some input.adapterKey &&
              binding.orchestrationRunId == some orchestrationRunId then
            (.settled, rows.dispatchUnheld input.workspaceId input.messageId orchestrationRunId)
          else (.claimLost, rows)
      | none => (.claimLost, rows)

/-- The binding once its attempts are used up. -/
def exhaust (binding : RunOrchestrationBinding) : RunOrchestrationBinding :=
  { binding with
    state := .reconciliationExhausted
    reconciliationClaim := none
    lastReconciliationError := some reconciliationAttemptsExhausted }

/-- Whether `reapExhaustedForSystem` takes the binding, when it is among the selected. -/
def isReaped (adapterKey : String) (maxAttempts : ℕ) (selected : List String)
    (messageId : String) : Bool :=
  selected.contains messageId &&
    match rows.messages messageId, rows.bindings messageId with
    | some message, some binding => rows.awaitsReconciliation adapterKey message binding &&
        decide (maxAttempts ≤ binding.reconciliationAttempts)
    | _, _ => false

/-- `reapExhaustedForSystem`, of at most 100 candidates. -/
def reapExhaustedForSystem (adapterKey : String) (maxAttempts : ℕ) (selected : List String) :
    ℕ × RunOutboxRows :=
  let isReaped := rows.isReaped adapterKey maxAttempts (selected.take 100)
  (((selected.take 100).dedup.filter isReaped).length, { rows with
    bindings := fun messageId =>
      if isReaped messageId then (rows.bindings messageId).map exhaust
      else rows.bindings messageId
    messages := fun messageId =>
      if isReaped messageId then (rows.messages messageId).map fun message => { message with
        state := .deadLetter
        claim := none
        lastError := some reconciliationAttemptsExhausted }
      else rows.messages messageId })

/-- `release`: gives a reconciliation back, or ends its attempts. -/
def release (input : SettleOrchestrationReconciliationInput) (maxAttempts : ℕ) (reason : String)
    (retryDelayMilliseconds : ℕ) : OrchestrationReconciliationSettlement × RunOutboxRows :=
  match rows.reconciledBinding input with
  | some binding =>
      let exhausted := decide (maxAttempts ≤ binding.reconciliationAttempts)
      let released := rows.setBinding input.messageId { binding with
        state := if exhausted then .reconciliationExhausted else .reconciliationRequired
        reconciliationClaim := none
        nextReconciliationAt := rows.clock + retryDelayMilliseconds
        lastReconciliationError := some reason }
      (.settled, if exhausted then
          released.updateUnheld input.workspaceId input.messageId fun message => { message with
            state := .deadLetter
            claim := none
            lastError := some reason }
        else released)
  | none => (.claimLost, rows)

end RunOutboxRows

end Kurobara.Persistence
