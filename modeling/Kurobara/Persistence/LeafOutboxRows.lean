import Kurobara.Kernel.Step.StepRun

/-! # Leaf outbox rows

The durable message that asks for the start of a claimed attempt, and the binding
of that attempt to its orchestration.
-/

namespace Kurobara.Persistence

open Kernel

/-- The states of an outbox message. -/
inductive OutboxMessageState where
  | pending
  | claimed
  | retry
  | dispatched
  | deadLetter
  | cancelled
  deriving DecidableEq, Repr

/-- The lease of a claimed message. -/
structure OutboxClaim where
  claimedBy : String
  claimToken : String
  claimedUntil : Instant
  deriving DecidableEq, Repr

/-- The message that has an attempt dispatched. -/
structure LeafOutboxMessage where
  messageId : String
  attemptId : AttemptId
  effectAdapterKey : String
  state : OutboxMessageState
  attempts : ℕ
  availableAt : Instant
  claim : Option OutboxClaim
  lastError : Option String
  deriving DecidableEq, Repr

/-- The states of a binding. -/
inductive LeafBindingState where
  | pending
  | starting
  | started
  | reconciliationRequired
  | reconciliationExhausted
  | rejected
  | cancelled
  deriving DecidableEq, Repr

/-- The binding of an attempt to its execution. -/
structure LeafBinding where
  attemptId : AttemptId
  outboxMessageId : String
  startKey : String
  state : LeafBindingState
  adapterKey : Option String
  effectAdapterKey : String
  externalExecutionId : Option String
  deriving DecidableEq, Repr

/-- The binding under which an attempt may cross its effect threshold: dispatched or
being dispatched, or not yet picked up by any dispatcher. -/
def bindingAdmitsEffect (binding : LeafBinding) (message : LeafOutboxMessage) : Bool :=
  match binding.state with
  | .starting | .started | .reconciliationRequired => true
  | .pending => message.state == .pending
  | _ => false

end Kurobara.Persistence
