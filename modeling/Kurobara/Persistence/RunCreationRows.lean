import Kurobara.Kernel.Run.Creation
import Kurobara.Persistence.RunRows
import Kurobara.Persistence.StepRows

/-! # The rows of Run creation

The Run plans of one workspace with their inputs and the Run that consumed each of
them, the Runs, and the messages that announce a queued Run. A plan or an input is
written once: writing it again changes nothing, and another one under the same
identity is refused.
-/

namespace Kurobara.Persistence

open Kernel

/-- A creation that was answered. -/
structure RunCreationRecord where
  idempotencyKey : IdempotencyKey
  intentionHash : ContentHash
  run : Run
  deriving DecidableEq, Repr

/-- What `findByIdempotencyKey` reads of a Run row. -/
def runCreationRecord (run : Run) : RunCreationRecord :=
  ⟨run.idempotencyKey, run.intentionHash, run⟩

/-- A plan, and the creation that used it up. -/
structure StoredRunPlan where
  plan : RunPlan
  consumedBy : Option RunCreationRecord

/-- The input of a plan. -/
structure StoredRunInput (Value : Type) where
  runPlanId : RunPlanId
  input : ValidatedRunInput Value
  deriving DecidableEq, Repr

/-- The message that has a Run started. -/
structure RunQueuedMessage where
  aggregateId : RunId
  aggregateVersion : ℕ
  availableAt : Instant
  destination : String
  event : RunQueued
  eventId : EventId
  messageId : String
  workspaceId : WorkspaceId
  deriving DecidableEq, Repr

/-- The cost with which a Run starts. -/
structure RunCost where
  reserved : Amount
  spent : Amount
  unit : String
  deriving DecidableEq, Repr

/-- The rows that the creation of a Run reads and writes. -/
structure RunCreationRows (Value : Type) where
  runs : RunRows
  runCosts : List (RunId × RunCost)
  runPlans : List StoredRunPlan
  runInputs : List (StoredRunInput Value)
  queuedEvents : List RunQueued
  outbox : List RunQueuedMessage

deriving instance DecidableEq for RunPlan
deriving instance DecidableEq for StoredRunPlan
deriving instance DecidableEq for RunCreationRows

namespace RunCreationRows

variable {Value : Type} (rows : RunCreationRows Value)

/-- The creation of an idempotency key. -/
def findCreation (idempotencyKey : IdempotencyKey) : Option RunCreationRecord :=
  (rows.runs.findByIdempotencyKey idempotencyKey).map runCreationRecord

/-- The plan of an identifier. -/
def getRunPlan (runPlanId : RunPlanId) : Option StoredRunPlan :=
  rows.runPlans.find? fun stored => stored.plan.runPlanId == runPlanId

/-- Stores a plan, or confirms the same one. -/
def insertRunPlan (plan : RunPlan) : Except PersistenceError (RunCreationRows Value) :=
  match rows.getRunPlan plan.runPlanId with
  | none => .ok { rows with runPlans := rows.runPlans ++ [⟨plan, none⟩] }
  | some stored => if stored.plan = plan then .ok rows else .error .immutableRecordConflict

/-- An input is stored once for its plan and once under its identity. -/
def insertRunInput [DecidableEq Value] (plan : RunPlan) (input : ValidatedRunInput Value) :
    Except PersistenceError (RunCreationRows Value) :=
  if rows.runInputs.any fun stored =>
      stored.runPlanId == plan.runPlanId || stored.input.inputId == input.inputId then
    match rows.runInputs.find? fun stored => stored.runPlanId == plan.runPlanId with
    | none => .error .immutableRecordConflict
    | some stored => if stored.input = input then .ok rows else .error .immutableRecordConflict
  else .ok { rows with runInputs := rows.runInputs ++ [⟨plan.runPlanId, input⟩] }

/-- A Run is unique under its identity and under its idempotency key. -/
def insertRun (run : Run) (cost : RunCost) : Except PersistenceError (RunCreationRows Value) :=
  if (rows.runs.findRun run.runId).isSome ||
      (rows.runs.findByIdempotencyKey run.idempotencyKey).isSome then .error .uniqueViolation
  else .ok { rows with
    runs := rows.runs.insertRun run
    runCosts := rows.runCosts ++ [(run.runId, cost)] }

/-- Appends the event of a creation. -/
def appendQueuedEvent (event : RunQueued) : Except PersistenceError (RunCreationRows Value) :=
  if rows.queuedEvents.any (·.eventId == event.eventId) then .error .uniqueViolation
  else .ok { rows with queuedEvents := rows.queuedEvents ++ [event] }

/-- Appends the message of a creation. -/
def appendOutbox (message : RunQueuedMessage) : Except PersistenceError (RunCreationRows Value) :=
  if rows.outbox.any (·.messageId == message.messageId) then .error .uniqueViolation
  else .ok { rows with outbox := rows.outbox ++ [message] }

/-- Marks a plan as used by a creation. -/
def markConsumed (runPlanId : RunPlanId) (creation : RunCreationRecord) :
    Except PersistenceError (RunCreationRows Value) :=
  if (rows.getRunPlan runPlanId).any (·.consumedBy.isNone) then
    .ok { rows with runPlans := rows.runPlans.map fun stored =>
      if stored.plan.runPlanId == runPlanId then { stored with consumedBy := some creation }
      else stored }
  else .error .runPlanConsumptionConflict

/-! ## What the writes leave -/

variable {rows}

theorem insertRunPlan_ok {after : RunCreationRows Value} {plan : RunPlan}
    (inserted : rows.insertRunPlan plan = .ok after) :
    (rows.getRunPlan plan.runPlanId = none ∧
        after = { rows with runPlans := rows.runPlans ++ [⟨plan, none⟩] }) ∨
      ∃ stored, rows.getRunPlan plan.runPlanId = some stored ∧ stored.plan = plan ∧
        after = rows := by
  unfold insertRunPlan at inserted
  split at inserted
  · rename_i absent
    cases inserted
    exact .inl ⟨absent, rfl⟩
  · rename_i stored found
    split at inserted
    · rename_i same
      cases inserted
      exact .inr ⟨stored, found, same, rfl⟩
    · cases inserted

/-- A plan that is inserted is found, with the consumption that it had. -/
theorem insertRunPlan_getRunPlan {after : RunCreationRows Value} {plan : RunPlan}
    (inserted : rows.insertRunPlan plan = .ok after) :
    after.getRunPlan plan.runPlanId =
      some ⟨plan, (rows.getRunPlan plan.runPlanId).bind StoredRunPlan.consumedBy⟩ := by
  rcases insertRunPlan_ok inserted with ⟨absent, rfl⟩ | ⟨stored, found, rfl, rfl⟩
  · have missed : rows.runPlans.find? (fun stored => stored.plan.runPlanId == plan.runPlanId) =
        none := absent
    rw [absent]
    simp [getRunPlan, List.find?_append, missed]
  · rw [found]
    rfl

theorem insertRunInput_ok [DecidableEq Value] {after : RunCreationRows Value} {plan : RunPlan}
    {input : ValidatedRunInput Value} (inserted : rows.insertRunInput plan input = .ok after) :
    after = { rows with runInputs := rows.runInputs ++ [⟨plan.runPlanId, input⟩] } ∨
      after = rows := by
  unfold insertRunInput at inserted
  split at inserted
  · split at inserted
    · cases inserted
    split at inserted
    · cases inserted
      exact .inr rfl
    · cases inserted
  · cases inserted
    exact .inl rfl

end RunCreationRows

end Kurobara.Persistence
