import Kurobara.Foundation.Fallible
import Kurobara.Persistence.RunCreationRows

/-! # Creating a Run

`createRunInUnitOfWork`: a Run is created once for an idempotency key and once from its
plan. A repeated command is answered with the Run that it created; another intention
under the same key, or another key for a consumed plan, is refused.
-/

namespace Kurobara.Application

open Foundation Kernel Persistence

structure CreateRunCommand where
  workspaceId : WorkspaceId
  actorId : ActorId
  actorPermissions : List String
  authenticationMode : String
  correlationId : CorrelationId
  idempotencyKey : IdempotencyKey
  intentionHash : ContentHash
  runPlanId : RunPlanId
  deriving DecidableEq, Repr

inductive CreateRunUseCaseFailureCode where
  | authorityPermissionMissing
  | idempotencyKeyReused
  | intentionHashMismatch
  | runPlanNotFound
  | runPlanAlreadyConsumed
  | domainRejected
  deriving DecidableEq, Repr

def CreateRunUseCaseFailureCode.text : CreateRunUseCaseFailureCode → String
  | .authorityPermissionMissing => "authority-permission-missing"
  | .idempotencyKeyReused => "idempotency-key-reused"
  | .intentionHashMismatch => "intention-hash-mismatch"
  | .runPlanNotFound => "run-plan-not-found"
  | .runPlanAlreadyConsumed => "run-plan-already-consumed"
  | .domainRejected => "domain-rejected"

structure CreateRunUseCaseFailure where
  code : CreateRunUseCaseFailureCode
  message : String
  domainCode : Option String
  deriving DecidableEq, Repr

structure CreateRunUseCaseSuccess where
  run : Run
  replayed : Bool
  deriving DecidableEq, Repr

abbrev CreateRunResult := Except CreateRunUseCaseFailure CreateRunUseCaseSuccess

/-- The input and workflow that the caller expects its plan to be bound to. -/
structure ExpectedPlanBinding where
  normalizedInputHash : ContentHash
  workflowContentHash : ContentHash
  workflowRevision : String
  workflowSpecId : String
  deriving DecidableEq, Repr

/-- The identifiers that a creation takes. -/
structure RunIdentifiers where
  nextRunId : RunId
  nextEventId : EventId
  nextOutboxMessageId : String
  deriving DecidableEq, Repr

structure CreateRunInUnitOfWorkInput where
  command : CreateRunCommand
  identifiers : RunIdentifiers
  requiredPermission : String
  expectedPlanBinding : Option ExpectedPlanBinding
  now : Instant
  deriving DecidableEq, Repr

/-- A key that was used answers with its Run, for the same intention only. -/
def replayCreation (creation : RunCreationRecord) (command : CreateRunCommand) : CreateRunResult :=
  if creation.intentionHash != command.intentionHash then
    .error ⟨.idempotencyKeyReused,
      "The idempotency key was already used for another intention.", none⟩
  else .ok ⟨creation.run, true⟩

/-- The plan is bound to the input and to the workflow that the caller expects. -/
def validateExpectedPlanBinding (plan : RunPlan) :
    Option ExpectedPlanBinding → Except CreateRunUseCaseFailure Unit
  | none => .ok ()
  | some expected =>
      let workflow := plan.compiledWorkflow
      if plan.normalizedInputHash != expected.normalizedInputHash then
        .error ⟨.domainRejected,
          "The immutable run plan is not bound to the expected normalized input.",
          some "run-plan-input-mismatch"⟩
      else if workflow.workflowSpecId != expected.workflowSpecId ||
          workflow.workflowRevision != expected.workflowRevision ||
          workflow.workflowContentHash != expected.workflowContentHash then
        .error ⟨.domainRejected,
          "The immutable run plan does not compile the expected workflow revision.",
          some "run-plan-workflow-mismatch"⟩
      else .ok ()

def createRunInput (input : CreateRunInUnitOfWorkInput) (plan : RunPlan) : CreateRunInput where
  plan := plan
  runId := input.identifiers.nextRunId
  eventId := input.identifiers.nextEventId
  now := input.now
  actorId := input.command.actorId
  correlationId := input.command.correlationId
  idempotencyKey := input.command.idempotencyKey
  intentionHash := input.command.intentionHash
  requiredPermission := input.requiredPermission

/-- The message that hands a queued Run to the orchestration. -/
def runQueuedMessage (input : CreateRunInUnitOfWorkInput) (decision : CreateRunDecision) :
    RunQueuedMessage where
  aggregateId := decision.run.runId
  aggregateVersion := 1
  availableAt := input.now
  destination := "orchestration.run.queued"
  event := decision.event
  eventId := decision.event.eventId
  messageId := input.identifiers.nextOutboxMessageId
  workspaceId := input.command.workspaceId

section Creation

variable {Value : Type} (rows : RunCreationRows Value) (input : CreateRunInUnitOfWorkInput)

/-- The writes of a creation: the Run, its event, its message and the consumption. -/
def persistRunCreation (plan : RunPlan) (decision : CreateRunDecision) :
    Except PersistenceError (RunCreationRows Value) := do
  let inserted ← rows.insertRun decision.run
    ⟨plan.budget.reserved, plan.budget.spent, plan.budget.unit⟩
  let appended ← inserted.appendQueuedEvent decision.event
  let announced ← appended.appendOutbox (runQueuedMessage input decision)
  announced.markConsumed input.command.runPlanId
    ⟨input.command.idempotencyKey, input.command.intentionHash, decision.run⟩

/-- The creation from a stored plan that no Run of this key was created from. -/
def createFromStoredPlan (stored : StoredRunPlan) :
    Except PersistenceError (CreateRunResult × RunCreationRows Value) :=
  match stored.consumedBy with
  | some consumed =>
      if consumed.idempotencyKey == input.command.idempotencyKey then
        .ok (replayCreation consumed input.command, rows)
      else .ok (.error ⟨.runPlanAlreadyConsumed,
        "The single-use run plan already created a run.", none⟩, rows)
  | none =>
  match createRunFromPlan (createRunInput input stored.plan) with
  | .error failure =>
      .ok (.error ⟨.domainRejected, failure.message, some failure.code.text⟩, rows)
  | .ok decision =>
  match persistRunCreation rows input stored.plan decision with
  | .error failure => .error failure
  | .ok created => .ok (.ok ⟨decision.run, false⟩, created)

/-- A Run of the same key is looked up before the plan, and answers after its checks. -/
def createRunInUnitOfWork : Except PersistenceError (CreateRunResult × RunCreationRows Value) :=
  let priorReplay := (rows.findCreation input.command.idempotencyKey).map fun prior =>
    replayCreation prior input.command
  match priorReplay with
  | some (.error failure) => .ok (.error failure, rows)
  | _ =>
  match rows.getRunPlan input.command.runPlanId with
  | none => .ok (.error ⟨.runPlanNotFound, "The run plan does not exist.", none⟩, rows)
  | some stored =>
      if stored.plan.planHash != input.command.intentionHash then
        .ok (.error ⟨.intentionHashMismatch, "The supplied intention hash does not match the " ++
          "immutable run plan identity.", none⟩, rows)
      else
        match validateExpectedPlanBinding stored.plan input.expectedPlanBinding with
        | .error failure => .ok (.error failure, rows)
        | .ok _ =>
        match priorReplay with
        | some replay => .ok (replay, rows)
        | none => createFromStoredPlan rows input stored

/-! ## What a creation does -/

/-- The key and the plan are unused, or were used for this very intention. -/
def intentionIsFree (creation consumedBy : Option RunCreationRecord) (command : CreateRunCommand) :
    Bool :=
  match creation, consumedBy with
  | some prior, _ => prior.intentionHash == command.intentionHash
  | none, some consumed => consumed.idempotencyKey == command.idempotencyKey &&
      consumed.intentionHash == command.intentionHash
  | none, none => true

variable {rows input}

private theorem replayCreation_error {creation : RunCreationRecord} {command : CreateRunCommand}
    (other : creation.intentionHash ≠ command.intentionHash) :
    ∃ failure, replayCreation creation command = .error failure := by
  unfold replayCreation
  rw [if_pos (by simpa using other)]
  exact ⟨_, rfl⟩

/-- What an accepted creation leaves: the rows as they were, with the Run that the key or
the plan already has, or the rows with one Run more. -/
inductive CreationEffect (rows : RunCreationRows Value) (input : CreateRunInUnitOfWorkInput)
    (run : Run) (after : RunCreationRows Value) : Prop where
  | replayed (creation : RunCreationRecord) (same : after = rows) (runEq : run = creation.run)
      (intended : creation.intentionHash = input.command.intentionHash)
      (known : rows.findCreation input.command.idempotencyKey = some creation ∨
        ∃ stored, rows.getRunPlan input.command.runPlanId = some stored ∧
          stored.consumedBy = some creation ∧
          creation.idempotencyKey = input.command.idempotencyKey)
  | created (stored : StoredRunPlan)
      (found : rows.getRunPlan input.command.runPlanId = some stored)
      (intended : stored.plan.planHash = input.command.intentionHash)
      (unused : rows.findCreation input.command.idempotencyKey = none)
      (runEq : run = queuedRun (createRunInput input stored.plan))
      (persisted : persistRunCreation rows input stored.plan
        ⟨run, runQueuedEvent (createRunInput input stored.plan)⟩ = .ok after)

/-- A refused creation changes nothing. -/
theorem createRunInUnitOfWork_refused {failure : CreateRunUseCaseFailure}
    {after : RunCreationRows Value}
    (refused : createRunInUnitOfWork rows input = .ok (.error failure, after)) : after = rows := by
  unfold createRunInUnitOfWork createFromStoredPlan at refused
  dsimp only at refused
  split at refused
  · cases refused
    rfl
  split at refused
  · cases refused
    rfl
  split at refused
  · cases refused
    rfl
  split at refused
  · cases refused
    rfl
  split at refused
  · exact (congrArg Prod.snd (Except.ok.inj refused)).symm
  split at refused
  · split at refused
    · exact (congrArg Prod.snd (Except.ok.inj refused)).symm
    · cases refused
      rfl
  split at refused
  · cases refused
    rfl
  split at refused
  · cases refused
  · cases refused

theorem createRunInUnitOfWork_ok {success : CreateRunUseCaseSuccess}
    {after : RunCreationRows Value}
    (accepted : createRunInUnitOfWork rows input = .ok (.ok success, after)) :
    CreationEffect rows input success.run after := by
  unfold createRunInUnitOfWork at accepted
  dsimp only at accepted
  split at accepted
  · cases accepted
  split at accepted
  · cases accepted
  rename_i stored found
  split at accepted
  · cases accepted
  rename_i intended
  split at accepted
  · cases accepted
  split at accepted
  · rename_i replay known
    obtain ⟨creation, creationEq, rfl⟩ := Option.map_eq_some_iff.mp known
    have result := congrArg Prod.fst (Except.ok.inj accepted)
    have same := congrArg Prod.snd (Except.ok.inj accepted)
    dsimp only at result same
    unfold replayCreation at result
    split at result
    · cases result
    · rename_i sameIntention
      cases result
      exact .replayed creation same.symm rfl (by simpa using sameIntention) (.inl creationEq)
  rename_i unused
  unfold createFromStoredPlan at accepted
  split at accepted
  · rename_i consumed consumedEq
    split at accepted
    · rename_i sameKey
      have result := congrArg Prod.fst (Except.ok.inj accepted)
      have same := congrArg Prod.snd (Except.ok.inj accepted)
      dsimp only at result same
      unfold replayCreation at result
      split at result
      · cases result
      · rename_i sameIntention
        cases result
        exact .replayed consumed same.symm rfl (by simpa using sameIntention)
          (.inr ⟨stored, found, consumedEq, by simpa using sameKey⟩)
    · cases accepted
  split at accepted
  · cases accepted
  rename_i decision decisionEq
  split at accepted
  · cases accepted
  rename_i created createdEq
  cases accepted
  obtain rfl := createRunFromPlan_ok decisionEq
  exact .created stored found (by simpa using intended) (by simpa using unused) rfl createdEq

/-- The creation that the key or else the plan already has. -/
def knownCreation (rows : RunCreationRows Value) (command : CreateRunCommand) :
    Option RunCreationRecord :=
  (rows.findCreation command.idempotencyKey).or
    ((rows.getRunPlan command.runPlanId).bind StoredRunPlan.consumedBy)

/-- `intentionIsFree` as these rows have it. -/
def intentionIsFreeIn (rows : RunCreationRows Value) (command : CreateRunCommand) : Bool :=
  intentionIsFree (rows.findCreation command.idempotencyKey)
    ((rows.getRunPlan command.runPlanId).bind StoredRunPlan.consumedBy) command

/-- A stored plan that is bound as expected and admits its Run. -/
structure CreationIsAdmitted (rows : RunCreationRows Value) (input : CreateRunInUnitOfWorkInput)
    (stored : StoredRunPlan) : Prop where
  found : rows.getRunPlan input.command.runPlanId = some stored
  intended : stored.plan.planHash = input.command.intentionHash
  bound : validateExpectedPlanBinding stored.plan input.expectedPlanBinding = .ok ()
  run : RunIsAdmitted (createRunInput input stored.plan)

variable {stored : StoredRunPlan}

/-- A key or a plan that was used for another intention refuses the creation. -/
theorem CreationIsAdmitted.refused (admitted : CreationIsAdmitted rows input stored)
    (taken : intentionIsFreeIn rows input.command = false) :
    ∃ failure, createRunInUnitOfWork rows input = .ok (.error failure, rows) := by
  unfold createRunInUnitOfWork createFromStoredPlan
  simp only [intentionIsFreeIn, admitted.found, Option.bind_some] at taken
  cases known : rows.findCreation input.command.idempotencyKey with
  | some prior =>
      have other : prior.intentionHash ≠ input.command.intentionHash := by
        simpa [known, intentionIsFree] using taken
      obtain ⟨failure, refused⟩ := replayCreation_error other
      exact ⟨failure, by simp [refused]⟩
  | none =>
      cases consumed : stored.consumedBy with
      | none => simp [known, consumed, intentionIsFree] at taken
      | some creation =>
          by_cases sameKey : creation.idempotencyKey = input.command.idempotencyKey
          · have other : creation.intentionHash ≠ input.command.intentionHash := by
              simpa [known, consumed, intentionIsFree, sameKey] using taken
            obtain ⟨failure, refused⟩ := replayCreation_error other
            exact ⟨failure, by simp [admitted.found, admitted.intended, admitted.bound, consumed,
              sameKey, refused]⟩
          · refine ⟨⟨.runPlanAlreadyConsumed, "The single-use run plan already created a run.",
              none⟩, ?_⟩
            simp [admitted.found, admitted.intended, admitted.bound, consumed, sameKey]

/-- A key or a plan that was used for this intention answers with its Run. -/
theorem CreationIsAdmitted.replayed (admitted : CreationIsAdmitted rows input stored)
    (free : intentionIsFreeIn rows input.command = true) {creation : RunCreationRecord}
    (known : knownCreation rows input.command = some creation) :
    createRunInUnitOfWork rows input = .ok (.ok ⟨creation.run, true⟩, rows) := by
  unfold createRunInUnitOfWork createFromStoredPlan
  simp only [intentionIsFreeIn, admitted.found, Option.bind_some] at free
  simp only [knownCreation, admitted.found, Option.bind_some] at known
  cases byKey : rows.findCreation input.command.idempotencyKey with
  | some prior =>
      rw [byKey] at known free
      obtain rfl : prior = creation := by simpa using known
      have same : prior.intentionHash = input.command.intentionHash := by
        simpa [intentionIsFree] using free
      simp [replayCreation, same, admitted.found, admitted.intended, admitted.bound]
  | none =>
      rw [byKey] at known free
      have consumed : stored.consumedBy = some creation := by simpa using known
      have same : creation.idempotencyKey = input.command.idempotencyKey ∧
          creation.intentionHash = input.command.intentionHash := by
        simpa [consumed, intentionIsFree] using free
      simp [replayCreation, same, admitted.found, admitted.intended, admitted.bound, consumed]

/-- An unused key and plan create the Run. -/
theorem CreationIsAdmitted.created (admitted : CreationIsAdmitted rows input stored)
    (unknown : knownCreation rows input.command = none) :
    createRunInUnitOfWork rows input =
      (persistRunCreation rows input stored.plan ⟨queuedRun (createRunInput input stored.plan),
        runQueuedEvent (createRunInput input stored.plan)⟩).map fun after =>
          (.ok ⟨queuedRun (createRunInput input stored.plan), false⟩, after) := by
  simp only [knownCreation, Option.or_eq_none_iff, admitted.found, Option.bind_some] at unknown
  have accepted := createRunFromPlan_of_admitted admitted.run
  unfold createRunInUnitOfWork createFromStoredPlan
  simp only [unknown.1, unknown.2, Option.map_none, admitted.found, admitted.intended,
    bne_self_eq_false, Bool.false_eq_true, ↓reduceIte, admitted.bound, accepted]
  cases persistRunCreation rows input stored.plan _ <;> rfl

/-- Identifiers that no Run, event or message has. -/
structure FreshIdentifiers (rows : RunCreationRows Value) (identifiers : RunIdentifiers) :
    Prop where
  run : rows.runs.findRun identifiers.nextRunId = none
  event : rows.queuedEvents.any (·.eventId == identifiers.nextEventId) = false
  message : rows.outbox.any (·.messageId == identifiers.nextOutboxMessageId) = false

/-- The rows with the Run of a decision, its event, its message and its consumption. -/
def recordRunCreation (rows : RunCreationRows Value) (input : CreateRunInUnitOfWorkInput)
    (plan : RunPlan) (decision : CreateRunDecision) : RunCreationRows Value where
  runs := rows.runs.insertRun decision.run
  runCosts := rows.runCosts ++
    [(decision.run.runId, ⟨plan.budget.reserved, plan.budget.spent, plan.budget.unit⟩)]
  runPlans := rows.runPlans.map fun stored =>
    if stored.plan.runPlanId == input.command.runPlanId then
      { stored with
        consumedBy :=
          some ⟨input.command.idempotencyKey, input.command.intentionHash, decision.run⟩ }
    else stored
  runInputs := rows.runInputs
  queuedEvents := rows.queuedEvents ++ [decision.event]
  outbox := rows.outbox ++ [runQueuedMessage input decision]

/-- With fresh identifiers, an unused key and plan can be written. -/
theorem persistRunCreation_fresh (fresh : FreshIdentifiers rows input.identifiers)
    (found : rows.getRunPlan input.command.runPlanId = some stored)
    (unknown : knownCreation rows input.command = none) :
    persistRunCreation rows input stored.plan ⟨queuedRun (createRunInput input stored.plan),
        runQueuedEvent (createRunInput input stored.plan)⟩ =
      .ok (recordRunCreation rows input stored.plan
        ⟨queuedRun (createRunInput input stored.plan),
          runQueuedEvent (createRunInput input stored.plan)⟩) := by
  simp only [knownCreation, Option.or_eq_none_iff, found, Option.bind_some] at unknown
  obtain ⟨unused, unconsumed⟩ := unknown
  have keyUnused : rows.runs.findByIdempotencyKey input.command.idempotencyKey = none := by
    simpa [RunCreationRows.findCreation] using unused
  have plan : rows.runPlans.find? (fun stored => stored.plan.runPlanId == input.command.runPlanId) =
      some stored := found
  simp only [persistRunCreation, RunCreationRows.insertRun, queuedRun, createRunInput, fresh.run,
    keyUnused, Option.isSome_none, Bool.or_self, Bool.false_eq_true, ↓reduceIte,
    RunCreationRows.appendQueuedEvent, runQueuedEvent, fresh.event,
    RunCreationRows.appendOutbox, runQueuedMessage, fresh.message, RunCreationRows.markConsumed,
    RunCreationRows.getRunPlan, plan, Option.any_some, unconsumed, Option.isNone_none, bind,
    Except.bind]
  rfl

theorem persistRunCreation_ok {after : RunCreationRows Value} {plan : RunPlan}
    {decision : CreateRunDecision} (persisted : persistRunCreation rows input plan decision =
      .ok after) : after = recordRunCreation rows input plan decision ∧
        rows.runs.findRun decision.run.runId = none ∧
          rows.runs.findByIdempotencyKey decision.run.idempotencyKey = none := by
  unfold persistRunCreation at persisted
  obtain ⟨inserted, insertedEq, persisted⟩ := bind_eq_ok.mp persisted
  obtain ⟨appended, appendedEq, persisted⟩ := bind_eq_ok.mp persisted
  obtain ⟨announced, announcedEq, persisted⟩ := bind_eq_ok.mp persisted
  unfold RunCreationRows.insertRun at insertedEq
  split at insertedEq
  · cases insertedEq
  rename_i unused
  cases insertedEq
  unfold RunCreationRows.appendQueuedEvent at appendedEq
  split at appendedEq
  · cases appendedEq
  cases appendedEq
  unfold RunCreationRows.appendOutbox at announcedEq
  split at announcedEq
  · cases announcedEq
  cases announcedEq
  unfold RunCreationRows.markConsumed at persisted
  split at persisted
  · cases persisted
    simp only [Bool.or_eq_true, not_or, Bool.not_eq_true, Option.isSome_eq_false_iff,
      Option.isNone_iff_eq_none] at unused
    exact ⟨rfl, unused⟩
  · cases persisted

end Creation

end Kurobara.Application
