import Kurobara.Kernel.Values
import Kurobara.Foundation.RevisionLog

/-! # GTM rows

The stored Plays, Play runs and Workbooks: their records and the statements that read and
write them. A table lists its rows in the order of their insertion; each statement runs in
a transaction of its own. Numbers that no check requires to be integers are rationals.
-/

namespace Kurobara.Persistence

open Kurobara.Kernel Kurobara.Foundation

/-! ## Plays -/

/-- A revision of a context. -/
structure GtmContextRevisionRef where
  contextId : String
  fingerprint : ContentHash
  revision : ℤ
deriving DecidableEq, Repr

structure GtmPlayFieldMapping where
  countryCode : Option String
  domain : String
  name : Option String
deriving DecidableEq, Repr

/-- Where the companies of a Play come from. -/
inductive GtmPlaySource where
  | organizationSearch (countries industries keywords : List String)
  | importedDataset (datasetId : DatasetId) (defaultCountryCode : Option String)
      (fieldMapping : GtmPlayFieldMapping) (materializationId : DatasetMaterializationId)
deriving DecidableEq, Repr

structure GtmPlayApprovals where
  exportData : Bool
  providerSpend : Bool
  reveal : Bool
deriving DecidableEq, Repr

/-- Who the contacts of a Play are. -/
structure GtmPlayAudience where
  companyCountries : List String
  departments : List String
  personCountries : List String
  seniorities : List String
  titles : List String
deriving DecidableEq, Repr

inductive GtmPlayBroadening where
  | forbidden
  | humanApproval
deriving DecidableEq, Repr

structure GtmPlayBudget where
  limit : Amount
  unit : String
deriving DecidableEq, Repr

structure GtmPlayObjective where
  metric : String
  target : ℚ
  text : String
deriving DecidableEq, Repr

/-- The bounds of a preview. -/
structure GtmPlayPreviewBounds where
  maxCompanies : ℚ
  maxContactsPerCompany : ℚ
  maxContactsTotal : ℚ
  maxProviderCalls : ℚ
  sampleSize : ℚ
deriving DecidableEq, Repr

/-- Which companies are selected. -/
structure GtmPlaySelection where
  minimumScore : ℚ
  requiredSignals : List String
deriving DecidableEq, Repr

/-- A Play definition. Its delivery mode is `no_send` by type and therefore left out. -/
structure GtmPlayDefinition where
  approvals : GtmPlayApprovals
  authorityEnvelopeId : String
  audience : GtmPlayAudience
  broadening : GtmPlayBroadening
  budget : GtmPlayBudget
  capabilities : List String
  contextRef : GtmContextRevisionRef
  deadlineMs : Instant
  privateExport : Bool
  exclusions : List String
  objective : GtmPlayObjective
  playId : String
  preview : GtmPlayPreviewBounds
  selection : GtmPlaySelection
  source : GtmPlaySource
  stopConditions : List String
deriving DecidableEq, Repr

/-- The lifecycle of a revision. -/
inductive GtmPlayLifecycle where
  | active
  | approved
  | awaitingApproval
  | draft
  | paused
  | previewed
  | retired
  | validated
deriving DecidableEq, Repr

/-- A stage of a compiled Play. -/
structure GtmCompiledStage where
  capability : Option String
  inputFingerprint : ContentHash
  operationId : String
  ordinal : ℕ
deriving DecidableEq, Repr

structure GtmPlayQuotedBudget where
  limit : Amount
  quotedUpperBound : ℚ
  unit : String
deriving DecidableEq, Repr

/-- A compilation. Its export mode is `no_send` by type and therefore left out. -/
structure GtmPlayCompilation where
  assumptions : List String
  humanGates : List String
  permissions : List String
  budget : GtmPlayQuotedBudget
  deadlineMs : Instant
  intentionHash : ContentHash
  stages : List GtmCompiledStage
deriving DecidableEq, Repr

/-- A stored revision of a Play. -/
structure StoredGtmPlayRevision where
  compilation : GtmPlayCompilation
  createdAtMs : Instant
  createdByActorId : ActorId
  definition : GtmPlayDefinition
  fingerprint : ContentHash
  lifecycle : GtmPlayLifecycle
  playId : String
  revision : ℕ
  workspaceId : WorkspaceId
deriving DecidableEq, Repr

/-- What is written of a revision. -/
structure GtmPlayRevisionWrite where
  compilation : GtmPlayCompilation
  createdAtMs : Instant
  createdByActorId : ActorId
  definition : GtmPlayDefinition
  expectedBaseRevision : Option ℤ
  fingerprint : ContentHash
  lifecycle : GtmPlayLifecycle
deriving DecidableEq, Repr

/-! ## Play runs -/

/-- The states of a Play run. -/
inductive GtmPlayRunState where
  | cancelled
  | completed
  | failed
  | paused
  | queued
  | running
deriving DecidableEq, Repr

inductive GtmPlayRunStageState where
  | completed
  | failed
  | pending
  | running
deriving DecidableEq, Repr

structure GtmPlayCost where
  reserved : Amount
  spent : Amount
  unit : String
deriving DecidableEq, Repr

/-- What a stage of a Play run reports. -/
structure GtmPlayRunStageReceipt where
  cost : GtmPlayCost
  datasetId : Option DatasetId
  generationId : Option String
  materializationId : Option DatasetMaterializationId
  operationId : String
  ordinal : ℕ
  providerCalls : ℚ
  recordCount : Option ℚ
  state : GtmPlayRunStageState
deriving DecidableEq, Repr

structure GtmWorkbookSelectionReason where
  reasons : List String
  recordId : String
deriving DecidableEq, Repr

/-- What a completed Play run gives. -/
structure GtmPlayRunResult where
  datasetId : DatasetId
  exportReady : Bool
  materializationId : DatasetMaterializationId
  recordCount : ℚ
  workbookId : String
deriving DecidableEq, Repr

structure GtmPlayError where
  code : String
  message : String
  retryable : Bool
deriving DecidableEq, Repr

/-- The progress of a Play run. -/
structure GtmPlayRunExecution where
  cost : GtmPlayCost
  currentStageOrdinal : Option ℕ
  error : Option GtmPlayError
  providerCalls : ℚ
  provenance : List String
  result : Option GtmPlayRunResult
  selectedRecordIds : List String
  selectionReasons : List GtmWorkbookSelectionReason
  stages : List GtmPlayRunStageReceipt
deriving DecidableEq, Repr

structure GtmPlayRunActor where
  actorId : ActorId
  permissions : List String
deriving DecidableEq, Repr

/-- A stored Play run. -/
structure StoredGtmPlayRun where
  compilation : GtmPlayCompilation
  createdAtMs : Instant
  definition : GtmPlayDefinition
  execution : GtmPlayRunExecution
  executionActor : GtmPlayRunActor
  idempotencyKey : String
  playId : String
  playRevision : ℕ
  revision : ℕ
  runId : String
  state : GtmPlayRunState
  updatedAtMs : Instant
  workspaceId : WorkspaceId
deriving DecidableEq, Repr

/-- What is written of a new Play run. -/
structure GtmPlayRunWrite where
  compilation : GtmPlayCompilation
  createdAtMs : Instant
  definition : GtmPlayDefinition
  execution : GtmPlayRunExecution
  executionActor : GtmPlayRunActor
  idempotencyKey : String
  playId : String
  playRevision : ℕ
  runId : String
deriving DecidableEq, Repr

/-- A worker's claim on a run: its token and when the lease expires. -/
structure PlayRunLease where
  claimExpiresAtMs : Instant
  claimToken : String
  workerId : String
deriving DecidableEq, Repr

/-- A row of `gtm_play_runs`: the run and the claim columns, all set or all null. -/
structure PlayRunRow where
  run : StoredGtmPlayRun
  claim : Option PlayRunLease
deriving DecidableEq, Repr

/-! ## The tables of Plays and their runs -/

/-- The tables of Plays and of their runs. -/
structure GtmPlayTables where
  plays : List StoredGtmPlayRevision
  runs : List PlayRunRow
deriving DecidableEq, Repr

def GtmPlayTables.empty : GtmPlayTables where
  plays := []
  runs := []

/-- The rows of one Play of a workspace. -/
def playRows (plays : List StoredGtmPlayRevision) (workspaceId : WorkspaceId) (playId : String) :
    List StoredGtmPlayRevision :=
  plays.filter fun row => row.workspaceId == workspaceId && row.playId == playId

/-- `playSelect` without a revision. -/
def latestPlayRevision (plays : List StoredGtmPlayRevision) (workspaceId : WorkspaceId)
    (playId : String) : Option StoredGtmPlayRevision :=
  latestRow StoredGtmPlayRevision.revision (playRows plays workspaceId playId)

/-- The row that `putPlayRevision` takes for the one to be written. -/
def existingPlayRevision (plays : List StoredGtmPlayRevision) (workspaceId : WorkspaceId)
    (input : GtmPlayRevisionWrite) : Option StoredGtmPlayRevision :=
  (playRows plays workspaceId input.definition.playId).find? fun row =>
    row.fingerprint == input.fingerprint && row.lifecycle == input.lifecycle

/-- What the store answers to a revision. -/
inductive GtmPlayRevisionWriteResult where
  | created (revision : StoredGtmPlayRevision)
  | existing (revision : StoredGtmPlayRevision)
  | conflict
deriving DecidableEq, Repr

/-- The row that a revision is stored as. -/
def playRevisionRow (workspaceId : WorkspaceId) (input : GtmPlayRevisionWrite) (revision : ℕ) :
    StoredGtmPlayRevision where
  compilation := input.compilation
  createdAtMs := input.createdAtMs
  createdByActorId := input.createdByActorId
  definition := input.definition
  fingerprint := input.fingerprint
  lifecycle := input.lifecycle
  playId := input.definition.playId
  revision := revision
  workspaceId := workspaceId

def putPlayRevision (plays : List StoredGtmPlayRevision) (workspaceId : WorkspaceId)
    (input : GtmPlayRevisionWrite) :
    List StoredGtmPlayRevision × GtmPlayRevisionWriteResult :=
  match existingPlayRevision plays workspaceId input with
  | some row => (plays, .existing row)
  | none =>
      let latest := latestRevision StoredGtmPlayRevision.revision
        (playRows plays workspaceId input.definition.playId)
      if input.expectedBaseRevision.any (· != (latest : ℤ)) then (plays, .conflict)
      else
        let row := playRevisionRow workspaceId input (latest + 1)
        (plays ++ [row], .created row)

/-- Writing a revision answers an existing row, refuses a stale base, or appends the row
after the latest one. -/
theorem putPlayRevision_cases (plays : List StoredGtmPlayRevision) (workspaceId : WorkspaceId)
    (input : GtmPlayRevisionWrite) :
    (∃ row, existingPlayRevision plays workspaceId input = some row ∧
      putPlayRevision plays workspaceId input = (plays, .existing row)) ∨
    putPlayRevision plays workspaceId input = (plays, .conflict) ∨
    ∃ row, row = playRevisionRow workspaceId input
        (latestRevision StoredGtmPlayRevision.revision
          (playRows plays workspaceId input.definition.playId) + 1) ∧
      existingPlayRevision plays workspaceId input = none ∧
      (∀ base, input.expectedBaseRevision = some base →
        base = latestRevision StoredGtmPlayRevision.revision
          (playRows plays workspaceId input.definition.playId)) ∧
      putPlayRevision plays workspaceId input = (plays ++ [row], .created row) := by
  cases found : existingPlayRevision plays workspaceId input with
  | some row => exact .inl ⟨row, rfl, by simp [putPlayRevision, found]⟩
  | none =>
      refine .inr ?_
      by_cases stale : input.expectedBaseRevision.any (· !=
          ((latestRevision StoredGtmPlayRevision.revision
            (playRows plays workspaceId input.definition.playId) : ℕ) : ℤ)) = true
      · exact .inl (by simp [putPlayRevision, found, stale])
      · refine .inr ⟨_, rfl, rfl, ?_, by simp [putPlayRevision, found, stale]⟩
        intro base expected
        simpa [expected] using stale

theorem existingPlayRevision_eq_some {plays : List StoredGtmPlayRevision}
    {workspaceId : WorkspaceId} {input : GtmPlayRevisionWrite} {row : StoredGtmPlayRevision}
    (found : existingPlayRevision plays workspaceId input = some row) :
    row ∈ playRows plays workspaceId input.definition.playId ∧
      row.fingerprint = input.fingerprint ∧ row.lifecycle = input.lifecycle :=
  ⟨List.mem_of_find?_eq_some found, by simpa using List.find?_some found⟩

theorem existingPlayRevision_eq_none {plays : List StoredGtmPlayRevision}
    {workspaceId : WorkspaceId} {input : GtmPlayRevisionWrite}
    (absent : existingPlayRevision plays workspaceId input = none) {row : StoredGtmPlayRevision}
    (member : row ∈ playRows plays workspaceId input.definition.playId)
    (content : row.fingerprint = input.fingerprint) : row.lifecycle ≠ input.lifecycle := by
  have differs := List.find?_eq_none.mp absent row member
  simpa [content] using differs

theorem playRows_append_self {plays : List StoredGtmPlayRevision} {row : StoredGtmPlayRevision} :
    playRows (plays ++ [row]) row.workspaceId row.playId =
      playRows plays row.workspaceId row.playId ++ [row] := by
  simp [playRows]

theorem playRows_append_other {plays : List StoredGtmPlayRevision} {row : StoredGtmPlayRevision}
    {workspaceId : WorkspaceId} {playId : String}
    (other : ¬(row.workspaceId = workspaceId ∧ row.playId = playId)) :
    playRows (plays ++ [row]) workspaceId playId = playRows plays workspaceId playId := by
  simpa [playRows] using other

/-- What the store answers to a new run. -/
inductive GtmPlayRunWriteResult where
  | created (run : StoredGtmPlayRun)
  | existing (run : StoredGtmPlayRun)
  | conflict
  | violation
deriving DecidableEq, Repr

/-- The row that a run is stored as. -/
def playRunRow (workspaceId : WorkspaceId) (input : GtmPlayRunWrite) : StoredGtmPlayRun where
  compilation := input.compilation
  createdAtMs := input.createdAtMs
  definition := input.definition
  execution := input.execution
  executionActor := input.executionActor
  idempotencyKey := input.idempotencyKey
  playId := input.playId
  playRevision := input.playRevision
  revision := 1
  runId := input.runId
  state := .queued
  updatedAtMs := input.createdAtMs
  workspaceId := workspaceId

/-- A run is found by its idempotency key; an insert whose identity is taken violates the
primary key, and the call throws. -/
def createPlayRun (runs : List PlayRunRow) (workspaceId : WorkspaceId) (input : GtmPlayRunWrite) :
    List PlayRunRow × GtmPlayRunWriteResult :=
  match runs.find? fun row => row.run.workspaceId == workspaceId &&
      row.run.idempotencyKey == input.idempotencyKey with
  | some row =>
      if row.run.playId == input.playId && row.run.playRevision == input.playRevision &&
          row.run.compilation.intentionHash == input.compilation.intentionHash then
        (runs, .existing row.run)
      else (runs, .conflict)
  | none =>
      if runs.any fun row => row.run.workspaceId == workspaceId && row.run.runId == input.runId then
        (runs, .violation)
      else
        let run := playRunRow workspaceId input
        (runs ++ [{ run := run, claim := none }], .created run)

end Kurobara.Persistence
