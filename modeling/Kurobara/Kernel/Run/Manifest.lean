import Kurobara.Kernel.Run.Plan

/-! # Result manifests

The durable proof that a terminal Run carries: its step coverage, its accepted
output, and the settlements of its attempts; and the artifact of an accepted output.
-/

namespace Kurobara.Kernel

/-- A finalized normalized output. -/
structure Artifact where
  artifactId : ArtifactId
  attemptId : AttemptId
  contentHash : ContentHash
  contract : ContractRef
  finalizedAt : Instant
  operationKey : OperationKey
  runId : RunId
  sizeBytes : ℕ
  stepRunId : StepRunId
  validatedAt : Instant
  validatorVersion : String
  workspaceId : WorkspaceId
  deriving DecidableEq, Repr

def artifactRef (artifact : Artifact) : ArtifactRef :=
  ⟨artifact.artifactId, artifact.contentHash⟩

/-- How much of its result a Run gave. -/
inductive ResultCompleteness where
  | none
  | partialResult
  | complete
  deriving DecidableEq, Repr

/-- How a Run was concluded. -/
inductive RunConclusion where
  | completed
  | failed
  deriving DecidableEq, Repr

structure ResultManifestRef where
  manifestHash : ContentHash
  resultManifestId : ResultManifestId
  deriving DecidableEq, Repr

inductive ResultManifestMissingReason where
  | blockedByDependency
  | resultReferenceNotPersisted
  | stepFailed
  deriving DecidableEq, Repr

/-- What a step gave to the result. -/
inductive ResultManifestEntryResult where
  | accepted (output : ValidatedOutputRef)
  | missing (reason : ResultManifestMissingReason)
  deriving DecidableEq, Repr

inductive ResultManifestEntryState where
  | failed
  | skipped
  | succeeded
  deriving DecidableEq, Repr

/-- What the manifest says of one step. -/
structure ResultManifestEntry where
  nodeKey : String
  result : ResultManifestEntryResult
  state : ResultManifestEntryState
  stepAggregateVersion : ℕ
  stepEventSequence : ℕ
  stepRunId : StepRunId
  blockedByNodeKeys : Option (List String)
  terminalAttemptId : Option AttemptId
  deriving DecidableEq, Repr

inductive SettlementDisposition where
  | released
  | settled
  deriving DecidableEq, Repr

/-- What the manifest says of one attempt's cost. -/
structure ResultManifestAttemptSettlement where
  attemptId : AttemptId
  disposition : SettlementDisposition
  operationKey : OperationKey
  releasedAmount : Amount
  reservationId : CostReservationId
  unit : String
  settledAmount : Option Amount
  usageEntryId : Option UsageEntryId
  deriving DecidableEq, Repr

inductive ResultManifestOutputMissing where
  | resultProofMissing
  | runFailed
  deriving DecidableEq, Repr

/-- The output of the Run's sink. -/
inductive ResultManifestOutput where
  | accepted (output : ValidatedOutputRef)
  | missing (reason : ResultManifestOutputMissing)
  deriving DecidableEq, Repr

/-- What a Run has spent and still reserves. -/
structure ResultManifestCost where
  reserved : Amount
  spent : Amount
  unit : String
  deriving DecidableEq, Repr

/-- Coverage is always complete and the version always one. -/
structure ResultManifest where
  attemptSettlements : List ResultManifestAttemptSettlement
  compiledWorkflowFingerprint : String
  conclusion : RunConclusion
  cost : ResultManifestCost
  createdAt : Instant
  entries : List ResultManifestEntry
  output : ResultManifestOutput
  outputContract : ContractRef
  planHash : ContentHash
  resultCompleteness : ResultCompleteness
  runId : RunId
  runPlanId : RunPlanId
  sourceRunAggregateVersion : ℕ
  workspaceId : WorkspaceId
  manifestHash : ContentHash
  resultManifestId : ResultManifestId
  deriving DecidableEq, Repr

def resultManifestRef (manifest : ResultManifest) : ResultManifestRef :=
  ⟨manifest.manifestHash, manifest.resultManifestId⟩

end Kurobara.Kernel
