import Kurobara.Kernel.Product

/-! # Cell results

The result of one recipe on one record: `createCellResult` with the checks of its
status, evidence and cost, and `transitionCellResult`. A terminal result is immutable
except for an exact replay.
-/

namespace Kurobara.Kernel

def maxProvenanceReferences : ℕ := 32
def maxProvenanceReferenceLength : ℕ := 2048
def maxReasonCodeLength : ℕ := 128
def maxReasonMessageLength : ℕ := 1024
def maxCostUnitLength : ℕ := 64

abbrev CellResultId := String
abbrev EnrichmentRecipeId := String

/-! ## Recipes and results -/

/-- How a field of a dataset is computed from others. -/
structure EnrichmentRecipe where
  datasetId : DatasetId
  enrichmentRecipeId : EnrichmentRecipeId
  inputFieldIds : List FieldId
  name : String
  recipeRevision : String
  targetFieldId : FieldId
  workflowContentHash : ContentHash
  workflowRevision : String
  workflowSpecId : String
  workspaceId : WorkspaceId
  deriving DecidableEq, Repr

/-- The states of a cell. -/
inductive CellResultStatus where
  | pending
  | running
  | succeeded
  | failed
  | skipped
  deriving DecidableEq, Repr

def CellResultStatus.text : CellResultStatus → String
  | .pending => "pending"
  | .running => "running"
  | .succeeded => "succeeded"
  | .failed => "failed"
  | .skipped => "skipped"

/-- The references a value rests on. -/
structure CellResultProvenance where
  references : List String
  deriving DecidableEq, Repr

/-- When a value was observed, and until when it counts. -/
structure CellResultFreshness where
  observedAt : Instant
  expiresAt : Option Instant
  deriving DecidableEq, Repr

inductive CellCostBasis where
  | estimated
  | exact
  deriving DecidableEq, Repr

/-- What a value cost. -/
structure CellResultCost where
  amount : Amount
  basis : CellCostBasis
  unit : String
  deriving DecidableEq, Repr

/-- Why a cell failed or was skipped. -/
structure CellResultReason where
  code : String
  message : String
  retryable : Bool
  deriving DecidableEq, Repr

/-- The result of one recipe on one record. -/
structure CellResult where
  cellResultId : CellResultId
  datasetId : DatasetId
  enrichmentRecipeId : EnrichmentRecipeId
  fieldId : FieldId
  recipeRevision : String
  recordId : RecordId
  runId : RunId
  status : CellResultStatus
  workspaceId : WorkspaceId
  confidence : Option ℚ
  cost : Option CellResultCost
  freshness : Option CellResultFreshness
  provenance : Option CellResultProvenance
  reason : Option CellResultReason
  value : Option ScalarValue
  deriving DecidableEq, Repr

/-! ## Patterns -/

private def isCostUnitCharacter (character : Char) : Bool :=
  isLowerLetter character || character.isDigit || character == '.' || character == '_' ||
    character == '-'

/-- `/^[a-z][a-z0-9._-]*$/u`. -/
def costUnitMatches (unit : String) : Bool :=
  match unit.toList with
  | [] => false
  | head :: rest => isLowerLetter head && rest.all isCostUnitCharacter

private def isReasonCharacter (character : Char) : Bool :=
  isLowerLetter character || character.isDigit

/-- `/^[a-z][a-z0-9]*(?:-[a-z0-9]+)*$/u`. -/
def reasonCodeMatches (code : String) : Bool :=
  (code.toList.head?.any isLowerLetter) &&
    (code.toList.splitOn '-').all fun part => !part.isEmpty && part.all isReasonCharacter

/-! ## Creation -/

def validateProvenance : Option CellResultProvenance → Except ProductFailure Unit
  | none => .ok ()
  | some provenance =>
      if provenance.references.isEmpty ||
          decide (maxProvenanceReferences < provenance.references.length) ||
          !decide provenance.references.Nodup ||
          provenance.references.any (!isBoundedText · maxProvenanceReferenceLength) then
        .error ⟨.cellResultProvenanceInvalid,
          "Cell-result provenance requires between 1 and 32 unique bounded references."⟩
      else .ok ()

/-- The observation is an instant, and not after the expiry. -/
def freshnessIsValid (freshness : CellResultFreshness) : Bool :=
  nonNegativeSafeInteger freshness.observedAt &&
    freshness.expiresAt.all fun expiresAt =>
      isSafeInteger expiresAt && decide (freshness.observedAt ≤ expiresAt)

def validateFreshness : Option CellResultFreshness → Except ProductFailure Unit
  | none => .ok ()
  | some freshness =>
      if freshnessIsValid freshness then .ok ()
      else .error ⟨.cellResultFreshnessInvalid, "Cell-result freshness requires safe " ++
        "non-negative instants and expiration no earlier than observation."⟩

/-- A confidence is a number from 0 to 1. -/
def confidenceIsValid (confidence : ℚ) : Bool :=
  decide (0 ≤ confidence) && decide (confidence ≤ 1)

def validateConfidence : Option ℚ → Except ProductFailure Unit
  | none => .ok ()
  | some confidence =>
      if confidenceIsValid confidence then .ok ()
      else .error ⟨.cellResultConfidenceInvalid,
        "Cell-result confidence must be a finite number between 0 and 1."⟩

/-- A unit that matches the pattern is ASCII, so its code points are its code units. -/
def costIsValid (cost : CellResultCost) : Bool :=
  decide (codePointLength cost.unit ≤ maxCostUnitLength) && costUnitMatches cost.unit &&
    decide (0 ≤ cost.amount) && decide (cost.amount ≤ maxScalarNumber)

def validateCost : Option CellResultCost → Except ProductFailure Unit
  | none => .ok ()
  | some cost =>
      if costIsValid cost then .ok ()
      else .error ⟨.cellResultCostInvalid, "Cell-result cost requires a bounded non-negative " ++
        "amount, valid unit, and exact or estimated basis."⟩

/-- Code and message of a reason are within their bounds. -/
def reasonIsValid (reason : CellResultReason) : Bool :=
  decide (codePointLength reason.code ≤ maxReasonCodeLength) && reasonCodeMatches reason.code &&
    isBoundedText reason.message maxReasonMessageLength

private def cellStatusFailure (message : String) : Except ProductFailure Unit :=
  .error ⟨.cellResultStatusInvalid, message⟩

/-- What each status may and must carry. -/
def validateCellStatus (input : CellResult) (target : Field) : Except ProductFailure Unit :=
  let succeeded := input.status == .succeeded
  let unsuccessful := input.status == .failed || input.status == .skipped
  let unfinished := input.status == .pending || input.status == .running
  if succeeded && (!input.value.any isBoundedScalar || input.reason.isSome) then
    cellStatusFailure
      "A succeeded cell result requires one explicit scalar value and no failure reason."
  else if unsuccessful && (input.reason.isNone || input.value.isSome) then
    cellStatusFailure ("A failed or skipped cell result requires a redacted reason and cannot " ++
      "contain a value.")
  else if unfinished && (input.value.isSome || input.reason.isSome) then
    cellStatusFailure
      "A pending or running cell result cannot claim a terminal value or reason."
  else if input.value.any fun value => isBoundedScalar value && !valueMatchesField value target then
    .error ⟨.cellResultValueInvalid,
      "A non-null cell-result value must match its target field value type."⟩
  else if input.reason.any (!reasonIsValid ·) then
    .error ⟨.cellResultReasonInvalid, "A cell-result reason requires a stable code, bounded " ++
      "redacted message, and retryability flag."⟩
  else .ok ()

/-- The scope that a cell result, its record and its recipe share. -/
def cellScopeMatches (dataset : Dataset) (record : DatasetRecord) (recipe : EnrichmentRecipe)
    (input : CellResult) : Bool :=
  input.datasetId == dataset.datasetId && input.workspaceId == dataset.workspaceId &&
    record.datasetId == dataset.datasetId && record.workspaceId == dataset.workspaceId &&
    recipe.datasetId == dataset.datasetId && recipe.workspaceId == dataset.workspaceId &&
    input.recordId == record.recordId && input.enrichmentRecipeId == recipe.enrichmentRecipeId

/-- The checks of what a cell result holds, in their order. -/
def validateCellContent (input : CellResult) (target : Field) : Except ProductFailure Unit := do
  validateCellStatus input target
  validateProvenance input.provenance
  validateFreshness input.freshness
  validateConfidence input.confidence
  validateCost input.cost

/-- `createCellResult`: the cell against its dataset, field, record and recipe. -/
def createCellResult (dataset : Dataset) (fields : List Field) (record : DatasetRecord)
    (recipe : EnrichmentRecipe) (input : CellResult) : Except ProductFailure CellResult :=
  if !(isBoundedIdentity input.cellResultId && isBoundedIdentity input.runId) then
    .error ⟨.productIdentityInvalid,
      "Product identities must contain between 1 and 255 characters."⟩
  else if !cellScopeMatches dataset record recipe input then
    .error ⟨.cellResultScopeMismatch, "A cell result, record, and recipe must share the same " ++
      "dataset scope and identities."⟩
  else if input.recipeRevision != recipe.recipeRevision then
    .error ⟨.cellResultRecipeRevisionMismatch,
      "A cell result must reference the exact enrichment recipe revision."⟩
  else
    match indexFields dataset fields with
    | .error failure => .error failure
    | .ok indexed =>
        match indexed.find? fun field => field.fieldId == input.fieldId with
        | none => .error ⟨.cellResultTargetMismatch,
            "A cell result must target the recipe field in the same dataset."⟩
        | some target =>
            if input.fieldId != recipe.targetFieldId then
              .error ⟨.cellResultTargetMismatch,
                "A cell result must target the recipe field in the same dataset."⟩
            else (validateCellContent input target).map fun _ => input

/-- A created cell result is the given one. -/
theorem createCellResult_ok {dataset : Dataset} {fields : List Field} {record : DatasetRecord}
    {recipe : EnrichmentRecipe} {input created : CellResult}
    (accepted : createCellResult dataset fields record recipe input = .ok created) :
    created = input := by
  unfold createCellResult at accepted
  split at accepted
  · cases accepted
  split at accepted
  · cases accepted
  split at accepted
  · cases accepted
  split at accepted
  · cases accepted
  split at accepted
  · cases accepted
  split at accepted
  · cases accepted
  rename_i target _ _
  cases content : validateCellContent input target with
  | error failure =>
      rw [content] at accepted
      cases accepted
  | ok checked =>
      rw [content] at accepted
      exact (Except.ok.inj accepted).symm

/-! ## Transitions -/

inductive CellResultTransitionFailureCode where
  | identityMismatch
  | terminalImmutable
  | transitionInvalid
  deriving DecidableEq, Repr

structure CellResultTransitionFailure where
  code : CellResultTransitionFailureCode
  currentStatus : CellResultStatus
  message : String
  requestedStatus : CellResultStatus
  deriving DecidableEq, Repr

/-- A cell after a request, and whether the request was a replay. -/
structure CellResultTransition where
  cellResult : CellResult
  replayed : Bool
  deriving DecidableEq, Repr

/-- Failed, skipped and succeeded cells do not change. -/
def cellStatusIsTerminal : CellResultStatus → Bool
  | .failed | .skipped | .succeeded => true
  | .pending | .running => false

/-- The two cells are of the same recipe, field, record and Run. -/
def hasSameIdentity (left right : CellResult) : Bool :=
  left.cellResultId == right.cellResultId && left.datasetId == right.datasetId &&
    left.enrichmentRecipeId == right.enrichmentRecipeId && left.fieldId == right.fieldId &&
    left.recipeRevision == right.recipeRevision && left.recordId == right.recordId &&
    left.runId == right.runId && left.workspaceId == right.workspaceId

def cellTransitionIsAllowed : CellResultStatus → CellResultStatus → Bool
  | .pending, requested => requested == .running || cellStatusIsTerminal requested
  | .running, requested => cellStatusIsTerminal requested
  | _, _ => false

/-- A request that agrees with the current result on every field repeats it. -/
def transitionCellResult (current requested : CellResult) :
    Except CellResultTransitionFailure CellResultTransition :=
  if !hasSameIdentity current requested then
    .error ⟨.identityMismatch, current.status,
      "A cell-result transition must preserve its exact durable identity.", requested.status⟩
  else if current = requested then .ok ⟨current, true⟩
  else if cellStatusIsTerminal current.status then
    .error ⟨.terminalImmutable, current.status,
      "A terminal cell result is immutable except for an exact replay.", requested.status⟩
  else if !cellTransitionIsAllowed current.status requested.status then
    .error ⟨.transitionInvalid, current.status, "A cell result cannot transition from " ++
      s!"{current.status.text} to {requested.status.text}.", requested.status⟩
  else .ok ⟨requested, false⟩

end Kurobara.Kernel
