import Kurobara.Application.AuthorizeDatasetGenerationPage
import Kurobara.Application.CheckpointProof
import Kurobara.Application.CreateRunFromPlan
import Kurobara.Application.PrepareRunPlan

/-! # Planning a page Run

`preparePageRun`: the input, the workflow of one node and the Run plan with which a page
of a generation is executed. What is left of the hard execution cap bounds the plan and
each of its routes. Canonical hashes are parameters.
-/

namespace Kurobara.Application

open Engine Kernel Persistence

/-- `MAX_RUN_INPUT_BYTES`. -/
def maxRunInputBytes : ℕ := 65536

def pageCompilerVersion : String := "1.0.0"

/-- The validated input of a page Run, as the source builds it before hashing. -/
structure DatasetGenerationPageInput where
  capability : CapabilityRef
  datasetId : DatasetId
  fields : List Field
  generationId : DatasetGenerationId
  generationPlanId : DatasetGenerationPlanId
  inputCursor : Option String
  limits : DatasetGenerationLimits
  normalizedQuery : DatasetGenerationQueryValue
  pageSequence : ℤ
  planHash : ContentHash
  queryHash : ContentHash
  schemaHash : ContentHash
  workspaceId : WorkspaceId

/-- The canonical hashes of page planning. Each of them is a SHA-256 content hash, and the
hashes of plans do not collide, so plans of one hash have one identity. -/
structure PageCanonicalization (Value : Type) where
  inputValue : DatasetGenerationPageInput → Value
  evidence : ContentEvidence Value
  pageIdentity : DatasetGenerationId → ℤ → ContentHash
  workflowHash : WorkflowSpec → ContentHash
  runPlanHash : RunPlanDraft → ContentHash
  inputIdentity : ContentHash → ContractRef → RunPlanId → WorkspaceId → ContentHash
  evidence_valid : ∀ value, contentHashIsValid (evidence.contentHash value) = true
  pageIdentity_valid : ∀ generationId pageSequence,
    contentHashIsValid (pageIdentity generationId pageSequence) = true
  runPlanHash_identity : ∀ left right, runPlanHash left = runPlanHash right →
    left.runPlanId = right.runPlanId
  inputIdentity_valid : ∀ contentHash contract runPlanId workspaceId,
    contentHashIsValid (inputIdentity contentHash contract runPlanId workspaceId) = true

section Planning

variable {Value : Type} (canonical : PageCanonicalization Value)
  (generationId : DatasetGenerationId) (plan : DatasetGenerationPlan)
  (creation : DatasetGenerationCreation) (pageSequence : ℤ) (inputCursor : Option String)

def pageIdentitySuffix : String :=
  hashDigits (canonical.pageIdentity generationId pageSequence)

/-- `generationPageInput`: the page request that the capability of the page Run receives. -/
def generationPageInput : DatasetGenerationPageInput :=
  let counters := creation.generation.counters
  { capability := plan.requestIntent.capability
    datasetId := plan.requestIntent.targetDataset.datasetId
    fields := plan.requestIntent.fields
    generationId := generationId
    generationPlanId := plan.generationPlanId
    inputCursor := inputCursor
    limits := Function.update plan.limits .maxResults
      (min (datasetGenerationAcceptedRecordLimit plan - counters.accepted)
        (plan.limits .maxResults - counters.returned))
    normalizedQuery := plan.normalizedQuery
    pageSequence := pageSequence
    planHash := plan.planHash
    queryHash := plan.queryHash
    schemaHash := plan.schemaHash
    workspaceId := plan.workspaceId }

/-- The workflow without its content hash. -/
def pageWorkflowBody : WorkflowSpec where
  workflowSpecId := "dataset-generation-page_" ++ pageIdentitySuffix canonical generationId
    pageSequence
  revision := pageContractVersion
  contentHash := ""
  nodes := [⟨"page", plan.requestIntent.capability, [], none⟩]

/-- `generationPageWorkflow`: the one-node workflow of a page Run, with its content hash. -/
def generationPageWorkflow : WorkflowSpec :=
  let body := pageWorkflowBody canonical generationId plan pageSequence
  { body with contentHash := canonical.workflowHash body }

/-- What the generation may still spend. -/
def remainingExecutionCap : Amount :=
  plan.hardExecutionCap - creation.generation.cost.spent

/-- The routes that the provider lock of the generation leaves. -/
def admittedSourceRoutes : List DatasetGenerationRouteSnapshot :=
  plan.routeSnapshots.filter fun route =>
    creation.generation.lockedProvider.all (route.effectAdapterKey == ·)

/-- A route of the page Run reserves at most what is left of the cap. -/
def pageRoute (route : DatasetGenerationRouteSnapshot) : RunPlanRouteSnapshot where
  capability := route.capability
  effectAdapterKey := route.effectAdapterKey
  factsHash := route.factsHash
  nodeKey := "page"
  pricingVersion := route.pricingVersion
  reservableUpperBound := min route.reservableUpperBound (remainingExecutionCap plan creation)
  reservationUnit := route.reservationUnit
  routeKey := route.routeKey

/-- The route snapshots of the sources that the generation admits on its next page. -/
def admittedRoutes : List RunPlanRouteSnapshot :=
  (admittedSourceRoutes plan creation).map (pageRoute plan creation)

/-- The workflow and routes of a page that its plan is drafted from. -/
def pageRunPlanDraftInput (actorPermissions : List String) (normalizedInputHash : ContentHash)
    (now : Instant) : PrepareRunPlanDraftInput where
  runPlanId := "dataset-generation-page-plan_" ++ pageIdentitySuffix canonical generationId
    pageSequence
  workspaceId := plan.workspaceId
  normalizedInputHash := normalizedInputHash
  catalogVersion := plan.queryContract.catalogVersion
  catalogFingerprint := plan.queryContract.catalogFingerprint
  inputContract := datasetGenerationPageInputContract plan
  outputContract := datasetGenerationPageOutputContract plan
  workflow := generationPageWorkflow canonical generationId plan pageSequence
  allowedCapabilities := [plan.requestIntent.capability.capabilityId]
  compilationLimits := ⟨1, 1, 1⟩
  compilerVersion := pageCompilerVersion
  policy := ⟨plan.policy.version, plan.policy.factsHash, datasetGenerationExecutionPermission⟩
  retryPolicy := ⟨1⟩
  actorPermissions := actorPermissions
  authority := plan.authority
  quote := { plan.quote with upperBound := some (remainingExecutionCap plan creation) }
  routeSnapshots := admittedRoutes plan creation
  budget := ⟨plan.budget.unit, remainingExecutionCap plan creation, 0, 0⟩
  deadline := plan.deadline
  now := now

/-- A page Run that is planned and not stored yet. -/
structure PlannedPageRun (Value : Type) where
  runPlan : RunPlan
  validatedInput : ValidatedRunInput Value
  workflow : WorkflowSpec

def mapPreparationFailure : PrepareRunPlanFailure → AuthorizePageFailure
  | .workflowRejected compilation => ⟨.runPlanRejected,
      "The canonical generation page workflow was rejected.", some compilation.code.text⟩
  | .routingRejected _ => ⟨.runPlanRejected,
      "The immutable generation routes cannot execute the first page.",
      some "routing-snapshot-invalid"⟩
  | .policyDenied reasonCodes => ⟨.authorityPermissionMissing,
      "The generation authority cannot execute the canonical page Run.",
      some (",".intercalate (reasonCodes.map PolicyReasonCode.text))⟩

/-- The validated input of a page Run; its identity covers its plan. -/
def pageValidatedInput (runPlan : RunPlan) (now : Instant) : ValidatedRunInput Value :=
  let value := canonical.inputValue
    (generationPageInput generationId plan creation pageSequence inputCursor)
  let contentHash := canonical.evidence.contentHash value
  { classification := "internal"
    contentHash := contentHash
    contract := runPlan.inputContract
    finalizedAt := now
    inputId := "run_input_" ++ hashDigits (canonical.inputIdentity contentHash
      runPlan.inputContract runPlan.runPlanId runPlan.workspaceId)
    mediaType := "application/json"
    sizeBytes := canonical.evidence.byteSize value
    validatedAt := now
    validatorVersion := "dataset-generation-page-input/1.0.0"
    value := value }

/-- `preparePageRun`: input, workflow and plan of the next page, or the refusal of the first check
that fails. -/
def preparePageRun (actorPermissions : List String) (now : Instant) :
    Except AuthorizePageFailure (PlannedPageRun Value) :=
  let value := canonical.inputValue
    (generationPageInput generationId plan creation pageSequence inputCursor)
  match prepareRunPlanDraft (pageRunPlanDraftInput canonical generationId plan creation pageSequence
    actorPermissions (canonical.evidence.contentHash value) now) with
  | .error failure => .error (mapPreparationFailure failure)
  | .ok draft =>
      let runPlan := draft.withHash (canonical.runPlanHash draft)
      if maxRunInputBytes < canonical.evidence.byteSize value then
        .error ⟨.inputTooLarge,
          "The canonical generation page input exceeds 65536 bytes.", none⟩
      else .ok {
        runPlan := runPlan
        validatedInput := pageValidatedInput canonical generationId plan creation pageSequence
          inputCursor runPlan now
        workflow := generationPageWorkflow canonical generationId plan pageSequence }

/-- What a prepared page Run is: the plan of this page within what is left of the cap,
with the admitted routes, bound to the input and the workflow of the page. -/
structure PageRunPrepared (actorPermissions : List String) (now : Instant)
    (planned : PlannedPageRun Value) : Prop where
  draft : ∃ compiled draft, compileWorkflow planned.workflow
      [plan.requestIntent.capability.capabilityId] ⟨1, 1, 1⟩ pageCompilerVersion = .ok compiled ∧
    draft = draftOf (pageRunPlanDraftInput canonical generationId plan creation pageSequence
      actorPermissions planned.validatedInput.contentHash now) compiled
        (admittedRoutes plan creation) ∧
    planned.runPlan = draft.withHash (canonical.runPlanHash draft)
  input : planned.validatedInput = pageValidatedInput canonical generationId plan creation
    pageSequence inputCursor planned.runPlan now
  workflow : planned.workflow = generationPageWorkflow canonical generationId plan pageSequence

variable {canonical generationId plan creation pageSequence inputCursor}

/-- What an accepted preparation establishes of the planned Run. -/
theorem preparePageRun_ok {actorPermissions : List String} {now : Instant}
    {planned : PlannedPageRun Value}
    (prepared : preparePageRun canonical generationId plan creation pageSequence inputCursor
      actorPermissions now = .ok planned) :
    PageRunPrepared canonical generationId plan creation pageSequence inputCursor actorPermissions
      now planned := by
  unfold preparePageRun at prepared
  dsimp only at prepared
  split at prepared
  · cases prepared
  rename_i draft draftEq
  split at prepared
  · cases prepared
  cases prepared
  obtain ⟨compiled, compiledEq, rfl⟩ := prepareRunPlanDraft_ok draftEq
  exact ⟨⟨compiled, _, compiledEq, rfl, rfl⟩, rfl, rfl⟩

end Planning

end Kurobara.Application
