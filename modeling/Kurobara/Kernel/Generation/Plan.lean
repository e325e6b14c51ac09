import Kurobara.Kernel.Product
import Kurobara.Kernel.Generation.QuerySnapshot

/-! # Generation plans

The immutable plan of a dataset generation and the checks of
`createDatasetGenerationPlan`. Every generation operation repeats these checks
before it looks at the generation itself, so an operation that succeeds has a
valid plan.
-/

namespace Kurobara.Kernel

/-- A capability at a version. -/
structure CapabilityRef where
  capabilityId : String
  capabilityVersion : String
  deriving DecidableEq, Repr

/-- A schema of the catalog, with the catalog it is of. -/
structure ContractRef where
  catalogVersion : String
  catalogFingerprint : ContentHash
  schemaId : String
  schemaVersion : String
  schemaFingerprint : ContentHash
  deriving DecidableEq, Repr

/-- A budget with what is spent and reserved of it. -/
structure BudgetLimit where
  unit : String
  limit : Amount
  spent : Amount
  reserved : Amount
  deriving DecidableEq, Repr

/-- What an actor may do, and until when. -/
structure AuthorityEnvelope where
  authorityEnvelopeId : String
  version : String
  subjectActorId : ActorId
  workspaceId : WorkspaceId
  permissions : List String
  capabilities : List CapabilityRef
  budgetLimit : BudgetLimit
  deadline : Instant
  deriving DecidableEq, Repr

inductive QuoteGuarantee where
  | hard
  | estimated
  | unknown
  deriving DecidableEq, Repr

/-- What a provider quotes. -/
structure CostQuote where
  quoteId : String
  guarantee : QuoteGuarantee
  unit : String
  upperBound : Option Amount
  pricingVersion : String
  expiresAt : Instant
  deriving DecidableEq, Repr

/-- The limits of a generation. -/
inductive DatasetGenerationLimitName where
  | maxCompanies
  | maxContactsPerCompany
  | maxContactsTotal
  | maxEnrichments
  | maxPhones
  | maxResults
  | maxPages
  | maxCalls
  deriving DecidableEq, Repr

/-- `DATASET_GENERATION_LIMIT_NAMES`. -/
def datasetGenerationLimitNames : List DatasetGenerationLimitName :=
  [.maxCompanies, .maxContactsPerCompany, .maxContactsTotal, .maxEnrichments, .maxPhones,
    .maxResults, .maxPages, .maxCalls]

theorem mem_datasetGenerationLimitNames (name : DatasetGenerationLimitName) :
    name ∈ datasetGenerationLimitNames := by
  cases name <;> decide

abbrev DatasetGenerationLimits := DatasetGenerationLimitName → ℤ

abbrev DatasetGenerationLimitRequest := DatasetGenerationLimitName → Option ℤ

/-- Whether a route without a known price may be used, and up to which cap. -/
inductive DatasetGenerationUnknownCostPolicy where
  | deny
  | explicitNonInteractive (hardCap : Amount)
  deriving DecidableEq, Repr

structure RequestedBudget where
  limit : Amount
  unit : String
  deriving DecidableEq, Repr

/-- What was asked for. -/
structure DatasetGenerationRequestIntent where
  actorId : ActorId
  authorityEnvelopeId : String
  capability : CapabilityRef
  fields : List Field
  limits : DatasetGenerationLimitRequest
  requestedBudget : RequestedBudget
  requestedDeadline : Instant
  requestedQuery : DatasetGenerationQueryValue
  targetDataset : Dataset
  unknownCostPolicy : DatasetGenerationUnknownCostPolicy
  workspaceId : WorkspaceId

/-- A provider route as it was when the plan was made. -/
structure DatasetGenerationRouteSnapshot where
  capability : CapabilityRef
  effectAdapterKey : String
  factsHash : ContentHash
  pricingVersion : String
  providerIdentityNamespace : Option String
  reservableUpperBound : Amount
  reservationUnit : String
  routeKey : String
  deriving DecidableEq, Repr

/-- The policy the plan was made under. -/
structure DatasetGenerationPolicySnapshot where
  factsHash : ContentHash
  requiredPermission : String
  version : String
  deriving DecidableEq, Repr

/-- The plan of a generation, fixed for its whole life. -/
structure DatasetGenerationPlan where
  authority : AuthorityEnvelope
  budget : BudgetLimit
  deadline : Instant
  generationPlanId : DatasetGenerationPlanId
  hardExecutionCap : Amount
  idempotencyKey : IdempotencyKey
  limits : DatasetGenerationLimits
  normalizedQuery : DatasetGenerationQueryValue
  normalizerVersion : String
  planHash : ContentHash
  policy : DatasetGenerationPolicySnapshot
  queryContract : ContractRef
  queryHash : ContentHash
  quote : CostQuote
  requestIntent : DatasetGenerationRequestIntent
  requestIntentHash : ContentHash
  routeSnapshots : List DatasetGenerationRouteSnapshot
  schemaHash : ContentHash
  workspaceId : WorkspaceId

inductive DatasetGenerationPlanFailureCode where
  | authorityInvalid
  | budgetInvalid
  | identityInvalid
  | queryInvalid
  | routeInvalid
  | schemaInvalid
  | scopeMismatch
  | snapshotInvalid
  deriving DecidableEq, Repr

structure DatasetGenerationPlanFailure where
  code : DatasetGenerationPlanFailureCode
  message : String
  deriving DecidableEq, Repr

inductive DatasetGenerationRequestIntentFailureCode where
  | requestInvalid
  | queryInvalid
  | schemaInvalid
  | scopeMismatch
  deriving DecidableEq, Repr

structure DatasetGenerationRequestIntentFailure where
  code : DatasetGenerationRequestIntentFailureCode
  message : String
  deriving DecidableEq, Repr

/-- `DATASET_GENERATION_EXECUTION_PERMISSION`. -/
def datasetGenerationExecutionPermission : String := "steps:execute"

def isSupportedAuthorityEnvelopeVersion (version : String) : Bool :=
  version == "1.0.0"

/-- The plan cap that bounds accepted dataset records. -/
def datasetGenerationAcceptedRecordLimit (plan : DatasetGenerationPlan) : ℤ :=
  if plan.requestIntent.capability.capabilityId = "organizations.discover" then
    plan.limits .maxCompanies
  else if plan.requestIntent.capability.capabilityId = "contacts.discover" then
    plan.limits .maxContactsTotal
  else
    plan.limits .maxResults

def capabilityMatches (left right : CapabilityRef) : Bool :=
  left.capabilityId == right.capabilityId && left.capabilityVersion == right.capabilityVersion

/-- Every limit is a non-negative safe integer. -/
def limitsAreValid (limits : DatasetGenerationLimits) : Bool :=
  datasetGenerationLimitNames.all fun name => nonNegativeSafeInteger (limits name)

/-- The amounts are amounts, and no more is committed than the limit. -/
def budgetIsValid (budget : BudgetLimit) : Bool :=
  let committed := budget.reserved + budget.spent
  isAmount budget.limit && isAmount budget.reserved && isAmount budget.spent &&
    isAmount committed && nonBlank budget.unit &&
    (decide (committed ≤ budget.limit) || amountsEqual committed budget.limit)

def availableBudget (budget : BudgetLimit) : Amount :=
  budget.limit - budget.reserved - budget.spent

/-- The plan allows no more than was asked for. -/
def limitsDoNotExceedRequest (limits : DatasetGenerationLimits)
    (requested : DatasetGenerationLimitRequest) : Bool :=
  datasetGenerationLimitNames.all fun name =>
    match requested name with
    | none => false
    | some requestedValue => decide (limits name ≤ requestedValue)

def quoteIsValid (quote : CostQuote) : Bool :=
  boundedText quote.quoteId && boundedText quote.pricingVersion && boundedText quote.unit 64 &&
    isSafeInteger quote.expiresAt && decide (0 ≤ quote.expiresAt) &&
    quote.upperBound.all isAmount &&
    (quote.guarantee == .unknown || quote.upperBound.isSome)

def limitRequestIsValid (limits : DatasetGenerationLimitRequest) : Bool :=
  datasetGenerationLimitNames.all fun name => (limits name).all nonNegativeSafeInteger

/-- The checks of one route against the plan, apart from the uniqueness of its key. -/
def routeSnapshotIsValid (input : DatasetGenerationPlan) (intent : DatasetGenerationRequestIntent)
    (route : DatasetGenerationRouteSnapshot) : Bool :=
  capabilityMatches route.capability intent.capability && boundedText route.routeKey &&
    boundedText route.effectAdapterKey &&
    route.providerIdentityNamespace.all (fun providerNamespace =>
      boundedText providerNamespace 128) &&
    boundedText route.pricingVersion && boundedText route.reservationUnit &&
    route.pricingVersion == input.quote.pricingVersion &&
    route.reservationUnit == input.budget.unit && route.factsHash == input.policy.factsHash &&
    isAmount route.reservableUpperBound &&
    !amountExceeds route.reservableUpperBound input.hardExecutionCap &&
    !amountExceeds route.reservableUpperBound (availableBudget input.budget)

/-- `routeSnapshotsAreValid`: from one to 64 routes, each valid for the intent, under distinct keys.
-/
def routeSnapshotsAreValid (input : DatasetGenerationPlan)
    (intent : DatasetGenerationRequestIntent) : Bool :=
  !input.routeSnapshots.isEmpty && decide (input.routeSnapshots.length ≤ 64) &&
    input.routeSnapshots.all (routeSnapshotIsValid input intent) &&
    decide (input.routeSnapshots.map DatasetGenerationRouteSnapshot.routeKey).Nodup

private def unknownCostPolicyIsValid : DatasetGenerationUnknownCostPolicy → Bool
  | .deny => true
  | .explicitNonInteractive hardCap => isAmount hardCap

def validateDatasetGenerationRequestIntent (intent : DatasetGenerationRequestIntent) :
    Except DatasetGenerationRequestIntentFailure DatasetGenerationRequestIntent :=
  if intent.workspaceId != intent.targetDataset.workspaceId ||
      !boundedIdentity intent.authorityEnvelopeId then
    .error ⟨.scopeMismatch,
      "The generation request and target dataset must share one workspace."⟩
  else if !((createDataset intent.targetDataset).toBool &&
      (validateDatasetFields intent.targetDataset intent.fields).toBool) then
    .error ⟨.schemaInvalid, "The target dataset schema is invalid."⟩
  else if !queryIsBounded intent.requestedQuery then
    .error ⟨.queryInvalid, "The requested query must be bounded JSON."⟩
  else if !(boundedText intent.capability.capabilityId &&
        boundedText intent.capability.capabilityVersion &&
        isAmount intent.requestedBudget.limit && boundedText intent.requestedBudget.unit 64 &&
        isSafeInteger intent.requestedDeadline) ||
      decide (intent.requestedDeadline < 0) || !limitRequestIsValid intent.limits ||
      !unknownCostPolicyIsValid intent.unknownCostPolicy then
    .error ⟨.requestInvalid, "The generation request contains an invalid bounded value."⟩
  else
    .ok intent

private def planFailureOfIntentFailure :
    DatasetGenerationRequestIntentFailureCode → DatasetGenerationPlanFailureCode
  | .queryInvalid => .queryInvalid
  | .requestInvalid => .snapshotInvalid
  | .schemaInvalid => .schemaInvalid
  | .scopeMismatch => .scopeMismatch

/-- The authority covers the request, its planning permission and its execution. -/
def authorityCoversRequest (input : DatasetGenerationPlan) : Bool :=
  let intent := input.requestIntent
  input.authority.subjectActorId == intent.actorId &&
    input.authority.authorityEnvelopeId == intent.authorityEnvelopeId &&
    isSupportedAuthorityEnvelopeVersion input.authority.version &&
    input.authority.permissions.contains input.policy.requiredPermission &&
    input.authority.permissions.contains datasetGenerationExecutionPermission &&
    input.authority.capabilities.any fun candidate => capabilityMatches candidate intent.capability

/-- The hard cap fits a hard quote, and an unknown quote needs an explicit hard cap. -/
def quoteAdmitsHardCap (input : DatasetGenerationPlan) : Bool :=
  !(input.quote.guarantee == .hard &&
      input.quote.upperBound.any (amountExceeds input.hardExecutionCap ·)) &&
    !(input.quote.guarantee == .unknown &&
      !(match input.requestIntent.unknownCostPolicy with
        | .deny => false
        | .explicitNonInteractive hardCap => !amountExceeds input.hardExecutionCap hardCap))

/-- The budget block of `createDatasetGenerationPlan`. -/
def budgetSnapshotIsValid (input : DatasetGenerationPlan) : Bool :=
  let intent := input.requestIntent
  limitsAreValid input.limits && limitsDoNotExceedRequest input.limits intent.limits &&
    isAmount input.hardExecutionCap && budgetIsValid input.budget &&
    budgetIsValid input.authority.budgetLimit && quoteIsValid input.quote &&
    isSafeInteger input.deadline && decide (0 ≤ input.deadline) &&
    isSafeInteger input.authority.deadline && decide (0 ≤ input.authority.deadline) &&
    !amountExceeds input.hardExecutionCap (availableBudget input.budget) &&
    input.budget.unit == input.quote.unit && input.budget.unit == intent.requestedBudget.unit &&
    input.budget.unit == input.authority.budgetLimit.unit &&
    !amountExceeds (availableBudget input.budget) intent.requestedBudget.limit &&
    !amountExceeds (availableBudget input.budget) (availableBudget input.authority.budgetLimit) &&
    decide (input.deadline ≤ intent.requestedDeadline) &&
    decide (input.deadline ≤ input.authority.deadline) && quoteAdmitsHardCap input

/-- `createDatasetGenerationPlan`: the plan itself when every check passes, else the first failure.
-/
def createDatasetGenerationPlan (input : DatasetGenerationPlan) :
    Except DatasetGenerationPlanFailure DatasetGenerationPlan :=
  let intent := input.requestIntent
  if !(boundedIdentity input.generationPlanId && boundedIdentity input.idempotencyKey 512) then
    .error ⟨.identityInvalid, "Generation plan identities are invalid."⟩
  else
    match validateDatasetGenerationRequestIntent intent with
    | .error failure => .error ⟨planFailureOfIntentFailure failure.code, failure.message⟩
    | .ok _ =>
      if input.workspaceId != intent.workspaceId ||
          input.workspaceId != intent.targetDataset.workspaceId ||
          input.workspaceId != input.authority.workspaceId then
        .error ⟨.scopeMismatch,
          "The plan, request, dataset, and authority must share one workspace."⟩
      else if !((createDataset intent.targetDataset).toBool &&
          (validateDatasetFields intent.targetDataset intent.fields).toBool) then
        .error ⟨.schemaInvalid, "The target dataset schema is invalid."⟩
      else if !(queryIsBounded intent.requestedQuery && queryIsBounded input.normalizedQuery) then
        .error ⟨.queryInvalid, "Generation queries must be bounded JSON."⟩
      else if !(boundedText input.normalizerVersion && boundedText input.policy.version &&
          boundedText input.policy.requiredPermission) then
        .error ⟨.snapshotInvalid, "Planning snapshots are incomplete."⟩
      else if !authorityCoversRequest input then
        .error ⟨.authorityInvalid,
          "The authority snapshot does not cover the request intention."⟩
      else if !budgetSnapshotIsValid input then
        .error ⟨.budgetInvalid, "The budget snapshot is invalid."⟩
      else if !routeSnapshotsAreValid input intent then
        .error ⟨.routeInvalid, "The route snapshot is invalid."⟩
      else
        .ok input

/-- A plan that `createDatasetGenerationPlan` accepts. -/
def planIsValid (plan : DatasetGenerationPlan) : Bool :=
  (createDatasetGenerationPlan plan).toBool

/-! ## A sample plan -/

def sampleHash : ContentHash :=
  "sha256:0123456789abcdef0123456789abcdef0123456789abcdef0123456789abcdef"

theorem sampleHash_valid : contentHashIsValid sampleHash = true := by
  have characters : sampleHash.toList = ['s', 'h', 'a', '2', '5', '6', ':'] ++
      (List.replicate 4 ['0', '1', '2', '3', '4', '5', '6', '7', '8', '9', 'a', 'b', 'c', 'd', 'e',
        'f']).flatten :=
    String.toList_ofList
  have scheme : "sha256:".toList = ['s', 'h', 'a', '2', '5', '6', ':'] := String.toList_ofList
  rw [contentHashIsValid, characters, scheme]
  decide

/-- An organization search of at most three pages under a hard cap of ten credits. -/
def samplePlan : DatasetGenerationPlan where
  authority := {
    authorityEnvelopeId := "authority-1"
    version := "1.0.0"
    subjectActorId := "actor-1"
    workspaceId := "workspace-1"
    permissions := ["datasets:plan", "steps:execute"]
    capabilities := [⟨"organizations.discover", "1.0.0"⟩]
    budgetLimit := ⟨"credit", 20, 0, 0⟩
    deadline := 1000 }
  budget := ⟨"credit", 10, 0, 0⟩
  deadline := 1000
  generationPlanId := "generation-plan-1"
  hardExecutionCap := 10
  idempotencyKey := "generation-key-1"
  limits := fun _ => 3
  normalizedQuery := .object [("domain", .string "a.example")]
  normalizerVersion := "1.0.0"
  planHash := sampleHash
  policy := ⟨sampleHash, "datasets:plan", "1.0.0"⟩
  queryContract := ⟨"1.0.0", sampleHash, "organizations", "1.0.0", sampleHash⟩
  queryHash := sampleHash
  quote := ⟨"quote-1", .hard, "credit", some 10, "1.0.0", 1000⟩
  requestIntent := {
    actorId := "actor-1"
    authorityEnvelopeId := "authority-1"
    capability := ⟨"organizations.discover", "1.0.0"⟩
    fields := [⟨"dataset-1", "field-1", "domain", "Domain", .string, "workspace-1"⟩]
    limits := fun _ => some 3
    requestedBudget := ⟨10, "credit"⟩
    requestedDeadline := 1000
    requestedQuery := .object [("domain", .string "a.example")]
    targetDataset := ⟨"dataset-1", "Organizations", "workspace-1"⟩
    unknownCostPolicy := .deny
    workspaceId := "workspace-1" }
  requestIntentHash := sampleHash
  routeSnapshots := [{
    capability := ⟨"organizations.discover", "1.0.0"⟩
    effectAdapterKey := "provider-1"
    factsHash := sampleHash
    pricingVersion := "1.0.0"
    providerIdentityNamespace := none
    reservableUpperBound := 4
    reservationUnit := "credit"
    routeKey := "route-1" }]
  schemaHash := sampleHash
  workspaceId := "workspace-1"

theorem samplePlan_valid : planIsValid samplePlan = true := by
  with_unfolding_all decide

end Kurobara.Kernel
