import Kurobara.Kernel.Generation.Artifact
import Kurobara.Persistence.PageRunProof

/-! # Binding a Run proof to its page

The checks that bind the proof of a successful Run to the page, its artifact, route,
usage and manifest. The parser of page artifacts and the canonical content hashes are
parameters.
-/

namespace Kurobara.Application

open Kernel Persistence

/-- How page artifacts are read: the parser, whose items are in page order, and the
canonical content hashes. A plan is hashed without its own hash, a manifest without its
identity. -/
structure PageContract (Value : Type) where
  parsePageArtifact : Value → DatasetGenerationPlan → Option DatasetGenerationPageArtifact
  evidence : ContentEvidence Value
  authorityHash : AuthorityEnvelope → ContentHash
  runPlanHash : RunPlan → ContentHash
  manifestHash : ResultManifest → ContentHash
  checkpointHash : DatasetGenerationPageArtifact → SuccessfulPageRun Value → ContentHash

def maxArtifactBytes : ℕ := 65536

def pageContractVersion : String := "1.0.0"

/-- The contract of page artifacts, from the catalogue of the query. -/
def datasetGenerationPageOutputContract (plan : DatasetGenerationPlan) : ContractRef where
  catalogVersion := plan.queryContract.catalogVersion
  catalogFingerprint := plan.queryContract.catalogFingerprint
  schemaId := "https://schemas.kurobara.invalid/schemas/dataset-generations/page-output/1.0.0"
  schemaVersion := pageContractVersion
  schemaFingerprint := "sha256:f61bef0f513210cf17c84fd53aad2c1624a6913a732e98597056a442bc589ab3"

def datasetGenerationPageInputContract (plan : DatasetGenerationPlan) : ContractRef where
  catalogVersion := plan.queryContract.catalogVersion
  catalogFingerprint := plan.queryContract.catalogFingerprint
  schemaId := "https://schemas.kurobara.invalid/schemas/dataset-generations/page-input/1.0.0"
  schemaVersion := pageContractVersion
  schemaFingerprint := "sha256:40153b13ed33d9bf086dcfde537ce1e17946b0e82b6e0461683c42c24a382a55"

def sameContract (left right : ContractRef) : Bool :=
  left.catalogFingerprint == right.catalogFingerprint &&
    left.catalogVersion == right.catalogVersion &&
    left.schemaFingerprint == right.schemaFingerprint && left.schemaId == right.schemaId &&
    left.schemaVersion == right.schemaVersion

/-- Amounts that differ by a rounding error count as equal. -/
def amountDoesNotExceed (value limit : Amount) : Bool :=
  decide (value < limit) || amountsEqual value limit

/-! ## Lineage -/

def isDerivedContactCapability (capabilityId : String) : Bool :=
  capabilityId == "contacts.identity.reveal" || capabilityId == "contacts.work-email.resolve" ||
    capabilityId == "contacts.work-email.verify"

/-- The value of a property; a later property of the same key replaces an earlier one. -/
def queryProperty (key : String) :
    DatasetGenerationQueryValue → Option DatasetGenerationQueryValue
  | .object properties => (properties.reverse.find? fun property => property.1 == key).map Prod.snd
  | _ => none

/-- The selected contact that a derived page is about. -/
def selectedSourceForPage (plan : DatasetGenerationPlan) (pageSequence : ℤ) :
    Option PageArtifactSource :=
  match queryProperty "selected_contacts" plan.normalizedQuery with
  | some (.array contacts) =>
      match (if 1 ≤ pageSequence then contacts[(pageSequence - 1).toNat]? else none) with
      | some selected =>
          match queryProperty "source_dataset_id" plan.normalizedQuery,
            queryProperty "source_record_id" selected with
          | some (.string datasetId), some (.string recordId) => some ⟨datasetId, recordId⟩
          | _, _ => none
      | none => none
  | _ => none

/-- Each record of a derived page names its selected contact as its source. -/
def selectedContactLineageIsExact (page : DatasetGenerationPage) (plan : DatasetGenerationPlan)
    (records : List PageArtifactItem) : Bool :=
  if !isDerivedContactCapability plan.requestIntent.capability.capabilityId then
    records.all fun item => item.source.isNone
  else
    match selectedSourceForPage plan page.pageSequence with
    | none => false
    | some expected =>
        decide (records.length ≤ 1) && records.all fun item =>
          item.source == some expected && item.record.recordId == expected.recordId

/-- Provider identities stay within the namespace of the route that was used. -/
def contactProviderNamespaceIsExact (plan : DatasetGenerationPlan) (effectAdapterKey : String)
    (records : List PageArtifactItem) : Bool :=
  let route := plan.routeSnapshots.find? fun candidate =>
    candidate.effectAdapterKey == effectAdapterKey
  let expectedNamespace :=
    (route.bind DatasetGenerationRouteSnapshot.providerIdentityNamespace).getD effectAdapterKey
  records.all fun item => item.providerIdentity.all fun identity =>
    identity.providerKey == expectedNamespace

/-! ## The successful proof -/

section Proof

variable {Value : Type} (contract : PageContract Value) (page : DatasetGenerationPage)
  (plan : DatasetGenerationPlan) (generation : DatasetGenerationCreation)
  (proof : SuccessfulPageRun Value)

/-- What the page Run could spend when it was planned. -/
def capBeforePage : Amount :=
  plan.hardExecutionCap - (generation.generation.cost.spent - page.costAmount.getD 0)

/-- The routes of the plan that the page Run could take. -/
def admittedRoutesBeforePage : List DatasetGenerationRouteSnapshot :=
  let lockedProvider := if page.pageSequence = 1 then none else generation.generation.lockedProvider
  plan.routeSnapshots.filter fun route => lockedProvider.all (route.effectAdapterKey == ·)

/-- The proof is of the Run of this page, completed with this manifest. -/
def pageRunIsExact : Bool :=
  page.state != .runCreated && proof.run.runId == page.runId &&
    proof.run.runPlanId == page.runPlanId && proof.run.workspaceId == page.workspaceId &&
    proof.run.state == .completed &&
    proof.run.resultManifest == some (resultManifestRef proof.manifest)

/-- The page Run was planned for this page of this generation. -/
def pageRunPlanIsExact : Bool :=
  let runPlan := proof.runPlan
  runPlan.runPlanId == page.runPlanId && runPlan.workspaceId == page.workspaceId &&
    contract.authorityHash runPlan.authority == contract.authorityHash plan.authority &&
    runPlan.deadline == plan.deadline && runPlan.policyFactsHash == plan.policy.factsHash &&
    runPlan.policyVersion == plan.policy.version &&
    runPlan.budget.limit == capBeforePage page plan generation && runPlan.budget.reserved == 0 &&
    runPlan.budget.spent == 0 && runPlan.budget.unit == plan.budget.unit &&
    runPlan.quote.quoteId == plan.quote.quoteId &&
    runPlan.quote.pricingVersion == plan.quote.pricingVersion &&
    runPlan.quote.unit == plan.quote.unit &&
    runPlan.quote.upperBound == some (capBeforePage page plan generation) &&
    runPlan.normalizedInputHash == page.inputContentHash &&
    runPlan.planHash == contract.runPlanHash runPlan &&
    runPlan.planHash == proof.manifest.planHash &&
    sameContract runPlan.inputContract (datasetGenerationPageInputContract plan) &&
    sameContract runPlan.outputContract (datasetGenerationPageOutputContract plan) &&
    match runPlan.compiledWorkflow.nodes with
    | [node] => node.key == "page" && node.dependsOn.isEmpty &&
        capabilityMatches node.capability plan.requestIntent.capability
    | _ => false

/-- A route of the page Run is the admitted route at its position. -/
def pageRouteIsExact (route : RunPlanRouteSnapshot) (source : DatasetGenerationRouteSnapshot) :
    Bool :=
  route.nodeKey == "page" && route.routeKey == source.routeKey &&
    route.effectAdapterKey == source.effectAdapterKey && route.factsHash == source.factsHash &&
    route.pricingVersion == source.pricingVersion &&
    route.reservationUnit == source.reservationUnit &&
    route.reservableUpperBound ==
      min source.reservableUpperBound (capBeforePage page plan generation) &&
    capabilityMatches route.capability source.capability

private def pageRoutesAreExact : Bool :=
  match proof.runPlan.routeSnapshots with
  | none => false
  | some routes =>
      let sources := admittedRoutesBeforePage page plan generation
      routes.length == sources.length &&
        (routes.zip sources).all fun pair => pageRouteIsExact page plan generation pair.1 pair.2

/-- The page carries the effect evidence of this attempt of this step. -/
def pageAttemptIsExact : Bool :=
  let attempt := proof.attempt
  let stepRun := proof.stepRun
  stepRun.runId == page.runId && stepRun.workspaceId == page.workspaceId &&
    stepRun.nodeKey == "page" && stepRun.state == .succeeded &&
    stepRun.stepRunId == attempt.stepRunId &&
    stepRun.attempts.getLast?.map Attempt.attemptId == some attempt.attemptId &&
    attempt.state == .succeeded && page.stepRunId == some stepRun.stepRunId &&
    page.attemptId == some attempt.attemptId && page.operationKey == some attempt.operationKey &&
    page.providerKey == some attempt.effectAdapterKey &&
    page.reservationId == some attempt.costReservationId &&
    page.reservedAmount == some attempt.reservedAmount &&
    page.costUnit == some attempt.reservationUnit && page.routeKey == some attempt.routeKey &&
    page.routeSnapshotHash == some attempt.routeSnapshotHash &&
    page.routingDecisionId == some attempt.routingDecisionId

/-- The attempt produced this artifact under this routing decision. -/
def pageArtifactIsExact (parsed : DatasetGenerationPageArtifact) : Bool :=
  let artifact := proof.artifact
  let attempt := proof.attempt
  let decision := proof.routingDecision
  (attempt.output.any fun output => output.artifact == artifactRef artifact &&
    sameContract output.contract proof.runPlan.outputContract) &&
    attempt.operationKey == artifact.operationKey && attempt.attemptId == artifact.attemptId &&
    attempt.routingDecisionId == decision.routingDecisionId &&
    attempt.effectAdapterKey == decision.effectAdapterKey &&
    contactProviderNamespaceIsExact plan decision.effectAdapterKey parsed.items &&
    selectedContactLineageIsExact page plan parsed.items &&
    attempt.routeKey == decision.routeKey &&
    attempt.routeSnapshotHash == decision.routeSnapshotHash &&
    attempt.reservedAmount == decision.reservedAmount &&
    attempt.reservationUnit == decision.reservationUnit && decision.runId == page.runId &&
    decision.stepRunId == proof.stepRun.stepRunId && decision.workspaceId == page.workspaceId &&
    artifact.runId == page.runId && artifact.stepRunId == proof.stepRun.stepRunId &&
    artifact.workspaceId == page.workspaceId &&
    artifact.sizeBytes == contract.evidence.byteSize proof.artifactValue &&
    artifact.contentHash == contract.evidence.contentHash proof.artifactValue &&
    decide (artifact.sizeBytes ≤ maxArtifactBytes) &&
    sameContract artifact.contract proof.runPlan.outputContract

/-- The usage entry is the one of the attempt that settled it. -/
def pageUsageIsExact : Bool :=
  let attempt := proof.attempt
  let usage := proof.usage
  attempt.operationKey == usage.operationKey && attempt.costReservationId == usage.reservationId &&
    attempt.attemptId == usage.attemptId && usage.runId == page.runId &&
    usage.workspaceId == page.workspaceId && usage.unit == attempt.reservationUnit &&
    amountDoesNotExceed usage.amount attempt.reservedAmount

/-- An accepted result of exactly this artifact. -/
def acceptsArtifact (output : ValidatedOutputRef) : Bool :=
  output.artifact == artifactRef proof.artifact &&
    sameContract output.contract proof.runPlan.outputContract

/-- The manifest has its own hash and is the one of the page Run. -/
def pageManifestIsExact : Bool :=
  let manifest := proof.manifest
  let usage := proof.usage
  manifest.manifestHash == contract.manifestHash manifest && manifest.runId == page.runId &&
    manifest.runPlanId == page.runPlanId && manifest.workspaceId == page.workspaceId &&
    manifest.conclusion == .completed && manifest.resultCompleteness == .complete &&
    manifest.cost.reserved == 0 && amountsEqual manifest.cost.spent usage.amount &&
    manifest.cost.unit == usage.unit &&
    (match manifest.entries with
      | [entry] => entry.stepRunId == proof.stepRun.stepRunId &&
          entry.terminalAttemptId == some proof.attempt.attemptId && entry.state == .succeeded &&
          match entry.result with
          | .accepted output => acceptsArtifact proof output
          | .missing _ => false
      | _ => false) &&
    match manifest.output with
    | .accepted output => acceptsArtifact proof output
    | .missing _ => false

/-- The only settlement of the manifest is that of the attempt. -/
def pageSettlementIsExact : Bool :=
  let attempt := proof.attempt
  let usage := proof.usage
  match proof.manifest.attemptSettlements with
  | [settlement] => settlement.attemptId == attempt.attemptId &&
      settlement.operationKey == attempt.operationKey &&
      settlement.reservationId == attempt.costReservationId &&
      settlement.disposition == .settled && settlement.usageEntryId == some usage.usageEntryId &&
      (settlement.settledAmount.any fun settled => amountsEqual settled usage.amount) &&
      amountsEqual (settlement.releasedAmount + usage.amount) attempt.reservedAmount &&
      settlement.unit == usage.unit
  | _ => false

/-- The conjuncts of `successfulProofIsExact`, grouped by what they bind. -/
def successfulProofIsExact (parsed : DatasetGenerationPageArtifact) : Bool :=
  pageRunIsExact page proof && pageRunPlanIsExact contract page plan generation proof &&
    pageRoutesAreExact page plan generation proof && pageAttemptIsExact page proof &&
    pageArtifactIsExact contract page plan proof parsed && pageUsageIsExact page proof &&
    pageManifestIsExact contract page proof && pageSettlementIsExact proof

end Proof

end Kurobara.Application
