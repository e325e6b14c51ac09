import Kurobara.Application.AdvancePlayRun
import Kurobara.Application.ListContactCandidates
import Kurobara.Kernel.NormalizedJson
import Kurobara.Kernel.Generation.Plan

/-! # The Play executor

The generation requests that the executor of Play stages makes: discovery of organizations
and of contacts, and the enrichment of the selected contacts. The suffix of a stage's
identities is a hash of the run, the ordinal and the operation.
-/

namespace Kurobara.Application

open Kurobara.Kernel Kurobara.Persistence

/-- The cardinality limits of a generation request. -/
structure StageLimits where
  maxCalls : ℚ
  maxCompanies : ℚ
  maxContactsPerCompany : ℚ
  maxContactsTotal : ℚ
  maxEnrichments : ℚ
  maxPages : ℚ
  maxPhones : ℚ
  maxResults : ℚ
deriving DecidableEq, Repr

/-- What a stage asks `planGeneration` for. -/
structure StagePlanning where
  actorId : ActorId
  authorityEnvelopeId : String
  capability : CapabilityRef
  idempotencyKey : String
  limits : StageLimits
  query : NormalizedJsonValue
  requestedBudget : GtmPlayBudget
  requestedDeadline : Instant
  targetDatasetId : DatasetId
  targetDatasetName : String
  workspaceId : WorkspaceId

/-- The smallest budget that the executor requests. -/
def minimumBudget : Amount := 1 / 1000000

/-- What is left of the limit, but never less than a floor. -/
def remainingBudget (run : StoredGtmPlayRun) : GtmPlayBudget where
  limit := max minimumBudget (run.definition.budget.limit - run.execution.cost.spent)
  unit := run.definition.budget.unit

/-- The last completed stage before this one. -/
def previousCompletedStage (run : StoredGtmPlayRun) (stage : GtmPlayRunStageReceipt) :
    Option GtmPlayRunStageReceipt :=
  run.execution.stages.reverse.find? fun candidate =>
    decide (candidate.ordinal < stage.ordinal) && candidate.state == .completed

/-! ## Queries -/

inductive OrganizationSource where
  | generation (generationId : String)
  | dataset (datasetId : DatasetId) (defaultCountryCode : Option String)
      (fieldMapping : GtmPlayFieldMapping) (materializationId : DatasetMaterializationId)
deriving DecidableEq, Repr

/-- Contacts are searched in the organizations of the stage before, or in an imported dataset. -/
def organizationSourceFor (run : StoredGtmPlayRun) (stage : GtmPlayRunStageReceipt) :
    OrganizationSource :=
  match run.definition.source with
  | .organizationSearch _ _ _ =>
      .generation (((previousCompletedStage run stage).bind
        GtmPlayRunStageReceipt.generationId).getD "missing-generation")
  | .importedDataset datasetId defaultCountryCode fieldMapping materializationId =>
      .dataset datasetId defaultCountryCode fieldMapping materializationId

private def textList (values : List String) : NormalizedJsonValue :=
  .array (values.map .string)

private def optionalText (key : String) (value : Option String) : JsonProperties :=
  value.toList.map fun text => (key, .string text)

private def fieldMappingQuery (fieldMapping : GtmPlayFieldMapping) : NormalizedJsonValue :=
  .object (optionalText "country_code" fieldMapping.countryCode ++
    [("domain", .string fieldMapping.domain)] ++ optionalText "name" fieldMapping.name)

def organizationSourceQueryFor : OrganizationSource → NormalizedJsonValue
  | .generation generationId =>
      .object [("generation_id", .string generationId), ("kind", .string "generation")]
  | .dataset datasetId defaultCountryCode fieldMapping _ =>
      .object ([("dataset_id", .string datasetId)] ++
        optionalText "default_country_code" defaultCountryCode ++
        [("field_mapping", fieldMappingQuery fieldMapping), ("kind", .string "dataset")])

def organizationDiscoveryQueryForPlay (countries industries keywords : List String) :
    NormalizedJsonValue :=
  .object ([("country_codes", textList countries), ("country_scope", .string "headquarters"),
      ("industry_codes", textList industries), ("industry_taxonomy", .string "kurobara-v1")] ++
    (if keywords.isEmpty then [] else [("keywords", textList keywords)]) ++
    [("result_kind", .string "company")])

private def contactDiscoveryQueryForPlay (audience : GtmPlayAudience)
    (source : OrganizationSource) :
    NormalizedJsonValue :=
  .object [("company_headquarters_country_codes", textList audience.companyCountries),
    ("departments", textList audience.departments),
    ("organization_source", organizationSourceQueryFor source),
    ("person_country_codes", textList audience.personCountries),
    ("result_kind", .string "contact"), ("seniorities", textList audience.seniorities),
    ("titles", textList audience.titles)]

/-! ## Requests -/

/-- `startOrganizationStage`'s request; another source is an exception. -/
def organizationStageRequest (suffix : String) (run : StoredGtmPlayRun) : Option StagePlanning :=
  match run.definition.source with
  | .importedDataset _ _ _ _ => none
  | .organizationSearch countries industries keywords =>
      some
        { actorId := run.executionActor.actorId
          authorityEnvelopeId := run.definition.authorityEnvelopeId
          capability := ⟨"organizations.discover", "1.0.0"⟩
          idempotencyKey := "play-" ++ suffix
          limits :=
            { maxCalls := 1
              maxCompanies := run.definition.preview.maxCompanies
              maxContactsPerCompany := 0
              maxContactsTotal := 0
              maxEnrichments := 0
              maxPages := 1
              maxPhones := 0
              maxResults := run.definition.preview.maxCompanies }
          query := organizationDiscoveryQueryForPlay countries industries keywords
          requestedBudget := remainingBudget run
          requestedDeadline := run.definition.deadlineMs
          targetDatasetId := "play_org_" ++ suffix
          targetDatasetName := "Play " ++ run.playId ++ " organizations"
          workspaceId := run.workspaceId }

/-- `startContactStage`'s request. -/
def contactStageRequest (suffix : String) (run : StoredGtmPlayRun)
    (stage : GtmPlayRunStageReceipt) : StagePlanning where
  actorId := run.executionActor.actorId
  authorityEnvelopeId := run.definition.authorityEnvelopeId
  capability := ⟨"contacts.discover", "1.0.0"⟩
  idempotencyKey := "play-" ++ suffix
  limits :=
    { maxCalls := 1
      maxCompanies := run.definition.preview.maxCompanies
      maxContactsPerCompany := run.definition.preview.maxContactsPerCompany
      maxContactsTotal := run.definition.preview.maxContactsTotal
      maxEnrichments := 0
      maxPages := 1
      maxPhones := 0
      maxResults := run.definition.preview.maxContactsTotal }
  query := contactDiscoveryQueryForPlay run.definition.audience (organizationSourceFor run stage)
  requestedBudget := remainingBudget run
  requestedDeadline := run.definition.deadlineMs
  targetDatasetId := "play_contacts_" ++ suffix
  targetDatasetName := "Play " ++ run.playId ++ " contacts"
  workspaceId := run.workspaceId

/-- The limit of `selectContactRecords` on the contacts it lists. -/
def selectionLimit (definition : GtmPlayDefinition) : ℚ :=
  min 3 definition.preview.maxContactsTotal

/-- That limit as the limit of a page; a fraction is not one. -/
def selectionPageLimit (definition : GtmPlayDefinition) : Option ℤ :=
  if (selectionLimit definition).den = 1 then some (selectionLimit definition).num else none

/-- The run acts for whoever started it. -/
def actorFor (run : StoredGtmPlayRun) : VerifiedApiKey where
  actorId := run.executionActor.actorId
  permissions := run.executionActor.permissions
  workspaceId := run.workspaceId

/-- `selectContactRecords`: the contacts selected before, or those that `listContacts` answers
of the contact stage's generation. -/
def selectContactRecords (listing : ContactListing) (run : StoredGtmPlayRun)
    (contactStage : GtmPlayRunStageReceipt) : Option (List String) :=
  if run.execution.selectedRecordIds.isEmpty then do
    let generationId ← contactStage.generationId
    let limit ← selectionPageLimit run.definition
    match listContactCandidates "datasets:read" listing
        { actor := actorFor run, afterOrdinal := 0, generationId := generationId,
          limit := limit } with
    | .error _ => none
    | .ok selected =>
        if selected.items.isEmpty then none
        else some (selected.items.map ReadyGenerationCandidatePage.ListedCandidate.candidate)
  else some run.execution.selectedRecordIds

/-- The contact stage of a run, or the stage before an enrichment where it has none. -/
def contactStageOf (run : StoredGtmPlayRun) (source : GtmPlayRunStageReceipt) :
    GtmPlayRunStageReceipt :=
  (run.execution.stages.find? fun candidate =>
    candidate.operationId == "contacts.discover").getD source

/-- The selection that both derivations accept: one to three unique records. -/
def selectionIsBounded (actorPermissions : List String) (recordIds : List String) : Bool :=
  actorPermissions.contains "contacts:enrich" && actorPermissions.contains "steps:execute" &&
    decide (1 ≤ recordIds.length) && decide (recordIds.length ≤ 3) &&
    decide (recordIds.eraseDups.length = recordIds.length)

/-- The limits of a derivation of the selected contacts. -/
def enrichmentLimits (count : ℕ) : StageLimits where
  maxCalls := count
  maxCompanies := 0
  maxContactsPerCompany := 0
  maxContactsTotal := count
  maxEnrichments := count
  maxPages := count
  maxPhones := 0
  maxResults := count

/-- The calls and the budget that a stage asks its child generation for. -/
structure ChildRequest where
  maxCalls : ℚ
  budget : GtmPlayBudget
deriving DecidableEq, Repr

/-- What `startEnrichmentStage` asks for, given how contacts are listed. -/
def enrichmentChildRequest (run : StoredGtmPlayRun) (stage : GtmPlayRunStageReceipt)
    (listing : ContactListing) : Option ChildRequest := do
  let source ← previousCompletedStage run stage
  let _ ← source.datasetId
  let _ ← source.generationId
  let recordIds ← selectContactRecords listing run (contactStageOf run source)
  if selectionIsBounded run.executionActor.permissions recordIds then
    some { maxCalls := (enrichmentLimits recordIds.length).maxCalls, budget := remainingBudget run }
  else none

/-- What `startStage` asks a child generation for, or nothing when the stage is rejected. -/
def childRequest (suffix : String) (run : StoredGtmPlayRun) (stage : GtmPlayRunStageReceipt)
    (listing : ContactListing) : Option ChildRequest :=
  if stage.operationId == "organizations.discover" then
    (organizationStageRequest suffix run).map fun planning =>
      { maxCalls := planning.limits.maxCalls, budget := planning.requestedBudget }
  else if stage.operationId == "contacts.discover" then
    let planning := contactStageRequest suffix run stage
    some { maxCalls := planning.limits.maxCalls, budget := planning.requestedBudget }
  else enrichmentChildRequest run stage listing

private theorem selectionPageLimit_eq {definition : GtmPlayDefinition} {limit : ℤ}
    (isLimit : selectionPageLimit definition = some limit) :
    (limit : ℚ) = selectionLimit definition := by
  unfold selectionPageLimit at isLimit
  split at isLimit
  · rename_i whole
    obtain rfl := Option.some.inj isLimit
    exact Rat.coe_int_num_of_den_eq_one whole
  · cases isLimit

/-- **A selection holds no more contacts than its limit**: those selected before do, and a
page of listed contacts does. -/
theorem selectContactRecords_length {listing : ContactListing} {run : StoredGtmPlayRun}
    {contactStage : GtmPlayRunStageReceipt} {recordIds : List String}
    (before : (run.execution.selectedRecordIds.length : ℚ) ≤ selectionLimit run.definition)
    (selected : selectContactRecords listing run contactStage = some recordIds) :
    (recordIds.length : ℚ) ≤ selectionLimit run.definition := by
  unfold selectContactRecords at selected
  split at selected
  · simp only [Option.bind_eq_bind, Option.bind_eq_some_iff] at selected
    obtain ⟨generationId, _, limit, isLimit, answered⟩ := selected
    split at answered
    · cases answered
    · rename_i page listed
      split at answered
      · cases answered
      · obtain rfl := Option.some.inj answered
        have within := listContactCandidates_length listed
        rw [List.length_map, ← selectionPageLimit_eq isLimit]
        exact_mod_cast within
  · obtain rfl := Option.some.inj selected
    exact before

end Kurobara.Application
